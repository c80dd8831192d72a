import Telemetry.Json.Draft
import Telemetry.Number.Decimal
import Telemetry.Number.Hexadecimal

/-!
# Reading JSON text

A text is cut into tokens, and the tokens are assembled into a draft with a
stack of open arrays and objects. Both passes go over their list once, from
left to right.

* `Token`, `tokens`: brackets, separators, strings, other scalars, and `bad`
  for what is no token;
* `numberOfParts`: the value of a number. Twenty digits at most are read
  exactly; the power of ten is applied afterwards, each step rounded;
* `Draft.ofText`: the draft of a text, and whether anything follows it.
-/

namespace Telemetry.Json

open Telemetry.Number

/-- A token of a JSON text. -/
inductive Token where
  /-- One of the brackets, the comma and the colon. -/
  | mark (c : Char)
  /-- A string; `none` if it holds half a surrogate pair. -/
  | text (s : Option String)
  /-- Any other scalar. -/
  | scalar (d : Draft)
  /-- What is no token. -/
  | bad

/-- The white space of JSON. -/
def isSpace (c : Char) : Bool :=
  c == ' ' || c == '\n' || c == '\t' || c == '\r'

/-- The marks of JSON. -/
def isMark (c : Char) : Bool :=
  c == '[' || c == ']' || c == '\x7b' || c == '\x7d' || c == ',' || c == ':'

/-! ## Numbers -/

/-- The largest integer of 64 bits without sign. -/
def wordMax : Nat := 0xFFFFFFFFFFFFFFFF

/-- Appends digits to a number while it stays within 64 bits; also how many
digits were appended. -/
def absorb (n count : Nat) : List Char → Nat × Nat
  | [] => (n, count)
  | c :: cs =>
    let m := 10 * n + digitValue c
    if wordMax < m then (n, count) else absorb m (count + 1) cs

/-- A double as a scalar of a text. -/
def doubleDraft (negative : Bool) : Option Binary64 → Draft
  | none => .unusable
  | some x =>
    let y := if negative then x.neg else x
    if h : y.isFinite = true then .float ⟨y, h⟩ else .unusable

/-- An integer as a scalar of a text: an integer of 64 bits if it fits, and
otherwise a double. Minus zero is a double. -/
def integerDraft (negative : Bool) (n : Nat) : Draft :=
  let i : Int := if negative then -n else n
  if h : (-0x8000000000000000 ≤ i ∧ i < 0x10000000000000000) ∧ ¬(negative ∧ n = 0) then
    .int ⟨i, h.1⟩
  else doubleDraft negative (some (Binary64.ofNat n))

/-- The value of a number with these digits before and after the point, and
this exponent; `exact` when the text has neither a point nor an exponent. -/
def numberOfParts (negative : Bool) (whole fraction : List Char) (exponent : Int) (exact : Bool) :
    Draft :=
  let (n, read) := absorb 0 0 whole
  let dropped := whole.length - read
  if exact && dropped == 0 then integerDraft negative n
  else
    let (m, appended) := absorb n 0 fraction
    doubleDraft negative ((Binary64.ofNat m).scale (dropped - appended + exponent))

/-- The digits at the start of a text, at least one. -/
def someDigits? (cs : List Char) : Option (List Char × List Char) :=
  match spanDigits cs with
  | ([], _) => none
  | (ds, rest) => some (ds, rest)

/-- The digits before the point: a single zero, or digits that begin with
another one. -/
def wholePart? (cs : List Char) : Option (List Char × List Char) :=
  match someDigits? cs with
  | some ('0' :: _ :: _, _) => none
  | r => r

/-- The point and the digits after it, if a point is next. -/
def fractionPart? : List Char → Option (List Char × List Char)
  | '.' :: cs => someDigits? cs
  | cs => some ([], cs)

/-- A sign, if one is next: whether it is a minus. -/
def signPart : List Char → Bool × List Char
  | '-' :: cs => (true, cs)
  | '+' :: cs => (false, cs)
  | cs => (false, cs)

/-- The exponent, if one is next. -/
def exponentPart? : List Char → Option (Option Int × List Char)
  | [] => some (none, [])
  | c :: cs =>
    if c == 'e' || c == 'E' then
      let (negative, cs) := signPart cs
      (someDigits? cs).map fun (ds, rest) =>
        (some (if negative then -(ofDigits ds : Int) else ofDigits ds), rest)
    else some (none, c :: cs)

/-- The number at the start of a text, and what follows it. -/
def number? (cs : List Char) : Option (Draft × List Char) := do
  let (negative, cs) := match cs with
    | '-' :: cs => (true, cs)
    | cs => (false, cs)
  let (whole, cs) ← wholePart? cs
  let (fraction, cs) ← fractionPart? cs
  let (exponent, cs) ← exponentPart? cs
  let exact := fraction.isEmpty && exponent.isNone
  return (numberOfParts negative whole fraction (exponent.getD 0) exact, cs)

/-! ## Tokens -/

/-- A word that a text begins with, and what follows it. -/
def keyword? (word cs : List Char) : Option (List Char) :=
  if word.isPrefixOf cs then some (cs.drop word.length) else none

/-- The scalar at the start of a run of characters, and what follows it. -/
def scalar? (cs : List Char) : Option (Draft × List Char) :=
  match cs with
  | 'n' :: _ => (keyword? ['n', 'u', 'l', 'l'] cs).map (Draft.null, ·)
  | 't' :: _ => (keyword? ['t', 'r', 'u', 'e'] cs).map (Draft.bool true, ·)
  | 'f' :: _ => (keyword? ['f', 'a', 'l', 's', 'e'] cs).map (Draft.bool false, ·)
  | _ => number? cs

/-- The tokens of a run of characters that are no marks, white space or
quotes: a scalar, and `bad` if more follows it. -/
def wordTokens (cs : List Char) : List Token :=
  match scalar? cs with
  | some (d, []) => [.scalar d]
  | some (d, _ :: _) => [.scalar d, .bad]
  | none => [.bad]

/-- The value of four hexadecimal digits. -/
def hexUnit? (a b c d : Char) : Option Nat :=
  ofHex? [a, b, c, d]

/-- The character that a short escape stands for. -/
def shortEscape? : Char → Option Char
  | '"' => some '"'
  | '\\' => some '\\'
  | '/' => some '/'
  | 'b' => some '\x08'
  | 'f' => some '\x0c'
  | 'n' => some '\n'
  | 'r' => some '\r'
  | 't' => some '\t'
  | _ => none

/-- A string that is being read: its characters so far in reverse, the first
half of a surrogate pair that waits for the second one, and whether every pair
so far was whole. -/
structure PartialString where
  chars : List Char
  half : Option Nat
  whole : Bool

namespace PartialString

/-- The string before its first character. -/
def start : PartialString := ⟨[], none, true⟩

/-- One more character. -/
def push (p : PartialString) (c : Char) : PartialString :=
  ⟨c :: p.chars, none, p.whole && p.half.isNone⟩

/-- One more escaped unit of sixteen bits. -/
def pushUnit (p : PartialString) (n : Nat) : PartialString :=
  if 0xDC00 ≤ n ∧ n ≤ 0xDFFF then
    match p.half with
    | some high =>
      ⟨Char.ofNat (0x10000 + (high - 0xD800) * 0x400 + (n - 0xDC00)) :: p.chars, none, p.whole⟩
    | none => ⟨p.chars, none, false⟩
  else if 0xD800 ≤ n ∧ n ≤ 0xDBFF then ⟨p.chars, some n, p.whole && p.half.isNone⟩
  else p.push (Char.ofNat n)

/-- The string at its closing quote. -/
def finish (p : PartialString) : Option String :=
  if p.whole && p.half.isNone then some (String.ofList p.chars.reverse) else none

end PartialString

/-- Where the reading of a text stands between two characters. -/
inductive Mode where
  /-- Between tokens. -/
  | between
  /-- In a run of characters, held in reverse. -/
  | word (cs : List Char)
  /-- In a string. -/
  | quote (p : PartialString)

/-- What a character does that stands between tokens. -/
def begins (c : Char) : List Token × Mode :=
  if isSpace c then ([], .between)
  else if c == '"' then ([], .quote .start)
  else if isMark c then ([.mark c], .between)
  else ([], .word [c])

/-- The tokens of a text, from a given point on. -/
def tokensFrom : Mode → List Char → List Token
  | .between, [] => []
  | .word w, [] => wordTokens w.reverse
  | .quote _, [] => [.bad]
  | .between, c :: cs =>
    let (ts, mode) := begins c
    ts ++ tokensFrom mode cs
  | .word w, c :: cs =>
    if isSpace c || c == '"' || isMark c then
      let (ts, mode) := begins c
      wordTokens w.reverse ++ ts ++ tokensFrom mode cs
    else tokensFrom (.word (c :: w)) cs
  | .quote p, '"' :: cs => .text p.finish :: tokensFrom .between cs
  | .quote p, '\\' :: 'u' :: a :: b :: c :: d :: cs =>
    match hexUnit? a b c d with
    | some n => tokensFrom (.quote (p.pushUnit n)) cs
    | none => [.bad]
  | .quote p, '\\' :: c :: cs =>
    match shortEscape? c with
    | some e => tokensFrom (.quote (p.push e)) cs
    | none => [.bad]
  | .quote p, c :: cs =>
    if c == '\\' || c.toNat < 32 then [.bad] else tokensFrom (.quote (p.push c)) cs

/-- The tokens of a text, up to the first `bad` one. -/
def tokens (cs : List Char) : List Token :=
  tokensFrom .between cs

/-! ## Assembly -/

/-- What an open array or object waits for. -/
inductive Awaited where
  /-- The first item or key, or the closing bracket. -/
  | first
  /-- An item or key. -/
  | next
  /-- The colon after this key. -/
  | colon (key : Option String)
  /-- The value of this key. -/
  | value (key : Option String)
  /-- A comma or the closing bracket. -/
  | comma

/-- An array or object that has been opened and not closed yet, with what it
holds in reverse. -/
inductive Frame where
  | arr (items : List Draft) (awaited : Awaited)
  | obj (members : List (Option String × Draft)) (awaited : Awaited)

/-- How deeply arrays and objects may be nested in each other. -/
def depthLimit : Nat := 127

/-- A closed array or object with `height` others around it. -/
def limited (height : Nat) (d : Draft) : Draft :=
  if height < depthLimit then d else .tooDeep d

/-- The draft of a frame that ends here, with `height` frames around it. -/
def Frame.close (height : Nat) (ending : Ending) : Frame → Draft
  | .arr items _ => limited height (.arr items.reverse ending)
  | .obj members _ => limited height (.obj members.reverse ending)

/-- A frame with the value that it waited for. -/
def Frame.add (d : Draft) : Frame → Frame
  | .arr items _ => .arr (d :: items) .comma
  | .obj members (.value key) => .obj ((key, d) :: members) .comma
  | f => f

/-- The frame as a fault leaves it: a key keeps its place, with a fault for its
value. -/
def Frame.spoil : Frame → Frame
  | .obj members (.colon key) | .obj members (.value key) => .obj ((key, .fault) :: members) .comma
  | f => f

/-- Closes every frame at a fault, the innermost one with the given ending. -/
def abandon (ending : Ending) : List Frame → Draft
  | [] => .fault
  | f :: rest => go (f.spoil.close rest.length ending) rest
where
  /-- Hands a broken value outwards through the frames. -/
  go (d : Draft) : List Frame → Draft
    | [] => d
    | f :: rest => go ((f.add d).close rest.length .broken) rest

/-- What a token does: the reading goes on with these frames, has a whole value,
or meets a fault. -/
inductive Step where
  | more (stack : List Frame)
  | whole (d : Draft)
  | wrong (ending : Ending)

/-- Hands a whole value to the innermost frame. -/
def deliver (d : Draft) : List Frame → Step
  | [] => .whole d
  | f :: rest => .more (f.add d :: rest)

/-- What the token of a value does where a value may stand. -/
def startValue (stack : List Frame) : Token → Step
  | .scalar d => deliver d stack
  | .text (some s) => deliver (.str s) stack
  | .text none => deliver .unusable stack
  | .mark '[' => .more (.arr [] .first :: stack)
  | .mark '\x7b' => .more (.obj [] .first :: stack)
  | _ => .wrong .broken

/-- What a token does that stands where a key should stand. -/
def startKey (members : List (Option String × Draft)) (rest : List Frame) : Token → Step
  | .text key => .more (.obj members (.colon key) :: rest)
  | .scalar .unusable => .wrong .broken
  | .scalar _ | .mark '[' | .mark '\x7b' => .wrong .misplaced
  | _ => .wrong .broken

/-- What the next token does. -/
def advance (stack : List Frame) (t : Token) : Step :=
  match stack with
  | [] => startValue [] t
  | .arr items awaited :: rest =>
    match awaited, t with
    | .first, .mark ']' | .comma, .mark ']' =>
      deliver ((Frame.arr items .comma).close rest.length .closed) rest
    | .comma, .mark ',' => .more (.arr items .next :: rest)
    | .first, t | .next, t => startValue stack t
    | _, _ => .wrong .broken
  | .obj members awaited :: rest =>
    match awaited, t with
    | .first, .mark '\x7d' | .comma, .mark '\x7d' =>
      deliver ((Frame.obj members .comma).close rest.length .closed) rest
    | .comma, .mark ',' => .more (.obj members .next :: rest)
    | .first, t | .next, t => startKey members rest t
    | .colon key, .mark ':' => .more (.obj members (.value key) :: rest)
    | .value _, t => startValue stack t
    | _, _ => .wrong .broken

/-- The draft of a list of tokens, and whether tokens follow its value. -/
def assemble (stack : List Frame) : List Token → Draft × Bool
  | [] => (abandon .broken stack, false)
  | t :: rest =>
    match advance stack t with
    | .more stack => assemble stack rest
    | .whole d => (d, !rest.isEmpty)
    | .wrong ending => (abandon ending stack, false)

end Telemetry.Json

namespace Telemetry.Draft

/-- The draft of a text, and whether anything but white space follows it. -/
def ofText (s : String) : Draft × Bool :=
  Json.assemble [] (Json.tokens s.toList)

end Telemetry.Draft
