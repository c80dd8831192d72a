import Telemetry.Number.Hexadecimal

/-!
# TOML strings

The four kinds of strings and the keys of TOML 1.0. Each reader gives what it
has read and what follows it.

* `string?`: a string with or without escapes, on one line or over several;
* `key?`: a dotted key, its parts bare or in quotes.
-/

namespace Telemetry.Toml

open Telemetry.Number

/-- White space within a line. -/
def isSpace (c : Char) : Bool :=
  c == ' ' || c == '\t'

/-- The text from its first character that is not white space. -/
def skipSpace (cs : List Char) : List Char :=
  cs.dropWhile isSpace

/-- A character that may stand in comments and literal strings. -/
def isPlain (c : Char) : Bool :=
  c == '\t' || (32 ≤ c.toNat && c.toNat != 127)

/-- A line break at the start of a text, and what follows it. -/
def newline? : List Char → Option (List Char)
  | '\n' :: cs => some cs
  | '\r' :: '\n' :: cs => some cs
  | _ => none

/-- The character with a given code point. -/
def scalar? (n : Nat) : Option Char :=
  if n.isValidChar then some (Char.ofNat n) else none

/-- The character of an escape, after its backslash, and what follows it. -/
def escape? : List Char → Option (Char × List Char)
  | 'b' :: cs => some ('\x08', cs)
  | 't' :: cs => some ('\t', cs)
  | 'n' :: cs => some ('\n', cs)
  | 'f' :: cs => some ('\x0c', cs)
  | 'r' :: cs => some ('\r', cs)
  | '"' :: cs => some ('"', cs)
  | '\\' :: cs => some ('\\', cs)
  | 'u' :: a :: b :: c :: d :: cs => do
    return (← scalar? (← ofHex? [a, b, c, d]), cs)
  | 'U' :: a :: b :: c :: d :: e :: f :: g :: h :: cs => do
    return (← scalar? (← ofHex? [a, b, c, d, e, f, g, h]), cs)
  | _ => none

/-- The four kinds of strings: the quote, whether a backslash is an escape, and
whether three quotes enclose the string, which may then have several lines. -/
structure Style where
  quote : Char
  escapes : Bool
  long : Bool

/-- A backslash at the end of a line, after the backslash: the line break and all
white space and line breaks that follow it are skipped. -/
def lineEnd? (cs : List Char) : Option (List Char) :=
  (newline? (skipSpace cs)).map skipBlankLines
where
  /-- The text from its first character that is neither white space nor a line
  break. -/
  skipBlankLines : List Char → List Char
    | '\r' :: '\n' :: cs => skipBlankLines cs
    | '\n' :: cs => skipBlankLines cs
    | c :: cs => if isSpace c then skipBlankLines cs else c :: cs
    | [] => []

/-- The next part of a string: characters that belong to it and what follows them,
or, as the second part of a pair, the end of the string. Of a run of three quotes
and more the last three end a long string, and at most two belong to it. -/
def part? (style : Style) : List Char → Option (List Char × Bool × List Char)
  | [] => none
  | c :: cs =>
    if c = style.quote then
      if style.long then
        let run := c :: cs.takeWhile (· = c)
        if run.length < 3 then some (run, false, cs.drop (run.length - 1))
        else
          let own := min (run.length - 3) 2
          some (List.replicate own c, true, cs.drop (own + 2))
      else some ([], true, cs)
    else if style.long ∧ (newline? (c :: cs)).isSome then
      some (['\n'], false, (newline? (c :: cs)).getD [])
    else if style.escapes ∧ c = '\\' then
      match (if style.long then lineEnd? cs else none) with
      | some rest => some ([], false, rest)
      | none => (escape? cs).map fun (e, rest) => ([e], false, rest)
    else if isPlain c then some ([c], false, cs)
    else none

/-- The rest of a string, after the characters `before` in reverse. Every part takes
at least one character, so the length of the text bounds the number of parts. -/
def stringFrom? (style : Style) :
    (parts : Nat) → (before : List Char) → List Char → Option (String × List Char)
  | 0, _, _ => none
  | parts + 1, before, cs =>
    match part? style cs with
    | none => none
    | some (own, true, rest) => some (String.ofList (own.reverse ++ before).reverse, rest)
    | some (own, false, rest) => stringFrom? style parts (own.reverse ++ before) rest

/-- A string in single quotes or double quotes, after the opening ones; a line break
right after three of them does not belong to it. -/
def stringOf? (style : Style) (cs : List Char) : Option (String × List Char) :=
  let body := if style.long then (newline? cs).getD cs else cs
  stringFrom? style body.length [] body

/-- The string at the start of a text. -/
def string? : List Char → Option (String × List Char)
  | '"' :: '"' :: '"' :: cs => stringOf? ⟨'"', true, true⟩ cs
  | '\'' :: '\'' :: '\'' :: cs => stringOf? ⟨'\'', false, true⟩ cs
  | '"' :: cs => stringOf? ⟨'"', true, false⟩ cs
  | '\'' :: cs => stringOf? ⟨'\'', false, false⟩ cs
  | _ => none

/-! ## Keys -/

/-- A character of a key without quotes. -/
def isBare (c : Char) : Bool :=
  c.isAlphanum || c == '-' || c == '_'

/-- One part of a key, and what follows it. -/
def simpleKey? (cs : List Char) : Option (String × List Char) :=
  match cs with
  | '"' :: rest => stringOf? ⟨'"', true, false⟩ rest
  | '\'' :: rest => stringOf? ⟨'\'', false, false⟩ rest
  | _ =>
    match cs.span isBare with
    | ([], _) => none
    | (name, rest) => some (String.ofList name, rest)

/-- How many parts a key may have, and how deeply arrays and tables may be nested. -/
def nestingLimit : Nat := 79

/-- The parts of a key, at most `fuel` of them, with white space around each one. -/
def keyParts? : (fuel : Nat) → List Char → Option (List String × List Char)
  | 0, _ => none
  | fuel + 1, cs => do
    let (part, rest) ← simpleKey? (skipSpace cs)
    match skipSpace rest with
    | '.' :: rest => do
      let (parts, rest) ← keyParts? fuel rest
      return (part :: parts, rest)
    | rest => return ([part], rest)

/-- A key: the parts of its path and its last part, and what follows it. -/
def key? (cs : List Char) : Option ((List String × String) × List Char) := do
  let (parts, rest) ← keyParts? nestingLimit cs
  return ((parts.dropLast, ← parts.getLast?), rest)

end Telemetry.Toml
