import Telemetry.Number.Binary64
import Telemetry.Number.Decimal
import Telemetry.Time.Date
import Telemetry.Toml.Item
import Telemetry.Toml.Text

/-!
# TOML numbers, dates and truth values

* `integer?`: decimal, hexadecimal, octal and binary integers of 64 bits, with
  underscores between digits;
* `float?`: numbers with a fraction or exponent, infinities and NaN;
* `date?`: dates and times, with or without an offset;
* `scalar?`: any of them, a truth value, or a string.
-/

namespace Telemetry.Toml

open Telemetry.Number

/-! ## Numbers -/

/-- Digits of a class with single underscores between them, and what follows; the
underscores are left out. -/
def digitsOf? (isDigit : Char → Bool) : List Char → Option (List Char × List Char)
  | [] => none
  | c :: cs => if isDigit c then go [c] cs else none
where
  /-- More digits, after those `before` in reverse. -/
  go (before : List Char) : List Char → Option (List Char × List Char)
    | '_' :: c :: cs => if isDigit c then go (c :: before) cs else none
    | '_' :: [] => none
    | c :: cs => if isDigit c then go (c :: before) cs else some (before.reverse, c :: cs)
    | [] => some (before.reverse, [])

/-- A sign, if one is next: whether it is a minus. -/
def sign : List Char → Bool × List Char
  | '-' :: cs => (true, cs)
  | '+' :: cs => (false, cs)
  | cs => (false, cs)

/-- The digits of a decimal integer: a single zero, or digits that begin with
another one. -/
def whole? : List Char → Option (List Char × List Char)
  | '0' :: cs => some (['0'], cs)
  | cs => digitsOf? Char.isDigit cs

/-- The value of digits in a base. -/
def valueIn (base : Nat) (ds : List Char) : Nat :=
  ds.foldl (fun n c => base * n + (hexValue? c).getD 0) 0

/-- An integer of 64 bits with a sign. -/
def int64? (n : Int) : Option Item :=
  if -0x8000000000000000 ≤ n ∧ n < 0x8000000000000000 then some (.int (Int64.ofInt n)) else none

/-- An integer without sign in another base than ten, after its two-character
mark. -/
def based? (base : Nat) (isDigit : Char → Bool) (cs : List Char) : Option (Item × List Char) := do
  let (ds, rest) ← digitsOf? isDigit cs
  return (← int64? (valueIn base ds), rest)

/-- An integer. -/
def integer? : List Char → Option (Item × List Char)
  | '0' :: 'x' :: cs => based? 16 (fun c => (hexValue? c).isSome) cs
  | '0' :: 'o' :: cs => based? 8 (fun c => '0' ≤ c && c ≤ '7') cs
  | '0' :: 'b' :: cs => based? 2 (fun c => c == '0' || c == '1') cs
  | cs => do
    let (negative, cs) := sign cs
    let (ds, rest) ← whole? cs
    let n := ofDigits ds
    return (← int64? (if negative then -(n : Int) else n), rest)

/-- The fraction of a number with its point: its digits. -/
def fraction? : List Char → Option (List Char × List Char)
  | '.' :: cs => digitsOf? Char.isDigit cs
  | _ => none

/-- The exponent of a number: its sign and digits. -/
def exponent? : List Char → Option (Int × List Char)
  | c :: cs =>
    if c == 'e' || c == 'E' then
      let (negative, cs) := sign cs
      (digitsOf? Char.isDigit cs).map fun (ds, rest) =>
        (if negative then -(ofDigits ds : Int) else ofDigits ds, rest)
    else none
  | [] => none

/-- Whether a number with these digits before and after the point and this exponent
is beyond the largest double. Numbers of more than 400 digits before the point
are, and those of more than 400 zeros after it are not. -/
def isBeyondDouble (whole fraction : List Char) (exponent : Int) : Bool :=
  let ds := (whole ++ fraction).dropWhile (· = '0')
  let e := exponent - fraction.length
  if ds.isEmpty then false
  else if (ds.length : Int) + e > 400 then true
  else if (ds.length : Int) + e < -400 then false
  else
    let n := ofDigits ds
    let x := if e < 0 then Binary64.ofRatio false n (Nat.pow 10 (-e).toNat)
      else Binary64.ofRatio false (n * Nat.pow 10 e.toNat) 1
    !x.isFinite

/-- A number with a fraction or exponent, an infinity or NaN; a positive number has
to be within the range of doubles. -/
def float? (cs : List Char) : Option (Item × List Char) :=
  let (negative, cs) := sign cs
  match cs with
  | 'i' :: 'n' :: 'f' :: rest => some (.float, rest)
  | 'n' :: 'a' :: 'n' :: rest => some (.float, rest)
  | _ => do
    let (whole, cs) ← whole? cs
    let (fraction, exponent, rest) ←
      match fraction? cs with
      | some (ds, cs) =>
        let (e, rest) := (exponent? cs).getD (0, cs)
        some (ds, e, rest)
      | none => (exponent? cs).map fun (e, rest) => ([], e, rest)
    guard (negative ∨ ¬isBeyondDouble whole fraction exponent)
    return (.float, rest)

/-! ## Dates and times -/

/-- The number of exactly `count` digits at the start of a text. -/
def fixed? (count : Nat) (cs : List Char) : Option (Nat × List Char) :=
  let ds := cs.take count
  if ds.length = count ∧ ds.all Char.isDigit then some (ofDigits ds, cs.drop count) else none

/-- A character at the start of a text, and what follows it. -/
def mark? (c : Char) : List Char → Option (List Char)
  | d :: cs => if c = d then some cs else none
  | [] => none

/-- A calendar date. -/
def fullDate? (cs : List Char) : Option (List Char) := do
  let (year, cs) ← fixed? 4 cs
  let (month, cs) ← fixed? 2 (← mark? '-' cs)
  let (day, cs) ← fixed? 2 (← mark? '-' cs)
  guard (IsDate year month day)
  return cs

/-- A fraction of a second, if one is next. -/
def secondFraction? : List Char → Option (List Char)
  | '.' :: cs =>
    match spanDigits cs with
    | ([], _) => none
    | (_, rest) => some rest
  | cs => some cs

/-- A time of day. -/
def time? (cs : List Char) : Option (List Char) := do
  let (hour, cs) ← fixed? 2 cs
  let (minute, cs) ← fixed? 2 (← mark? ':' cs)
  let (second, cs) ← fixed? 2 (← mark? ':' cs)
  guard (hour < 24 ∧ minute < 60 ∧ second ≤ 60)
  secondFraction? cs

/-- An offset from universal time, if one is next. -/
def offset? : List Char → Option (List Char)
  | 'Z' :: cs | 'z' :: cs => some cs
  | '+' :: cs | '-' :: cs => do
    let (hour, cs) ← fixed? 2 cs
    let (minute, cs) ← fixed? 2 (← mark? ':' cs)
    guard (hour < 24 ∧ minute < 60)
    return cs
  | cs => some cs

/-- A date, a time, or both with or without an offset. -/
def date? (cs : List Char) : Option (Item × List Char) :=
  match fullDate? cs with
  | some rest =>
    let dateTime := match rest with
      | 'T' :: cs | 't' :: cs | ' ' :: cs => (time? cs).bind offset?
      | _ => none
    some (.date, dateTime.getD rest)
  | none => (time? cs).map (.date, ·)

/-! ## All scalars -/

/-- A word at the start of a text. -/
def word? (word : List Char) (item : Item) (cs : List Char) : Option (Item × List Char) :=
  if word.isPrefixOf cs then some (item, cs.drop word.length) else none

/-- A value that is neither an array nor a table. -/
def scalarItem? (cs : List Char) : Option (Item × List Char) :=
  match cs with
  | '"' :: _ | '\'' :: _ => (string? cs).map fun (s, rest) => (.str s, rest)
  | 't' :: _ => word? ['t', 'r', 'u', 'e'] (.bool true) cs
  | 'f' :: _ => word? ['f', 'a', 'l', 's', 'e'] (.bool false) cs
  | _ => ((date? cs).or (float? cs)).or (integer? cs)

end Telemetry.Toml
