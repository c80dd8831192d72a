import Telemetry.Number.Decimal
import Telemetry.Text.Blank
import Telemetry.Time.Instant

/-!
# Time stamps

The text of an instant, after RFC 3339. Stamps are written in universal time,
with the fewest of 0, 3, 6 or 9 fraction digits that keep them exact; years
outside 0 to 9999 carry a sign. They are read in a relaxed form: numbers may
be shorter, white space may stand before numbers, separators and the zone, and
any offset below a day is accepted.

* `Instant.stamp`: the text of an instant;
* `Instant.ofStamp?`: the instant of a text.
-/

namespace Telemetry.Instant

open Telemetry.Number Telemetry.Text

/-! ## Writing -/

/-- The year of a stamp. -/
def yearText (year : Int) : List Char :=
  if 0 ≤ year ∧ year ≤ 9999 then padded 4 year.toNat
  else (if year < 0 then '-' else '+') :: padded 4 year.natAbs

/-- The fraction of a second with its point, in the fewest groups of three
digits. -/
def fractionText (nano : Nat) : List Char :=
  if nano = 0 then []
  else if nano % 1000000 = 0 then '.' :: padded 3 (nano / 1000000)
  else if nano % 1000 = 0 then '.' :: padded 6 (nano / 1000)
  else '.' :: padded 9 nano

/-- The characters of a stamp. -/
def stampChars (t : Instant) : List Char :=
  let leap := if t.inLeapSecond then 1 else 0
  yearText t.date.year ++ '-' :: padded 2 t.date.month ++ '-' :: padded 2 t.date.day ++
    'T' :: padded 2 (t.second / 3600) ++ ':' :: padded 2 (t.second / 60 % 60) ++
    ':' :: padded 2 (t.second % 60 + leap) ++ fractionText (t.nano % secondNanos) ++ ['Z']

/-- The stamp of an instant. -/
def stamp (t : Instant) : String :=
  String.ofList t.stampChars

/-! ## Reading -/

/-- The number of up to `width` digits at the start of a text. -/
def digits? (width : Nat) (cs : List Char) : Option (Nat × List Char) :=
  let ds := (cs.take width).takeWhile Char.isDigit
  if ds.isEmpty then none else some (ofDigits ds, cs.drop ds.length)

/-- A number after optional white space. -/
def number? (width : Nat) (cs : List Char) : Option (Nat × List Char) :=
  digits? width (trimStart cs)

/-- A year after optional white space: any number of digits after a sign, and up
to four without one. -/
def year? (cs : List Char) : Option (Int × List Char) :=
  match trimStart cs with
  | '-' :: cs => (digits? cs.length cs).map fun (n, rest) => (-(n : Int), rest)
  | '+' :: cs => (digits? cs.length cs).map fun (n, rest) => ((n : Int), rest)
  | cs => (digits? 4 cs).map fun (n, rest) => ((n : Int), rest)

/-- A separator after optional white space. -/
def separator? (c : Char) (cs : List Char) : Option (List Char) :=
  match trimStart cs with
  | d :: rest => if c = d then some rest else none
  | [] => none

/-- The nanoseconds of an optional fraction; digits after the ninth are dropped. -/
def fraction? : List Char → Option (Nat × List Char)
  | '.' :: cs =>
    match spanDigits cs with
    | ([], _) => none
    | (ds, rest) => some (ofDigits ((ds ++ List.replicate 9 '0').take 9), rest)
  | cs => some (0, cs)

/-- The seconds by which a zone is ahead of universal time: `Z`, `UTC`, or a sign,
two digits of hours, any colons and white space, and two digits of minutes. -/
def zone? (cs : List Char) : Option (Int × List Char) :=
  match cs with
  | 'Z' :: rest | 'z' :: rest => some (0, rest)
  | _ =>
    if (cs.take 3).map Char.toUpper = ['U', 'T', 'C'] then some (0, cs.drop 3)
    else match cs with
      | sign :: h :: k :: rest =>
        if (sign = '+' ∨ sign = '-' ∨ sign = '−') ∧ h.isDigit ∧ k.isDigit then
          match rest.dropWhile fun c => c == ':' || isBlank c with
          | m :: n :: rest =>
            if m.isDigit ∧ n.isDigit ∧ ofDigits [m, n] < 60 then
              let offset : Int := 3600 * ofDigits [h, k] + 60 * ofDigits [m, n]
              some (if sign = '+' then offset else -offset, rest)
            else none
          | _ => none
        else none
      | _ => none

/-- The instant of a stamp. -/
def ofStampChars? (cs : List Char) : Option Instant := do
  let (year, cs) ← year? cs
  let (month, cs) ← number? 2 (← separator? '-' cs)
  let (day, cs) ← number? 2 (← separator? '-' cs)
  let date ← Date.ofParts? year month day
  let cs ← match cs with
    | 'T' :: rest | 't' :: rest | ' ' :: rest => some rest
    | _ => none
  let (hour, cs) ← number? 2 cs
  let (minute, cs) ← number? 2 (← separator? ':' cs)
  let (second, cs) ← number? 2 (← separator? ':' cs)
  let (nano, cs) ← fraction? cs
  let (offset, cs) ← zone? (trimStart cs)
  guard ((trimStart cs).isEmpty ∧ hour < 24 ∧ minute < 60 ∧ second ≤ 60 ∧
    offset.natAbs < daySeconds)
  let minutes := 3600 * hour + 60 * minute
  if second = 60 then shift? date (minutes + 59) (nano + secondNanos) offset
  else shift? date (minutes + second) nano offset

/-- The instant of a stamp. -/
def ofStamp? (s : String) : Option Instant :=
  ofStampChars? s.toList

end Telemetry.Instant
