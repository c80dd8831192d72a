/-!
# Decimal numerals

Natural numbers as runs of the digits `0` to `9`:

* `digits`, `decimal`: the numeral without leading zeros, as characters and as text;
* `ofDigits`: the number that a run of digits stands for, leading zeros allowed;
* `padded`: the numeral filled up with zeros on the left.
-/

namespace Telemetry.Number

/-- The decimal numeral, most significant digit first. -/
def digits (n : Nat) : List Char :=
  Nat.toDigits 10 n

/-- The decimal numeral as text. -/
def decimal (n : Nat) : String :=
  String.ofList (digits n)

/-- The value of a digit; characters that are no digit have a value of no use. -/
def digitValue (c : Char) : Nat :=
  c.toNat - '0'.toNat

/-- The number that a run of digits stands for; the empty run stands for zero. -/
def ofDigits (cs : List Char) : Nat :=
  cs.foldl (fun n c => 10 * n + digitValue c) 0

/-- The number of a non-empty text of digits only. -/
def ofDigits? (cs : List Char) : Option Nat :=
  if cs ≠ [] ∧ cs.all Char.isDigit then some (ofDigits cs) else none

/-- The numeral with zeros on the left, at least `width` digits long. -/
def padded (width n : Nat) : List Char :=
  let ds := digits n
  List.replicate (width - ds.length) '0' ++ ds

/-- The run of digits at the start of a text, and what follows it. -/
def spanDigits (cs : List Char) : List Char × List Char :=
  cs.span Char.isDigit

end Telemetry.Number
