import Telemetry.Number.Binary64
import Telemetry.Number.Decimal

/-!
# The shortest decimal of a double

A finite double stands for all real numbers that round to it. Of the decimals
among them, the one with the fewest digits is written, and of several of those
the one nearest to the double.

* `Candidate`: a decimal `digits · 10^exponent`;
* `rounds`: whether a decimal rounds to a given double;
* `shortest`: the decimal that is written;
* `text`: its layout. A point or an exponent is always there; positional
  notation reaches from `10^(-5)` to below `10^16`.
-/

namespace Telemetry.Binary64

open Telemetry.Number

/-- A decimal number `digits · 10^exponent`. -/
structure Candidate where
  digits : Nat
  exponent : Int

/-- A candidate as a fraction. -/
def Candidate.toRatio (c : Candidate) : Nat × Nat :=
  if c.exponent < 0 then (c.digits, Nat.pow 10 (-c.exponent).toNat)
  else (c.digits * Nat.pow 10 c.exponent.toNat, 1)

/-- The ends of the interval that rounds to a positive double, as multiples of
a quarter of its last place: half a place on either side, but only a quarter
below a power of two. -/
def quarterBounds (x : Binary64) : Nat × Nat :=
  let m := x.significand
  (if m = exponentUnit ∧ -1074 < x.quantum then 4 * m - 1 else 4 * m - 2, 4 * m + 2)

/-- Whether a decimal rounds to the positive double `x`. The ends of the
interval belong to it when the significand is even. -/
def rounds (x : Binary64) (c : Candidate) : Bool :=
  let (num, den) := c.toRatio
  let (n, d) := shift num den (x.quantum - 2)
  let (low, high) := x.quarterBounds
  if x.significand % 2 = 0 then low * d ≤ n && n ≤ high * d
  else low * d < n && n < high * d

/-- The decimal exponent `e` of a positive fraction: it is at least `10^e` and
less than `10^(e+1)`. -/
def decimalExponent (num den : Nat) : Int :=
  if den ≤ num then ((digits (num / den)).length : Int) - 1
  else -(((digits ((den + num - 1) / num - 1)).length : Int))

/-- The distance of a candidate from a fraction, over a common denominator. -/
def distance (num den : Nat) (c : Candidate) : Nat :=
  let (n, d) := c.toRatio
  ((n * den : Nat) - (num * d : Nat) : Int).natAbs

/-- The decimal of `count` digits that rounds to the positive double `x` and
is nearest to it; a tie goes to the even digit. -/
def ofDigitCount (x : Binary64) (count : Nat) : Option Candidate :=
  let (num, den) := x.toRatio
  let e := decimalExponent num den - ((count : Int) - 1)
  let (n, d) :=
    if e < 0 then (num * Nat.pow 10 (-e).toNat, den) else (num, den * Nat.pow 10 e.toNat)
  let below : Candidate := ⟨n / d, e⟩
  let above : Candidate := ⟨n / d + 1, e⟩
  match x.rounds below, x.rounds above with
  | false, false => none
  | true, false => some below
  | false, true => some above
  | true, true =>
    let a := distance num den below
    let b := distance num den above
    if a < b ∨ (a = b ∧ below.digits % 2 = 0) then some below else some above

/-- The shortest decimal that rounds to the positive double `x`; seventeen
digits are always enough. -/
def shortest (x : Binary64) : Candidate :=
  ((List.range 17).findSome? fun k => x.ofDigitCount (k + 1)).getD ⟨0, 0⟩

/-- The digits of a decimal without the zeros at their end. -/
def significantDigits (c : Candidate) : List Char :=
  ((digits c.digits).reverse.dropWhile (· = '0')).reverse

/-- A run of significant digits at the decimal exponent `e` of the first of
them: positional for `-5 ≤ e ≤ 15`, and with a signed exponent otherwise. -/
def layout (ds : List Char) (e : Int) : List Char :=
  if 0 ≤ e ∧ e ≤ 15 then
    let whole := e.toNat + 1
    let ds := ds ++ List.replicate (whole - ds.length) '0'
    let fraction := ds.drop whole
    ds.take whole ++ '.' :: (if fraction.isEmpty then ['0'] else fraction)
  else if -5 ≤ e ∧ e < 0 then
    '0' :: '.' :: (List.replicate ((-e).toNat - 1) '0' ++ ds)
  else
    let mantissa := match ds with
      | [d] => [d]
      | d :: rest => d :: '.' :: rest
      | [] => []
    mantissa ++ 'e' :: (if e < 0 then '-' else '+') :: digits e.natAbs

/-- The text of a finite double. -/
def text (x : Binary64) : String :=
  let sign := if x.isNegative then ['-'] else []
  if x.magnitude = 0 then String.ofList (sign ++ ['0', '.', '0'])
  else
    let c := x.shortest
    let ds := digits c.digits
    String.ofList (sign ++ layout (significantDigits c) (c.exponent + ((ds.length : Int) - 1)))

end Telemetry.Binary64
