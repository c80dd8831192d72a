/-!
# Double-precision numbers

The numbers of the IEEE 754 format binary64, held as their 64 bits. A finite
one is `± m · 2^q` with `m < 2^53` and `-1074 ≤ q ≤ 971`; all arithmetic here
is exact arithmetic on natural numbers followed by one rounding.

* `significand`, `quantum`: the `m` and `q` of a finite number;
* `ofRatio`: the nearest double of a fraction, a tie going to the even
  significand, and infinity beyond the largest double;
* `ofNat`, `ofInt`, `scale`: conversion of integers, and multiplication of a
  double by a power of ten.
-/

namespace Telemetry

/-- A double-precision number by its bits. -/
structure Binary64 where
  bits : UInt64
  deriving DecidableEq, Inhabited

namespace Binary64

/-- The place value of the sign bit, `2^63`. -/
def signUnit : Nat := 0x8000000000000000

/-- The place value of the lowest exponent bit, `2^52`, which is also the least
significand of a normal number. -/
def exponentUnit : Nat := 0x10000000000000

/-- The sign bit. -/
def isNegative (x : Binary64) : Bool :=
  signUnit ≤ x.bits.toNat

/-- The bits below the sign. -/
def magnitude (x : Binary64) : Nat :=
  x.bits.toNat % signUnit

/-- The eleven exponent bits. -/
def exponentBits (x : Binary64) : Nat :=
  x.magnitude / exponentUnit

/-- Neither an infinity nor a NaN. -/
def isFinite (x : Binary64) : Bool :=
  x.exponentBits < 2047

/-- The `m` of a finite number `± m · 2^q`. -/
def significand (x : Binary64) : Nat :=
  if x.exponentBits = 0 then x.magnitude else x.magnitude % exponentUnit + exponentUnit

/-- The `q` of a finite number `± m · 2^q`. -/
def quantum (x : Binary64) : Int :=
  if x.exponentBits = 0 then -1074 else (x.exponentBits : Int) - 1075

/-- A number by its sign and the bits below it. -/
def ofMagnitude (negative : Bool) (magnitude : Nat) : Binary64 :=
  ⟨UInt64.ofNat (magnitude + if negative then signUnit else 0)⟩

/-- Zero with the given sign. -/
def zero (negative : Bool) : Binary64 :=
  ofMagnitude negative 0

/-- The magnitude bits of an infinity. -/
def infinityMagnitude : Nat :=
  2047 * exponentUnit

/-- The quotient rounded to the nearest integer, a tie going to the even one. -/
def divNearest (num den : Nat) : Nat :=
  let n := num / den
  let r := num % den
  if 2 * r < den ∨ (2 * r = den ∧ n % 2 = 0) then n else n + 1

/-- A fraction times `2^(-q)`. -/
def shift (num den : Nat) (q : Int) : Nat × Nat :=
  if q < 0 then (num * Nat.pow 2 (-q).toNat, den) else (num, den * Nat.pow 2 q.toNat)

/-- The exponent `q` at which a positive fraction has a significand of 53 bits,
or the least exponent of all. -/
def quantumOfRatio (num den : Nat) : Int :=
  let q := max (-1074) ((num.log2 : Int) - den.log2 - 52)
  let (n, d) := shift num den q
  if n / d < exponentUnit ∧ -1074 < q then q - 1 else q

/-- The double nearest to `± num / den`. -/
def ofRatio (negative : Bool) (num den : Nat) : Binary64 :=
  if num = 0 then zero negative
  else
    let q := quantumOfRatio num den
    let (n, d) := shift num den q
    let magnitude := (q + 1074).toNat * exponentUnit + divNearest n d
    ofMagnitude negative (min magnitude infinityMagnitude)

/-- A finite number as a fraction, its sign left aside. -/
def toRatio (x : Binary64) : Nat × Nat :=
  let q := x.quantum
  if q < 0 then (x.significand, Nat.pow 2 (-q).toNat)
  else (x.significand * Nat.pow 2 q.toNat, 1)

/-- The double nearest to a natural number. -/
def ofNat (n : Nat) : Binary64 :=
  ofRatio false n 1

/-- The double nearest to an integer. -/
def ofInt (n : Int) : Binary64 :=
  ofRatio (n < 0) n.natAbs 1

/-- The number with its sign changed. -/
def neg (x : Binary64) : Binary64 :=
  ofMagnitude (!x.isNegative) x.magnitude

/-- The product of two finite numbers without regard to sign, rounded. -/
def mulMagnitude (x y : Binary64) : Binary64 :=
  let (a, b) := x.toRatio
  let (c, d) := y.toRatio
  ofRatio false (a * c) (b * d)

/-- The quotient of two finite numbers without regard to sign, rounded. -/
def divMagnitude (x y : Binary64) : Binary64 :=
  let (a, b) := x.toRatio
  let (c, d) := y.toRatio
  ofRatio false (a * d) (b * c)

/-- A number divided by `10^e`, at most 308 powers at a time. -/
def scaleDown (x : Binary64) (e : Nat) : Binary64 :=
  if x.magnitude = 0 then x
  else if e ≤ 308 then x.divMagnitude (ofNat (Nat.pow 10 e))
  else scaleDown (x.divMagnitude (ofNat (Nat.pow 10 308))) (e - 308)
termination_by e

/-- A non-negative number times `10^e`, where each power of ten is itself
rounded to a double first. `none` if the result is too large. -/
def scale (x : Binary64) (e : Int) : Option Binary64 :=
  if x.magnitude = 0 then some x
  else if e < 0 then some (x.scaleDown (-e).toNat)
  else if 308 < e then none
  else
    let y := x.mulMagnitude (ofNat (Nat.pow 10 e.toNat))
    if y.isFinite then some y else none

end Binary64

end Telemetry
