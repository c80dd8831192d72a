/-!
# Hexadecimal numerals of a fixed length

* `hexDigit`, `hexValue?`: a digit and its value; written in lower case, read
  in either case;
* `hexText`: the numeral of a given length, most significant digit first;
* `ofHex?`: the number that a text of hexadecimal digits stands for;
* `octets`, `ofOctets`: a number as bytes, most significant byte first.
-/

namespace Telemetry.Number

/-- A digit below sixteen, in lower case. -/
def hexDigit (n : Nat) : Char :=
  Char.ofNat (if n < 10 then '0'.toNat + n else 'a'.toNat + (n - 10))

/-- The value of a digit in either case. -/
def hexValue? (c : Char) : Option Nat :=
  if '0' ≤ c ∧ c ≤ '9' then some (c.toNat - '0'.toNat)
  else if 'a' ≤ c ∧ c ≤ 'f' then some (c.toNat - 'a'.toNat + 10)
  else if 'A' ≤ c ∧ c ≤ 'F' then some (c.toNat - 'A'.toNat + 10)
  else none

/-- The last `width` hexadecimal digits of a number. -/
def hexText : (width n : Nat) → List Char
  | 0, _ => []
  | width + 1, n => hexText width (n / 16) ++ [hexDigit (n % 16)]

/-- The number that hexadecimal digits stand for, after those read before. -/
def ofHexFrom? (n : Nat) : List Char → Option Nat
  | [] => some n
  | c :: cs => (hexValue? c).bind fun d => ofHexFrom? (16 * n + d) cs

/-- The number that a text of hexadecimal digits stands for. -/
def ofHex? (cs : List Char) : Option Nat :=
  ofHexFrom? 0 cs

/-- The last `count` bytes of a number, most significant byte first. -/
def octets : (count n : Nat) → List UInt8
  | 0, _ => []
  | count + 1, n => octets count (n / 256) ++ [UInt8.ofNat (n % 256)]

/-- The number that bytes stand for, most significant byte first. -/
def ofOctets (bytes : List UInt8) : Nat :=
  bytes.foldl (fun n b => 256 * n + b.toNat) 0

end Telemetry.Number
