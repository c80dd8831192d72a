import Mathlib.Algebra.Group.Nat.Defs
import Telemetry.Id

/-!
# Hexadecimal numerals read back

* `ofHex?_hexText`: the numeral of a given length stands for its number, as far as its
  digits go;
* `Id.ofText_text`: an identifier is read back from its text.
-/

namespace Telemetry

namespace Number

theorem length_hexText (width n : Nat) : (hexText width n).length = width := by
  induction width generalizing n with
  | zero => rfl
  | succ width ih => rw [hexText, List.length_append, ih, List.length_singleton]

theorem hexValue?_hexDigit {d : Nat} (h : d < 16) : hexValue? (hexDigit d) = some d := by
  have hall : ∀ d < 16, hexValue? (hexDigit d) = some d := by decide
  exact hall d h

theorem ofHexFrom?_append (m : Nat) (cs ds : List Char) :
    ofHexFrom? m (cs ++ ds) = (ofHexFrom? m cs).bind fun n => ofHexFrom? n ds := by
  induction cs generalizing m with
  | nil => rfl
  | cons c cs ih =>
    rw [List.cons_append, ofHexFrom?, ofHexFrom?]
    cases hexValue? c with
    | none => rfl
    | some d => exact ih (16 * m + d)

theorem ofHexFrom?_hexText (m width n : Nat) :
    ofHexFrom? m (hexText width n) = some (16 ^ width * m + n % 16 ^ width) := by
  induction width generalizing n with
  | zero => rw [hexText, ofHexFrom?, Nat.pow_zero, Nat.one_mul, Nat.mod_one, Nat.add_zero]
  | succ width ih =>
    have hlast : hexValue? (hexDigit (n % 16)) = some (n % 16) :=
      hexValue?_hexDigit (Nat.mod_lt n (by decide))
    have hmod : n % 16 ^ (width + 1) = n % 16 + 16 * (n / 16 % 16 ^ width) := by
      rw [Nat.pow_succ', Nat.mod_mul]
    rw [hexText, ofHexFrom?_append, ih, Option.bind_some, ofHexFrom?, hlast, Option.bind_some,
      ofHexFrom?, hmod]
    rw [Nat.pow_succ', Nat.mul_assoc, Nat.mul_add]
    congr 1
    omega

theorem ofHex?_hexText {width n : Nat} (h : n < 16 ^ width) :
    ofHex? (hexText width n) = some n := by
  rw [ofHex?, ofHexFrom?_hexText, Nat.mul_zero, Nat.zero_add, Nat.mod_eq_of_lt h]

end Number

namespace Id

variable {kind : IdKind}

theorem toNat_value_lt (i : Id kind) : i.value.toNat < 16 ^ kind.width := by
  have h := i.value.isLt
  rwa [Nat.pow_mul] at h

theorem toList_text (i : Id kind) : i.text.toList = Number.hexText kind.width i.value.toNat :=
  String.toList_ofList

theorem ofNat_toNat_value (i : Id kind) : ofNat i.value.toNat = i := by
  rw [ofNat, BitVec.ofNat_toNat, BitVec.setWidth_eq]

theorem text_ne_empty (i : Id kind) : ¬i.text.isEmpty := by
  intro h
  have hlength := Number.length_hexText kind.width i.value.toNat
  rw [← toList_text, String.isEmpty_iff.mp h] at hlength
  cases kind <;> cases hlength

/-- An identifier is read back from its text. -/
theorem ofText_text (i : Id kind) : ofText i.text = .ok i := by
  rw [ofText, toList_text, if_pos (Number.length_hexText ..),
    Number.ofHex?_hexText i.toNat_value_lt]
  exact congrArg Except.ok i.ofNat_toNat_value

end Id

end Telemetry
