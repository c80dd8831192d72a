import Telemetry.Number.Decimal
import Telemetry.Text.Blank

/-!
# Decimal numerals read back

* `ofDigits?_digits`, `ofDigits_padded`: a numeral stands for its number, also with zeros
  on the left;
* `ofDigits_append_zeros`: zeros on the right multiply it;
* `mem_digits`, `isBlank_of_isDigit`: what its characters are not.
-/

namespace Telemetry.Number

open Telemetry.Text

theorem isDigit_of_mem_digits {n : Nat} {c : Char} (h : c ∈ digits n) : c.isDigit :=
  Nat.isDigit_of_mem_toDigits (by decide) (by decide) h

theorem digits_ne_nil (n : Nat) : digits n ≠ [] :=
  Nat.toDigits_ne_nil

theorem ofDigits_digits (n : Nat) : ofDigits (digits n) = n :=
  Nat.ofDigitChars_toDigits (by decide) (by decide)

theorem ofDigits?_digits (n : Nat) : ofDigits? (digits n) = some n := by
  have hall : (digits n).all Char.isDigit := List.all_eq_true.mpr fun _ => isDigit_of_mem_digits
  rw [ofDigits?, if_pos ⟨digits_ne_nil n, hall⟩, ofDigits_digits]

theorem length_digits_le {width n : Nat} (hw : 0 < width) (h : n < Nat.pow 10 width) :
    (digits n).length ≤ width :=
  (Nat.length_toDigits_le_iff (by decide) hw).mpr h

/-! ## Zeros on either side -/

theorem isDigit_of_mem_padded {width n : Nat} {c : Char} (h : c ∈ padded width n) : c.isDigit := by
  rcases List.mem_append.mp h with h | h
  · rw [List.eq_of_mem_replicate h]
    rfl
  · exact isDigit_of_mem_digits h

theorem padded_ne_nil (width n : Nat) : padded width n ≠ [] := fun h =>
  digits_ne_nil n (List.append_eq_nil_iff.mp h).2

theorem length_padded {width n : Nat} (h : (digits n).length ≤ width) :
    (padded width n).length = width := by
  rw [padded, List.length_append, List.length_replicate, Nat.sub_add_cancel h]

theorem ofDigits_zeros_append (count : Nat) (ds : List Char) :
    ofDigits (List.replicate count '0' ++ ds) = ofDigits ds := by
  have hzeros : ofDigits (List.replicate count '0') = 0 := Nat.ofDigitChars_replicate_zero
  rw [ofDigits] at hzeros
  rw [ofDigits, List.foldl_append, hzeros, ofDigits]

theorem ofDigits_append_zeros (ds : List Char) (count : Nat) :
    ofDigits (ds ++ List.replicate count '0') = Nat.pow 10 count * ofDigits ds :=
  (Nat.ofDigitChars_append 0).trans Nat.ofDigitChars_replicate_zero

theorem ofDigits_padded (width n : Nat) : ofDigits (padded width n) = n :=
  (ofDigits_zeros_append ..).trans (ofDigits_digits n)

/-! ## Characters -/

theorem isBlank_of_isDigit {c : Char} (h : c.isDigit) : ¬isBlank c := by
  simp only [Char.isDigit, Bool.and_eq_true, decide_eq_true_eq] at h
  have h1 : 48 ≤ c.toNat := h.1
  have h2 : c.toNat ≤ 57 := h.2
  simp only [isBlank, Bool.or_eq_true, Bool.and_eq_true, decide_eq_true_eq, beq_iff_eq]
  omega

end Telemetry.Number
