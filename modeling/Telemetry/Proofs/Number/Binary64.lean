import Mathlib.Algebra.Group.Nat.Defs
import Telemetry.Number.Binary64

/-!
# Integers as doubles

An integer of 64 bits is far below the largest double, so the double nearest to it is
finite.

* `isFinite_ofMagnitude`: a double is finite if its bits below the sign are those of less
  than infinity;
* `shift_lt`: a number at about its own exponent has a significand of at most 54 bits;
* `isFinite_ofInt`: the nearest double of an integer of 64 bits.
-/

namespace Telemetry.Binary64

theorem magnitude_ofMagnitude {negative : Bool} {m : Nat} (h : m < signUnit) :
    (ofMagnitude negative m).magnitude = m := by
  have hm : m < 0x8000000000000000 := h
  have hbits : (m + if negative then signUnit else 0) < 2 ^ 64 := by
    split
    · show m + 0x8000000000000000 < _
      omega
    · omega
  rw [magnitude, ofMagnitude, UInt64.toNat_ofNat_of_lt' hbits]
  split
  · rw [Nat.add_mod_right, Nat.mod_eq_of_lt h]
  · exact Nat.mod_eq_of_lt h

theorem isFinite_ofMagnitude {negative : Bool} {m : Nat} (h : m < infinityMagnitude) :
    (ofMagnitude negative m).isFinite := by
  have hsign : m < signUnit := Nat.lt_trans h (by decide)
  rw [isFinite, exponentBits, magnitude_ofMagnitude hsign, decide_eq_true_eq]
  exact Nat.div_lt_of_lt_mul (Nat.mul_comm .. ▸ h)

theorem divNearest_le {num den bound : Nat} (h : num < bound * den) :
    divNearest num den ≤ bound := by
  have hdiv : num / den < bound := Nat.div_lt_of_lt_mul (Nat.mul_comm .. ▸ h)
  rw [divNearest]
  split <;> omega

/-- A number that is shifted to about its own exponent has few bits before the point. -/
theorem shift_lt {num : Nat} {q : Int} (hq : (num.log2 : Int) - 53 ≤ q) :
    (shift num 1 q).1 < 2 ^ 54 * (shift num 1 q).2 := by
  have hnum : num < 2 ^ (num.log2 + 1) := Nat.lt_log2_self
  rw [shift]
  split
  · calc num * 2 ^ (-q).toNat
        < 2 ^ (num.log2 + 1) * 2 ^ (-q).toNat := Nat.mul_lt_mul_of_pos_right hnum (Nat.two_pow_pos _)
      _ = 2 ^ (num.log2 + 1 + (-q).toNat) := (Nat.pow_add ..).symm
      _ ≤ 2 ^ 54 := Nat.pow_le_pow_right (by decide) (by omega)
  · calc num
        < 2 ^ (num.log2 + 1) := hnum
      _ ≤ 2 ^ (54 + q.toNat) := Nat.pow_le_pow_right (by decide) (by omega)
      _ = 2 ^ 54 * (1 * 2 ^ q.toNat) := by rw [Nat.pow_add, Nat.one_mul]

theorem quantumOfRatio_one (num : Nat) (h : num.log2 < 64) :
    (num.log2 : Int) - 53 ≤ quantumOfRatio num 1 ∧ quantumOfRatio num 1 ≤ 11 := by
  have hone : Nat.log2 1 = 0 := by decide
  rw [quantumOfRatio, hone]
  dsimp only
  split <;> omega

theorem isFinite_ofRatio_one {negative : Bool} {num : Nat} (h : num < 2 ^ 64) :
    (ofRatio negative num 1).isFinite := by
  rw [ofRatio]
  split
  · exact isFinite_ofMagnitude (by decide)
  · rename_i hne
    obtain ⟨hlow, hhigh⟩ := quantumOfRatio_one num ((Nat.log2_lt hne).mpr h)
    have hround := divNearest_le (shift_lt hlow)
    have hlt : (quantumOfRatio num 1 + 1074).toNat * exponentUnit +
        divNearest (shift num 1 (quantumOfRatio num 1)).1 (shift num 1 (quantumOfRatio num 1)).2 <
          infinityMagnitude := by
      have hexp : (quantumOfRatio num 1 + 1074).toNat ≤ 1085 := by omega
      calc _ ≤ 1085 * exponentUnit + 2 ^ 54 := Nat.add_le_add (Nat.mul_le_mul_right _ hexp) hround
        _ < infinityMagnitude := by decide
    exact isFinite_ofMagnitude (Nat.lt_of_le_of_lt (Nat.min_le_left ..) hlt)

/-- The double nearest to an integer of 64 bits is finite. -/
theorem isFinite_ofInt {n : Int} (h : -0x8000000000000000 ≤ n ∧ n < 0x10000000000000000) :
    (ofInt n).isFinite :=
  isFinite_ofRatio_one (by omega)

end Telemetry.Binary64
