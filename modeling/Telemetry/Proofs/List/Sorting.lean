import Mathlib.Data.List.Nodup

/-!
# Stable sorting

* `filter_mergeSort`: elements that are in order however they stand keep their places among
  themselves;
* `descending_mergeSort`, `filter_descending`: sorting by a number, the largest first;
* `mergeSort_of_perm`: sorting by a number that no two elements share.
-/

namespace Telemetry

variable {α : Type}

/-- Elements any two of which are in order are left by the sorting as they stand. -/
theorem filter_mergeSort {le : α → α → Bool} (htrans : ∀ a b c, le a b → le b c → le a c)
    (htotal : ∀ a b, le a b || le b a) {p : α → Bool} (hclass : ∀ a b, p a → p b → le a b)
    (l : List α) : (l.mergeSort le).filter p = l.filter p := by
  have hsorted : (l.filter p).Pairwise (le · ·) := List.pairwise_of_forall_mem_list fun a ha b hb =>
    hclass a b (List.mem_filter.mp ha).2 (List.mem_filter.mp hb).2
  have hsub := (List.sublist_mergeSort htrans htotal hsorted List.filter_sublist).filter p
  rw [List.filter_filter] at hsub
  simp only [Bool.and_self] at hsub
  exact (hsub.eq_of_length ((List.mergeSort_perm ..).filter p).length_eq.symm).symm

section

variable (key : α → Nat)

theorem descending_trans (a b c : α) (hab : decide (key b ≤ key a)) (hbc : decide (key c ≤ key b)) :
    decide (key c ≤ key a) := by
  rw [decide_eq_true_eq] at hab hbc ⊢
  omega

theorem descending_total (a b : α) : decide (key b ≤ key a) || decide (key a ≤ key b) := by
  rw [Bool.or_eq_true, decide_eq_true_eq, decide_eq_true_eq]
  omega

theorem descending_mergeSort (l : List α) :
    (l.mergeSort fun a b => key b ≤ key a).Pairwise fun a b => key b ≤ key a :=
  (List.pairwise_mergeSort (descending_trans key) (descending_total key) l).imp of_decide_eq_true

/-- Elements with the same number stay in their order. -/
theorem filter_descending (n : Nat) (l : List α) :
    (l.mergeSort fun a b => key b ≤ key a).filter (fun a => key a = n) =
      l.filter fun a => key a = n := by
  refine filter_mergeSort (descending_trans key) (descending_total key) (fun a b ha hb => ?_) l
  rw [decide_eq_true_eq] at ha hb ⊢
  omega

/-- However the elements of a list with ascending numbers are mixed, sorting gives the list. -/
theorem mergeSort_of_perm {l l' : List α} (h : l.Perm l')
    (hl' : l'.Pairwise fun a b => key a < key b) :
    (l.mergeSort fun a b => key a ≤ key b) = l' := by
  have hsorted : (l.mergeSort fun a b => key a ≤ key b).Pairwise fun a b => key a ≤ key b := by
    refine (List.pairwise_mergeSort (fun a b c hab hbc => ?_) (fun a b => ?_) l).imp
      of_decide_eq_true
    · rw [decide_eq_true_eq] at hab hbc ⊢
      omega
    · rw [Bool.or_eq_true, decide_eq_true_eq, decide_eq_true_eq]
      omega
  have hperm := (List.mergeSort_perm l fun a b => decide (key a ≤ key b)).trans h
  have hnodup : (l'.map key).Nodup := List.pairwise_map.mpr (hl'.imp Nat.ne_of_lt)
  refine hperm.eq_of_pairwise (fun a b ha hb hab hba => ?_) hsorted (hl'.imp Nat.le_of_lt)
  exact List.inj_on_of_nodup_map hnodup (hperm.mem_iff.mp ha) hb (Nat.le_antisymm hab hba)

end

end Telemetry
