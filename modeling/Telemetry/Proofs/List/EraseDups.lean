import Mathlib.Data.List.Nodup

/-!
# First occurrences

What `List.eraseDups`, which keeps the first occurrence of every element, does on
lists without repetition and on filtered lists.
-/

namespace Telemetry

variable {α : Type} [BEq α] [LawfulBEq α]

theorem eraseDups_filter (p : α → Bool) (l : List α) :
    (l.filter p).eraseDups = l.eraseDups.filter p := by
  induction h : l.length using Nat.strongRecOn generalizing l with
  | ind n ih =>
    cases l with
    | nil => rfl
    | cons a l =>
      have hlen : (l.filter fun b => !b == a).length < n := by
        rw [← h, List.length_cons]
        exact Nat.lt_succ_of_le (List.length_filter_le ..)
      have hcomm : (l.filter p).filter (fun b => !b == a) = (l.filter fun b => !b == a).filter p := by
        simp only [List.filter_filter, Bool.and_comm]
      rw [List.eraseDups_cons, List.filter_cons, List.filter_cons]
      split
      · rw [List.eraseDups_cons, hcomm, ih _ hlen _ rfl]
      · rename_i hp
        have hself : (l.filter p).filter (fun b => !b == a) = l.filter p := by
          refine List.filter_eq_self.mpr fun b hb => ?_
          have hne : b ≠ a := fun e => hp (e ▸ (List.mem_filter.mp hb).2)
          simpa using hne
        rw [← ih _ hlen _ rfl, ← hcomm, hself]

theorem nodup_eraseDups (l : List α) : l.eraseDups.Nodup := by
  induction h : l.length using Nat.strongRecOn generalizing l with
  | ind n ih =>
    cases l with
    | nil => exact List.nodup_nil
    | cons a l =>
      rw [List.eraseDups_cons, eraseDups_filter, List.nodup_cons]
      refine ⟨by simp, (ih l.length ?_ l rfl).filter _⟩
      rw [← h, List.length_cons]
      exact Nat.lt_succ_self _

theorem eraseDups_of_nodup {l : List α} (h : l.Nodup) : l.eraseDups = l := by
  induction l with
  | nil => rfl
  | cons a l ih =>
    obtain ⟨ha, hl⟩ := List.nodup_cons.mp h
    have hself : l.filter (fun b => !b == a) = l := by
      refine List.filter_eq_self.mpr fun b hb => ?_
      have hne : b ≠ a := fun e => ha (e ▸ hb)
      simpa using hne
    rw [List.eraseDups_cons, eraseDups_filter, ih hl, hself]

theorem eraseDups_concat (l : List α) (a : α) :
    (l ++ [a]).eraseDups = if a ∈ l then l.eraseDups else l.eraseDups ++ [a] := by
  rw [List.eraseDups_append]
  split
  · rename_i h
    simp [List.removeAll, h]
  · rename_i h
    simp [List.removeAll, h, eraseDups_of_nodup (List.nodup_singleton a)]

end Telemetry
