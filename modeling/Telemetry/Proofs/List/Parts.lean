import Mathlib.Data.List.Basic
import Mathlib.Data.List.Perm.Basic

/-!
# The parts of a list

An index keeps a list in parts, each the elements with some key, and erases an element
from its part.

* `filter_eraseP_of_imp`: erasure is felt in the part that the element is in;
* `filter_eraseP_of_not`: no other part changes;
* `eraseP_map_of_iff`: an element is erased under the name that it has;
* `flatMap_filter_perm`: the parts make up the list.
-/

namespace Telemetry

variable {α κ : Type}

/-- Erasing from a list erases from the part where the element must be. -/
theorem filter_eraseP_of_imp {p q r : α → Bool} (h : ∀ a, p a = (r a && q a)) (l : List α) :
    (l.eraseP p).filter q = (l.filter q).eraseP r := by
  rw [List.eraseP_filter, funext h]

/-- The parts where the element cannot be stay. -/
theorem filter_eraseP_of_not {p q : α → Bool} (h : ∀ a, p a → q a = false) (l : List α) :
    (l.eraseP p).filter q = l.filter q := by
  rcases List.exists_or_eq_self_of_eraseP p l with e | ⟨a, l₁, l₂, -, ha, e, e'⟩
  · rw [e]
  · rw [e', e, List.filter_append, List.filter_append, List.filter_cons_of_neg]
    simp [h a ha]

/-- Erasing the one thing that has a name is erasing the name. -/
theorem eraseP_map_of_iff [BEq κ] [LawfulBEq κ] {f : κ → α} {p : α → Bool} {k : κ}
    (h : ∀ k', p (f k') ↔ k = k') (l : List κ) : (l.map f).eraseP p = (l.erase k).map f := by
  have hp : p ∘ f = (k == ·) := funext fun k' => Bool.eq_iff_iff.mpr ((h k').trans beq_iff_eq.symm)
  rw [List.eraseP_map, hp, List.erase_eq_eraseP]

/-- The parts of a list under all its keys make up the list. -/
theorem flatMap_filter_perm [DecidableEq κ] {keys : List κ} (hn : keys.Nodup) (key : α → κ)
    {l : List α} (hl : ∀ a ∈ l, key a ∈ keys) :
    (keys.flatMap fun k => l.filter fun a => key a = k).Perm l := by
  induction keys generalizing l with
  | nil => rw [List.eq_nil_iff_forall_not_mem.mpr fun a ha => List.not_mem_nil (hl a ha), List.flatMap_nil]
  | cons k keys ih =>
    obtain ⟨hk, hkeys⟩ := List.nodup_cons.mp hn
    -- the other parts are parts of the rest
    have hrest : (keys.flatMap fun k' => l.filter fun a => key a = k') =
        keys.flatMap fun k' => (l.filter fun a => !decide (key a = k)).filter fun a => key a = k' := by
      refine List.flatMap_congr fun k' hk' => ?_
      rw [List.filter_filter]
      refine List.filter_congr fun a _ => ?_
      by_cases e : key a = k'
      · have hne : key a ≠ k := fun e' => hk (e' ▸ e ▸ hk')
        simp [e, e ▸ hne]
      · simp [e]
    have hkept : ∀ a ∈ l.filter fun a => !decide (key a = k), key a ∈ keys := by
      intro a ha
      obtain ⟨ha, hne⟩ := List.mem_filter.mp ha
      exact (List.mem_cons.mp (hl a ha)).resolve_left (by simpa using hne)
    rw [List.flatMap_cons, hrest]
    exact ((ih hkeys hkept).append_left _).trans (List.filter_append_perm _ l)

end Telemetry
