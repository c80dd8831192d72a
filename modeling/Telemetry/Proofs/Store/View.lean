import Mathlib.Data.List.DropRight
import Mathlib.Data.List.Nodup
import Telemetry.Store.View

/-!
# Rotation and replacement on lists

What `overflow`, `retained` and `replaceFirst` do to lists whose elements are told apart
by a key.

* `retained_retained_append`: rotating early makes no difference to a later rotation;
* `mem_retained_iff`, `filter_mem_retained`: what is retained of a list without repetition;
* `replaceFirst_eq_map`, `set_eq_map`: where no two elements have the same key, replacing
  the one with a key replaces all of them.
-/

namespace Telemetry

variable {α κ : Type} {l : List α}

/-! ## Rotation -/

theorem retained_eq_rtake (limit : Nat) (l : List α) : retained limit l = l.rtake limit := rfl

theorem map_retained (f : α → κ) (limit : Nat) (l : List α) :
    (retained limit l).map f = retained limit (l.map f) := by
  rw [retained, retained, List.map_drop, List.length_map]

theorem map_overflow (f : α → κ) (limit : Nat) (l : List α) :
    (overflow limit l).map f = overflow limit (l.map f) := by
  rw [overflow, overflow, List.map_take, List.length_map]

theorem retained_of_length_le {limit : Nat} (h : l.length ≤ limit) : retained limit l = l := by
  rw [retained, Nat.sub_eq_zero_of_le h, List.drop_zero]

theorem overflow_eq_nil {limit : Nat} : overflow limit l = [] ↔ l.length ≤ limit := by
  rw [← List.length_eq_zero_iff, overflow, List.length_take]
  omega

theorem retained_retained_append (limit : Nat) (l l' : List α) :
    retained limit (retained limit l ++ l') = retained limit (l ++ l') := by
  have hle : l.length - limit ≤ l.length := Nat.sub_le ..
  rw [retained, retained, retained, ← List.drop_append_of_le_length hle, List.drop_drop,
    List.length_drop, List.length_append]
  congr 1
  omega

/-- Where nothing comes up twice, an element is retained if it does not overflow. -/
theorem mem_retained_iff {limit : Nat} {a : α} (h : l.Nodup) (ha : a ∈ l) :
    a ∈ retained limit l ↔ a ∉ overflow limit l := by
  rw [← overflow_append_retained limit l] at h ha
  have hd := List.disjoint_of_nodup_append h
  exact ⟨fun hr ho => hd ho hr, fun ho => (List.mem_append.mp ha).resolve_left ho⟩

theorem filter_mem_retained [DecidableEq α] (limit : Nat) (h : l.Nodup) :
    (l.filter fun a => a ∈ retained limit l) = retained limit l := by
  have hsplit := overflow_append_retained limit l
  have hdropped : ((overflow limit l).filter fun a => a ∈ retained limit l) = [] := by
    refine List.filter_eq_nil_iff.mpr fun a ha hr => ?_
    have hl : a ∈ l := hsplit ▸ List.mem_append_left _ ha
    exact (mem_retained_iff h hl).mp (of_decide_eq_true hr) ha
  have hkept : ((retained limit l).filter fun a => a ∈ retained limit l) = retained limit l :=
    List.filter_eq_self.mpr fun a ha => decide_eq_true ha
  calc (l.filter fun a => a ∈ retained limit l)
      = ((overflow limit l ++ retained limit l).filter fun a => a ∈ retained limit l) := by rw [hsplit]
    _ = retained limit l := by rw [List.filter_append, hdropped, hkept, List.nil_append]

/-! ## Replacement -/

theorem replaceFirst_eq_map [DecidableEq κ] {key : α → κ} {k : κ} {p : α → Bool} (a : α)
    (hp : ∀ b ∈ l, p b ↔ key b = k) (hn : (l.map key).Nodup) :
    replaceFirst p a l = l.map fun b => if key b = k then a else b := by
  induction l with
  | nil => rfl
  | cons b rest ih =>
    rw [List.map_cons, List.nodup_cons] at hn
    have hrest : ∀ c ∈ rest, p c ↔ key c = k := fun c hc => hp c (List.mem_cons_of_mem _ hc)
    have hb := hp b List.mem_cons_self
    rw [replaceFirst, List.map_cons]
    by_cases e : key b = k
    · -- no later element has the key
      have hother : ∀ c ∈ rest, key c ≠ k := fun c hc ec =>
        hn.1 (List.mem_map.mpr ⟨c, hc, ec.trans e.symm⟩)
      rw [if_pos (hb.mpr e), if_pos e, List.map_congr_left fun c hc => if_neg (hother c hc), List.map_id']
    · rw [if_neg fun h => e (hb.mp h), if_neg e, ih hrest hn.2]

theorem set_eq_map [DecidableEq κ] {key : α → κ} {i : Nat} {b : α} (a : α) (hi : l[i]? = some b)
    (hn : (l.map key).Nodup) : l.set i a = l.map fun c => if key c = key b then a else c := by
  refine List.ext_getElem? fun j => ?_
  rw [List.getElem?_set, List.getElem?_map]
  have hlt := (List.getElem?_eq_some_iff.mp hi).1
  split
  · rename_i e
    rw [← e, hi, Option.map_some, if_pos rfl]
  · rename_i e
    cases hj : l[j]? with
    | none => rfl
    | some c =>
      have hne : key c ≠ key b := by
        intro hk
        have hkeys : (l.map key)[i]? = (l.map key)[j]? := by
          rw [List.getElem?_map, List.getElem?_map, hi, hj, Option.map_some, Option.map_some, hk]
        exact e ((List.getElem?_inj (by rwa [List.length_map]) hn).mp hkeys)
      rw [Option.map_some, if_neg hne]

end Telemetry
