import Mathlib.Data.List.Basic
import Mathlib.Tactic.ByContra
import Telemetry.Index.Nested
import Telemetry.Proofs.List.Parts

/-!
# What an index has entries for

An index keeps lists under keys, and nothing under a key whose list is empty.

* `filled`: a list as such an entry; `flatMap_toList_of_filled`: all entries together, which
  make up the list whose parts they are (`flatMap_toList_perm`);
* `size_eq_length`: how many entries there are;
* `Filing`: a record with the service it is filed under, as an index receives it;
* `Nested.Pruned`: no inner map is empty; kept by `put`, by `erase`, and by `drop` unless
  the value was the last one of its inner map (`Pruned.drop`);
* `Nested.ext_at?`: pruned maps that agree on all values are equal.
-/

namespace Telemetry

variable {α : Type}

/-- A list as the entry of an index, which has none for the empty list. -/
def filled (l : List α) : Option (List α) := if l.isEmpty then none else some l

@[simp] theorem filled_nil : filled ([] : List α) = none := rfl

@[simp] theorem filled_concat (l : List α) (a : α) : filled (l ++ [a]) = some (l ++ [a]) := by
  simp [filled]

theorem filled_of_ne_nil {l : List α} (h : l ≠ []) : filled l = some l := by
  simp [filled, h]

@[simp] theorem filled_eq_none {l : List α} : filled l = none ↔ l = [] := by
  cases l <;> simp [filled]

theorem filled_eq_some {l l' : List α} : filled l = some l' ↔ l = l' ∧ l ≠ [] := by
  cases l <;> simp [filled]

@[simp] theorem getD_filled (l : List α) : (filled l).getD [] = l := by
  cases l <;> rfl

/-- A map has as many entries as there are elements in a list of its keys. -/
theorem size_eq_length {κ β : Type} [Ord κ] [Std.TransOrd κ] [Std.LawfulEqOrd κ]
    (m : Std.ExtTreeMap κ β) {keys : List κ} (hn : keys.Nodup)
    (hk : ∀ k : κ, m[k]?.isSome ↔ k ∈ keys) : m.size = keys.length := by
  rw [← Std.ExtTreeMap.length_keys]
  refine List.Perm.length_eq ((List.perm_ext_iff_of_nodup Std.ExtTreeMap.nodup_keys hn).mpr fun k => ?_)
  rw [Std.ExtTreeMap.mem_keys, Std.ExtTreeMap.mem_iff_isSome_getElem?, hk]

section

variable {κ : Type} [Ord κ] [Std.TransOrd κ] [Std.LawfulEqOrd κ]
  {m : Std.ExtTreeMap κ (List α)} {f : κ → List α}

theorem mem_keys_of_filled (h : ∀ k : κ, m[k]? = filled (f k)) {k : κ} : k ∈ m.keys ↔ f k ≠ [] := by
  rw [Std.ExtTreeMap.mem_keys, Std.ExtTreeMap.mem_iff_isSome_getElem?, h, ← not_iff_not]
  simp

/-- What is found where a list has taken the place of an entry. -/
theorem getElem?_replace [DecidableEq κ] (m : Std.ExtTreeMap κ (List α)) (k k' : κ) (l : List α) :
    (if l.isEmpty then m.erase k else m.insert k l)[k']? = if k = k' then filled l else m[k']? := by
  rw [filled]
  split
  · simp only [Std.ExtTreeMap.getElem?_erase, Std.LawfulEqCmp.compare_eq_iff_eq]
  · simp only [Std.ExtTreeMap.getElem?_insert, Std.LawfulEqCmp.compare_eq_iff_eq]

/-- All that an index of lists holds, list by list. -/
theorem flatMap_toList_of_filled (h : ∀ k : κ, m[k]? = filled (f k)) :
    m.toList.flatMap (·.2) = m.keys.flatMap f := by
  rw [← Std.ExtTreeMap.map_fst_toList_eq_keys, List.flatMap_map]
  refine List.flatMap_congr fun e he => ?_
  have he : m[e.1]? = some e.2 := Std.ExtTreeMap.mem_toList_iff_getElem?_eq_some.mp he
  rw [h] at he
  exact (filled_eq_some.mp he).1.symm

/-- An index of the parts of a list holds the whole list. -/
theorem flatMap_toList_perm [DecidableEq κ] {key : α → κ} {l : List α}
    (h : ∀ k : κ, m[k]? = filled (l.filter fun a => key a = k)) :
    (m.toList.flatMap (·.2)).Perm l := by
  rw [flatMap_toList_of_filled h]
  refine flatMap_filter_perm Std.ExtTreeMap.nodup_keys key fun a ha => ?_
  rw [mem_keys_of_filled h]
  exact List.ne_nil_of_mem (List.mem_filter.mpr ⟨ha, decide_eq_true rfl⟩)

end

/-- A record and the service that it is filed under. -/
structure Filing (α : Type) where
  service : String
  record : α

/-- Of two values written under one key only the later one is left. -/
theorem insert_insert_self {κ β : Type} [Ord κ] [Std.TransOrd κ] [Std.LawfulEqOrd κ]
    (m : Std.ExtTreeMap κ β) (k : κ) (b b' : β) : (m.insert k b).insert k b' = m.insert k b' := by
  refine Std.ExtTreeMap.ext_getElem? fun k' => ?_
  simp only [Std.ExtTreeMap.getElem?_insert]
  split <;> rfl

namespace Nested

variable {κ ι β : Type} [Ord κ] [Ord ι] [Std.TransOrd κ] {m : Nested κ ι β}

/-- No inner map is empty. -/
def Pruned (m : Nested κ ι β) : Prop :=
  ∀ (k : κ) (inner : Std.ExtTreeMap ι β), m[k]? = some inner → inner ≠ ∅

theorem pruned_empty : Pruned (∅ : Nested κ ι β) := by
  intro k inner h
  simp at h

theorem Pruned.insert (h : m.Pruned) (k : κ) {inner : Std.ExtTreeMap ι β} (hi : inner ≠ ∅) :
    Pruned (m.insert k inner) := by
  intro k' inner' h'
  rw [Std.ExtTreeMap.getElem?_insert] at h'
  split at h'
  · rw [← Option.some.inj h']; exact hi
  · exact h k' inner' h'

theorem Pruned.erase (h : m.Pruned) (k : κ) : Pruned (m.erase k) := by
  intro k' inner' h'
  rw [Std.ExtTreeMap.getElem?_erase] at h'
  split at h'
  · cases h'
  · exact h k' inner' h'

variable [Std.TransOrd ι]

theorem Pruned.put (h : m.Pruned) (k : κ) (i : ι) (b : β) : (m.put k i b).Pruned :=
  h.insert k Std.ExtTreeMap.insert_ne_empty

theorem Pruned.erase_drop (h : m.Pruned) (k : κ) (i : ι) : Pruned ((m.drop k i).erase k) := by
  intro k' inner h'
  rw [Std.ExtTreeMap.getElem?_erase, Nested.drop, Std.ExtTreeMap.getElem?_modify] at h'
  split at h'
  · cases h'
  · exact h k' inner h'

/-- An inner map with a value is not empty. -/
theorem ne_empty_of_at? {k : κ} {i : ι} {b : β} (h : m.at? k i = some b) : m.getD k ∅ ≠ ∅ := by
  intro he
  rw [← getElem?_getD, he] at h
  simp at h

theorem at?_eq_none_of_empty {k : κ} (h : m.getD k ∅ = ∅) (i : ι) : m.at? k i = none := by
  rw [← getElem?_getD, h]
  simp

/-- An inner map that is not empty has a value. -/
theorem exists_at? [Std.LawfulEqOrd ι] {k : κ} (h : m.getD k ∅ ≠ ∅) : ∃ i b, m.at? k i = some b := by
  by_contra hn
  refine h (Std.ExtTreeMap.ext_getElem? fun i => ?_)
  rw [getElem?_getD]
  cases hi : m.at? k i with
  | none => simp
  | some b => exact absurd ⟨i, b, hi⟩ hn

variable [Std.LawfulEqOrd κ]

theorem put_put [Std.LawfulEqOrd ι] (m : Nested κ ι β) (k : κ) (i : ι) (b b' : β) :
    (m.put k i b).put k i b' = m.put k i b' := by
  rw [put, put, Std.ExtTreeMap.getD_insert_self, insert_insert_self, insert_insert_self, put]

theorem Pruned.drop [DecidableEq κ] (h : m.Pruned) {k : κ} {i : ι}
    (hk : (m.drop k i).getD k ∅ ≠ ∅) : (m.drop k i).Pruned := by
  intro k' inner h'
  by_cases e : k = k'
  · subst e
    rwa [Std.ExtTreeMap.getD_eq_getD_getElem?, h', Option.getD_some] at hk
  · rw [Nested.drop, Std.ExtTreeMap.getElem?_modify, if_neg (by simpa using e)] at h'
    exact h k' inner h'

theorem ext_at? [Std.LawfulEqOrd ι] {m' : Nested κ ι β} (h : m.Pruned) (h' : m'.Pruned)
    (e : ∀ k i, m.at? k i = m'.at? k i) : m = m' := by
  refine Std.ExtTreeMap.ext_getElem? fun k => ?_
  have hi : m.getD k ∅ = m'.getD k ∅ :=
    Std.ExtTreeMap.ext_getElem? fun i => by rw [getElem?_getD, getElem?_getD, e]
  simp only [Std.ExtTreeMap.getD_eq_getD_getElem?] at hi
  cases hk : m[k]? with
  | none =>
    cases hk' : m'[k]? with
    | none => rfl
    | some inner' =>
      rw [hk, hk'] at hi
      exact absurd hi.symm (h' k inner' hk')
  | some inner =>
    cases hk' : m'[k]? with
    | none =>
      rw [hk, hk'] at hi
      exact absurd hi (h k inner hk)
    | some inner' =>
      rw [hk, hk'] at hi
      exact congrArg some hi

end Nested

end Telemetry
