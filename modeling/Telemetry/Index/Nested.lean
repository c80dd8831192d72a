import Std.Data.ExtTreeMap

/-!
# Maps within maps

Values under two keys: the first one leads to an inner map, where the second one
leads to the value.

* `Nested.at?`, `Nested.put`, `Nested.drop`: one value;
* `at?_put`, `at?_drop`, `at?_erase`: what is found afterwards.
-/

namespace Telemetry

/-- Values under two keys. -/
abbrev Nested (κ ι β : Type) [Ord κ] [Ord ι] := Std.ExtTreeMap κ (Std.ExtTreeMap ι β)

namespace Nested

variable {κ ι β : Type} [Ord κ] [Ord ι] [Std.TransOrd κ] [Std.TransOrd ι]

/-- The value under two keys. -/
def at? (m : Nested κ ι β) (k : κ) (i : ι) : Option β := m[k]?.bind (·[i]?)

/-- The map with a value under two keys. -/
def put (m : Nested κ ι β) (k : κ) (i : ι) (b : β) : Nested κ ι β :=
  m.insert k ((m.getD k ∅).insert i b)

/-- The map without the value under two keys. The inner map stays, even if that was its
last value. -/
def drop (m : Nested κ ι β) (k : κ) (i : ι) : Nested κ ι β := m.modify k (·.erase i)

theorem at?_empty (k : κ) (i : ι) : at? (∅ : Nested κ ι β) k i = none := by simp [at?]

theorem getElem?_getD (m : Nested κ ι β) (k : κ) (i : ι) : (m.getD k ∅)[i]? = m.at? k i := by
  rw [at?, Std.ExtTreeMap.getD_eq_getD_getElem?]
  cases m[k]? <;> simp

variable [Std.LawfulEqOrd κ] [DecidableEq κ]

theorem at?_insert (m : Nested κ ι β) (k k' : κ) (inner : Std.ExtTreeMap ι β) (i : ι) :
    at? (m.insert k inner) k' i = if k = k' then inner[i]? else m.at? k' i := by
  simp only [at?, Std.ExtTreeMap.getElem?_insert, Std.LawfulEqCmp.compare_eq_iff_eq]
  split <;> rfl

theorem at?_erase (m : Nested κ ι β) (k k' : κ) (i : ι) :
    at? (m.erase k) k' i = if k = k' then none else m.at? k' i := by
  simp only [at?, Std.ExtTreeMap.getElem?_erase, Std.LawfulEqCmp.compare_eq_iff_eq]
  split <;> rfl

variable [Std.LawfulEqOrd ι] [DecidableEq ι]

theorem at?_put (m : Nested κ ι β) (k k' : κ) (i i' : ι) (b : β) :
    (m.put k i b).at? k' i' = if k = k' ∧ i = i' then some b else m.at? k' i' := by
  rw [put, at?_insert]
  by_cases hk : k = k'
  · subst hk
    simp only [Std.ExtTreeMap.getElem?_insert, Std.LawfulEqCmp.compare_eq_iff_eq, getElem?_getD,
      true_and, if_true]
  · simp only [hk, if_false, false_and]

theorem at?_drop (m : Nested κ ι β) (k k' : κ) (i i' : ι) :
    (m.drop k i).at? k' i' = if k = k' ∧ i = i' then none else m.at? k' i' := by
  simp only [drop, at?, Std.ExtTreeMap.getElem?_modify, Std.LawfulEqCmp.compare_eq_iff_eq]
  by_cases hk : k = k'
  · subst hk
    cases m[k]? with
    | none => simp
    | some inner =>
      simp only [if_true, Option.map_some, Option.bind_some, Std.ExtTreeMap.getElem?_erase,
        Std.LawfulEqCmp.compare_eq_iff_eq, true_and]
  · simp only [hk, if_false, false_and]

end Nested

end Telemetry
