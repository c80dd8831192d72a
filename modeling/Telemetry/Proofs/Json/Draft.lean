import Telemetry.Json.Decoder

/-!
# Drafts of values

The draft of a value has no fault: it can be skipped and used, and it stands for the value
that it was made of, if that one is canonical.

* `skips_ofJson`, `usable_ofJson`;
* `toJson?_ofJson`, `toMembers?_ofMembers`.
-/

namespace Telemetry

namespace Json

theorem ascending_concat {members : List (String × Json)} {key : String} {v : Json} :
    Ascending (members ++ [(key, v)]) ↔
      Ascending members ∧ ∀ m ∈ members, compare m.1 key = .lt := by
  rw [Ascending, List.pairwise_append]
  simp [Ascending]

/-- A member with a key beyond all others is added at the end. -/
theorem put_eq_concat {members : List (String × Json)} {key : String} (v : Json)
    (h : ∀ m ∈ members, compare m.1 key = .lt) : put key v members = members ++ [(key, v)] := by
  induction members with
  | nil => rfl
  | cons m rest ih =>
    obtain ⟨hm, hrest⟩ := List.forall_mem_cons.mp h
    rw [put, Std.OrientedCmp.gt_of_lt hm, List.cons_append, ih hrest]

theorem lookup_put_self (key : String) (v : Json) (members : List (String × Json)) :
    (put key v members).lookup key = some v := by
  induction members with
  | nil => exact List.lookup_cons_self
  | cons m rest ih =>
    obtain ⟨k, w⟩ := m
    rw [put]
    split
    · exact List.lookup_cons_self
    · exact List.lookup_cons_self
    · next hgt =>
      have hne : (key == k) = false := beq_eq_false_iff_ne.mpr fun e => by
        rw [e, Std.ReflOrd.compare_self] at hgt
        cases hgt
      rw [List.lookup_cons, hne]
      exact ih

theorem lookup_put_of_ne {key name : String} (h : name ≠ key) (v : Json)
    (members : List (String × Json)) : (put key v members).lookup name = members.lookup name := by
  have hkey : (name == key) = false := beq_eq_false_iff_ne.mpr h
  induction members with
  | nil => rw [put, List.lookup_cons, hkey]
  | cons m rest ih =>
    obtain ⟨k, w⟩ := m
    rw [put]
    split
    · rw [List.lookup_cons, hkey]
    · next heq =>
      rw [List.lookup_cons, List.lookup_cons, ← Std.LawfulEqCmp.eq_of_compare heq, hkey]
    · rw [List.lookup_cons, List.lookup_cons, ih]

end Json

namespace Draft

open Json

/-! ## Values without faults -/

mutual

/-- The draft of a value can be skipped. -/
theorem skips_ofJson : ∀ v : Json, (ofJson v).skips
  | .null | .bool _ | .int _ | .float _ | .str _ => rfl
  | .arr items => by
    rw [ofJson, skips, skipsItems_ofItems items]
    rfl
  | .obj members => by
    rw [ofJson, skips, skipsMembers_ofMembers members]
    rfl

theorem skipsItems_ofItems : ∀ items : List Json, skipsItems (ofItems items)
  | [] => rfl
  | v :: rest => by rw [ofItems, skipsItems, skips_ofJson v, skipsItems_ofItems rest, Bool.and_self]

theorem skipsMembers_ofMembers :
    ∀ members : List (String × Json), skipsMembers (ofMembers members)
  | [] => rfl
  | (_, v) :: rest => by
    rw [ofMembers, skipsMembers, skips_ofJson v, skipsMembers_ofMembers rest, Bool.and_self]

end

mutual

/-- The draft of a value can be used. -/
theorem usable_ofJson : ∀ v : Json, (ofJson v).usable
  | .null | .bool _ | .int _ | .float _ | .str _ => rfl
  | .arr items => by
    rw [ofJson, usable, usableItems_ofItems items]
    rfl
  | .obj members => by
    rw [ofJson, usable, usableMembers_ofMembers members]
    rfl

theorem usableItems_ofItems : ∀ items : List Json, usableItems (ofItems items)
  | [] => rfl
  | v :: rest => by
    rw [ofItems, usableItems, usable_ofJson v, usableItems_ofItems rest, Bool.and_self]

theorem usableMembers_ofMembers :
    ∀ members : List (String × Json), usableMembers (ofMembers members)
  | [] => rfl
  | (_, v) :: rest => by
    rw [ofMembers, usableMembers, usable_ofJson v, usableMembers_ofMembers rest]
    rfl

end

/-! ## The values that drafts stand for -/

mutual

/-- The draft of a canonical value stands for that value. -/
theorem toJson?_ofJson : ∀ {v : Json} (h : v.Canonical), toJson? (ofJson v) = some ⟨v, h⟩
  | .null, _ | .bool _, _ | .int _, _ | .float _, _ | .str _, _ => rfl
  | .arr items, h => by
    simp only [ofJson, toJson?, toItems?_ofItems h]
  | .obj members, h => by
    simp only [ofJson, toJson?, toMembers?_ofMembers Object.empty h]
    rfl

theorem toItems?_ofItems :
    ∀ {items : List Json} (h : CanonicalItems items), toItems? (ofItems items) = some ⟨items, h⟩
  | [], _ => rfl
  | v :: rest, h => by
    simp only [ofItems, toItems?, toJson?_ofJson h.1, toItems?_ofItems h.2]

/-- The members of a canonical object are added one by one to those before them. -/
theorem toMembers?_ofMembers (before : Object) :
    ∀ {members : List (String × Json)} (h : (Json.obj (before.1 ++ members)).Canonical),
      toMembers? before (ofMembers members) = some ⟨before.1 ++ members, h⟩
  | [], h => by
    rw [ofMembers, toMembers?]
    exact congrArg some (Subtype.ext (List.append_nil before.1).symm)
  | (key, v) :: rest, h => by
    have hv : v.Canonical :=
      canonicalMembers_iff.mp h.2 (key, v) (List.mem_append_right _ List.mem_cons_self)
    have hsplit : before.1 ++ (key, v) :: rest = before.1 ++ [(key, v)] ++ rest := by
      rw [List.append_assoc, List.singleton_append]
    have hput : (before.put key ⟨v, hv⟩).1 = before.1 ++ [(key, v)] := by
      have hasc : Ascending (before.1 ++ [(key, v)]) :=
        (hsplit ▸ h.1).sublist (List.sublist_append_left ..)
      exact put_eq_concat v (ascending_concat.mp hasc).2
    have hrest : (Json.obj ((before.put key ⟨v, hv⟩).1 ++ rest)).Canonical := by
      rwa [hput, ← hsplit]
    simp only [ofMembers, toMembers?, toJson?_ofJson hv,
      toMembers?_ofMembers (before.put key ⟨v, hv⟩) hrest, hput, ← hsplit]

end

/-- The members of a canonical object are read back. -/
theorem toMembers?_ofObject (o : Object) : toMembers? .empty (ofMembers o.1) = some o :=
  toMembers?_ofMembers Object.empty o.2

end Draft

end Telemetry
