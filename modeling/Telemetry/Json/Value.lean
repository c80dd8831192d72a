import Telemetry.Number.Binary64

/-!
# JSON values

A JSON value as a tree. Numbers are kept as the two kinds that the text of a
number is read as: an integer of 64 bits, with or without a sign, or a finite
double. The members of an object are a list of pairs; a value is canonical
when every object in it lists its members by ascending keys, which makes the
list a map.

* `Json.Canonical`: the predicate, and `Json.member?` the look-up;
* `Json.put`: a member added to an object's members, or replaced;
* `ascending_put`, `canonicalMembers_put`: what it keeps;
* `Json.Object`: the members of a canonical object.
-/

namespace Telemetry

/-- An integer that fits into 64 bits, with or without a sign. -/
abbrev WideInt := { n : Int // -0x8000000000000000 ≤ n ∧ n < 0x10000000000000000 }

/-- A double that is neither an infinity nor a NaN. -/
abbrev FiniteDouble := { x : Binary64 // x.isFinite = true }

/-- A JSON value. -/
inductive Json where
  | null
  | bool (b : Bool)
  | int (n : WideInt)
  | float (x : FiniteDouble)
  | str (s : String)
  | arr (items : List Json)
  | obj (members : List (String × Json))
  deriving Inhabited

namespace Json

/-- Keys in strictly ascending order. -/
def Ascending (members : List (String × Json)) : Prop :=
  members.Pairwise fun a b => compare a.1 b.1 = .lt

mutual

/-- Every object in the value lists its members by ascending keys. -/
def Canonical : Json → Prop
  | .arr items => CanonicalItems items
  | .obj members => Ascending members ∧ CanonicalMembers members
  | _ => True

/-- Every item is canonical. -/
def CanonicalItems : List Json → Prop
  | [] => True
  | v :: rest => Canonical v ∧ CanonicalItems rest

/-- The value of every member is canonical. -/
def CanonicalMembers : List (String × Json) → Prop
  | [] => True
  | (_, v) :: rest => Canonical v ∧ CanonicalMembers rest

end

/-- The members with `v` under `key`, in place of what stood there. -/
def put (key : String) (v : Json) : List (String × Json) → List (String × Json)
  | [] => [(key, v)]
  | (k, w) :: rest =>
    match compare key k with
    | .lt => (key, v) :: (k, w) :: rest
    | .eq => (key, v) :: rest
    | .gt => (k, w) :: put key v rest

/-- The value of the member with the given key. -/
def member? (key : String) : Json → Option Json
  | .obj members => members.lookup key
  | _ => none

theorem mem_put {key : String} {v : Json} {members : List (String × Json)} {m : String × Json}
    (h : m ∈ put key v members) : m = (key, v) ∨ m ∈ members := by
  induction members with
  | nil => simpa [put] using h
  | cons p rest ih =>
    simp only [put] at h
    split at h
    · simpa using h
    · exact (List.mem_cons.1 h).imp_right (List.mem_cons_of_mem _)
    · rcases List.mem_cons.1 h with h | h
      · exact .inr (h ▸ List.mem_cons_self)
      · exact (ih h).imp_right (List.mem_cons_of_mem _)

/-- Adding a member keeps the keys ascending. -/
theorem ascending_put (key : String) (v : Json) {members : List (String × Json)}
    (h : Ascending members) : Ascending (put key v members) := by
  induction members with
  | nil => simp [put, Ascending]
  | cons p rest ih =>
    obtain ⟨k, w⟩ := p
    obtain ⟨hk, hr⟩ := List.pairwise_cons.1 h
    simp only [put]
    split
    · rename_i hlt
      refine List.pairwise_cons.2 ⟨fun q hq => ?_, h⟩
      rcases List.mem_cons.1 hq with rfl | hq
      · exact hlt
      · exact Std.TransCmp.lt_trans hlt (hk q hq)
    · rename_i heq
      exact List.pairwise_cons.2 ⟨fun q hq => Std.LawfulEqCmp.eq_of_compare heq ▸ hk q hq, hr⟩
    · rename_i hgt
      refine List.pairwise_cons.2 ⟨fun q hq => ?_, ih hr⟩
      rcases mem_put hq with rfl | hq
      · exact Std.OrientedCmp.gt_iff_lt.1 hgt
      · exact hk q hq

theorem canonicalMembers_iff {members : List (String × Json)} :
    CanonicalMembers members ↔ ∀ m ∈ members, Canonical m.2 := by
  induction members with
  | nil => simp [CanonicalMembers]
  | cons p rest ih => simp [CanonicalMembers, ih]

theorem canonicalItems_iff {items : List Json} :
    CanonicalItems items ↔ ∀ v ∈ items, Canonical v := by
  induction items with
  | nil => simp [CanonicalItems]
  | cons p rest ih => simp [CanonicalItems, ih]

/-- Adding a canonical member keeps the members canonical. -/
theorem canonicalMembers_put {key : String} {v : Json} {members : List (String × Json)}
    (hv : Canonical v) (h : CanonicalMembers members) : CanonicalMembers (put key v members) := by
  rw [canonicalMembers_iff] at h ⊢
  intro m hm
  rcases mem_put hm with rfl | hm
  · exact hv
  · exact h m hm

/-- The members of a canonical object: a map from keys to values. -/
abbrev Object := { members : List (String × Json) // (Json.obj members).Canonical }

namespace Object

/-- The object without members. -/
def empty : Object :=
  ⟨[], List.Pairwise.nil, trivial⟩

/-- An object with one more member, or with a member replaced. -/
def put (key : String) (v : { v : Json // v.Canonical }) (o : Object) : Object :=
  ⟨Json.put key v.1 o.1, ascending_put key v.1 o.2.1, canonicalMembers_put v.2 o.2.2⟩

/-- The value under a key. -/
def get? (o : Object) (key : String) : Option Json :=
  o.1.lookup key

end Object

end Json

end Telemetry
