import Mathlib.Data.List.Nodup
import Telemetry.Codec.Resource
import Telemetry.Proofs.Json.Draft
import Telemetry.Proofs.Number.Hexadecimal
import Telemetry.Proofs.Time.Stamp

/-!
# Laws of decoders

What is written of a value is read back from wherever it comes, be it a text, a value or a
part that was held back. Every way to build a decoder has a law that says so of what is
built, from the laws of its parts.

* `Decoder.Undoes decode encode a`: what `encode` writes of `a` is read by `decode` as `a`;
* `undoes_string` and so on: scalars, whatever their value, and finite doubles;
* `undoes_list`, `undoes_option`: lists and options of what is read back;
* `undoes_record`: records whose fields are read back, by `required_eq_ok` and
  `optional_eq_ok`;
* `undoes_name`, `undoes_content`: alternatives without and with content.
-/

namespace Telemetry

open Json

variable {α β : Type}

namespace Decoder

/-- What is written of a value is read as that value, wherever it comes from. -/
def Undoes (decode : Decoder α) (encode : α → Json) (a : α) : Prop :=
  ∀ src, decode src (.ofJson (encode a)) = .ok a

/-! ## Scalars -/

theorem undoes_string (s : String) : Undoes string .str s := fun _ => rfl

theorem undoes_bool (b : Bool) : Undoes bool .bool b := fun _ => rfl

theorem intBetween_int {low high : Int} {n : WideInt} (h : low ≤ n.1 ∧ n.1 ≤ high) (src : Source) :
    intBetween low high src (.int n) = .ok ⟨n.1, h⟩ :=
  dif_pos h

theorem undoes_int32 (n : Int32) : Undoes int32 ofInt32 n := fun src => by
  have hrange : (-0x80000000 : Int) ≤ n.toInt ∧ n.toInt ≤ 0x7FFFFFFF := by
    have := n.le_toInt
    have := n.toInt_lt
    omega
  rw [int32, ofInt32, Draft.ofJson, intBetween_int hrange]
  exact congrArg Except.ok n.ofInt_toInt

theorem undoes_int64 (n : Int64) : Undoes int64 ofInt64 n := fun src => by
  have hrange : (-0x8000000000000000 : Int) ≤ n.toInt ∧ n.toInt ≤ 0x7FFFFFFFFFFFFFFF := by
    have := n.le_toInt
    have := n.toInt_lt
    omega
  rw [int64, ofInt64, Draft.ofJson, intBetween_int hrange]
  exact congrArg Except.ok n.ofInt_toInt

theorem undoes_uint32 (n : UInt32) : Undoes uint32 ofUInt32 n := fun src => by
  have hrange : (0 : Int) ≤ n.toNat ∧ (n.toNat : Int) ≤ 0xFFFFFFFF := by
    have := n.toNat_lt
    omega
  rw [uint32, ofUInt32, Draft.ofJson, intBetween_int hrange]
  exact congrArg Except.ok UInt32.ofNat_toNat

theorem undoes_uint64 (n : UInt64) : Undoes uint64 ofUInt64 n := fun src => by
  have hrange : (0 : Int) ≤ n.toNat ∧ (n.toNat : Int) ≤ 0xFFFFFFFFFFFFFFFF := by
    have := n.toNat_lt
    omega
  rw [uint64, ofUInt64, Draft.ofJson, intBetween_int hrange]
  exact congrArg Except.ok UInt64.ofNat_toNat

theorem undoes_double {x : Binary64} (h : x.isFinite) : Undoes double ofDouble x := fun src => by
  rw [ofDouble, dif_pos h]
  rfl

theorem undoes_id {kind : IdKind} (i : Id kind) : Undoes id ofId i := fun src => by
  rw [ofId, Draft.ofJson, id, if_neg i.text_ne_empty, i.ofText_text]

theorem undoes_instant (t : Instant) : Undoes instant ofInstant t := fun src => by
  rw [ofInstant, Draft.ofJson, instant, t.ofStamp?_stamp]

theorem undoes_attributes (o : Attributes) : Undoes (object : Decoder Attributes) ofObject o :=
  fun src => by
    rw [ofObject, Draft.ofJson, object, Draft.toMembers?_ofObject]
    rfl

/-! ## Lists and options -/

theorem ofItems_map (encode : α → Json) (l : List α) :
    Draft.ofItems (l.map encode) = l.map fun a => Draft.ofJson (encode a) := by
  induction l with
  | nil => rfl
  | cons a l ih => rw [List.map_cons, Draft.ofItems, ih, List.map_cons]

theorem items_map {decode : Decoder α} {encode : α → Json} {l : List α}
    (h : ∀ a ∈ l, Undoes decode encode a) (src : Source) :
    items decode src (l.map fun a => Draft.ofJson (encode a)) = .ok l := by
  induction l with
  | nil => rfl
  | cons a l ih =>
    obtain ⟨ha, hl⟩ := List.forall_mem_cons.mp h
    rw [List.map_cons, items, ha src]
    simp only [ih hl]
    rfl

theorem undoes_list {decode : Decoder α} {encode : α → Json} {l : List α}
    (h : ∀ a ∈ l, Undoes decode encode a) : Undoes (list decode) (ofList encode) l := fun src => by
  rw [ofList, Draft.ofJson, list, ofItems_map, items_map h]
  rfl

/-- A value that may be absent is read back if no value is written as null. -/
theorem undoes_option {decode : Decoder α} {encode : α → Json} {o : Option α}
    (h : ∀ a ∈ o, Undoes decode encode a ∧ encode a ≠ .null) :
    Undoes (option decode) (ofOption encode) o := fun src => by
  cases o with
  | none => rfl
  | some a =>
    obtain ⟨ha, hne⟩ := h a rfl
    have hread :
        option decode src (.ofJson (encode a)) = (decode src (.ofJson (encode a))).map some := by
      cases hj : encode a with
      | null => exact absurd hj hne
      | _ => rfl
    rw [ofOption, hread, ha src]
    rfl

theorem ofInstant_ne_null (t : Instant) : ofInstant t ≠ .null := nofun

theorem undoes_option_instant (o : Option Instant) :
    Undoes (option instant) (ofOption ofInstant) o :=
  undoes_option fun t _ => ⟨undoes_instant t, ofInstant_ne_null t⟩

theorem ofDouble_ne_null {x : Binary64} (h : x.isFinite) : ofDouble x ≠ .null := by
  rw [ofDouble, dif_pos h]
  nofun

end Decoder

/-! ## Records -/

namespace Reading

theorem map_eq_ok {f : α → β} {x : Reading α} {a : α} (hx : x = .ok a) : f <$> x = .ok (f a) := by
  rw [hx]
  rfl

/-- The last part of a reading comes first here, so that the parts of a longer one stand in a
row. -/
theorem seq_eq_ok {f : Reading (α → β)} {x : Reading α} {g : α → β} {a : α} (hx : x = .ok a)
    (hf : f = .ok g) : f <*> x = .ok (g a) := by
  rw [hf, hx]
  rfl

end Reading

namespace Fields

variable {members : List (String × Json)} {name : String} {v : Json}

theorem exists_findMember? (h : members.lookup name = some v) (pos : Nat) :
    ∃ i, findMember? name pos (Draft.ofMembers members) = some (i, .ofJson v) := by
  induction members generalizing pos with
  | nil => cases h
  | cons m rest ih =>
    obtain ⟨key, w⟩ := m
    rw [Draft.ofMembers, findMember?]
    by_cases e : key = name
    · subst e
      rw [List.lookup_cons_self] at h
      rw [if_pos rfl, Option.some.inj h]
      exact ⟨pos, rfl⟩
    · have hne : (name == key) = false := beq_eq_false_iff_ne.mpr (Ne.symm e)
      rw [List.lookup_cons, hne] at h
      rw [if_neg fun he => e (Option.some.inj he)]
      exact ih h (pos + 1)

variable {decode : Decoder α} {encode : α → Json} {a : α} {src : Source}

/-- A field that has to be there is read back from the member that it was written as. -/
theorem required_eq_ok (h : decode.Undoes encode a)
    (hfind : members.lookup name = some (encode a)) :
    (ofMembers src (Draft.ofMembers members)).required name decode = .ok a := by
  obtain ⟨i, hi⟩ := exists_findMember? hfind 0
  simp only [required, ofMembers, hi, read, h src]
  rfl

/-- A field with a default is read back from the member that it was written as. -/
theorem optional_eq_ok {default : α} (h : decode.Undoes encode a)
    (hfind : members.lookup name = some (encode a)) :
    (ofMembers src (Draft.ofMembers members)).optional name decode default = .ok a := by
  obtain ⟨i, hi⟩ := exists_findMember? hfind 0
  simp only [optional, ofMembers, hi, read, h src]
  rfl

/-- Members with different keys, none of which has been seen, are in order. -/
theorem memberFault_ofMembers (names : List String) {seen : List String}
    (hnodup : (members.map (·.1)).Nodup) (hseen : ∀ m ∈ members, m.1 ∉ seen) (pos : Nat) :
    memberFault names .closed seen pos (Draft.ofMembers members) = none := by
  induction members generalizing seen pos with
  | nil => rfl
  | cons m rest ih =>
    obtain ⟨key, w⟩ := m
    obtain ⟨hkey, hrest⟩ := List.nodup_cons.mp hnodup
    obtain ⟨hfresh, hseen⟩ := List.forall_mem_cons.mp hseen
    rw [Draft.ofMembers, memberFault, if_neg hfresh, if_pos (Draft.skips_ofJson w)]
    have hother : ∀ m ∈ rest, m.1 ∉ key :: seen := fun m hm h => by
      rcases List.mem_cons.mp h with h | h
      · exact hkey (List.mem_map.mpr ⟨m, hm, h⟩)
      · exact hseen m hm h
    split
    · exact ih hrest hother _
    · exact ih hrest hseen _

theorem nodup_keys (h : Ascending members) : (members.map (·.1)).Nodup := by
  refine List.pairwise_map.mpr (h.imp fun hlt e => ?_)
  rw [e, Std.ReflOrd.compare_self] at hlt
  cases hlt

end Fields

namespace Decoder

/-- A record is read from members with different keys if its fields are. -/
theorem record_ofMembers {names : List String} {build : Fields → Reading α} {a : α}
    {members : List (String × Json)} {src : Source} (hascending : Ascending members)
    (hbuild : build (.ofMembers src (Draft.ofMembers members)) = .ok a) :
    record names build src (.obj (Draft.ofMembers members) .closed) = .ok a := by
  have hfault : Fields.memberFault names .closed [] 0 (Draft.ofMembers members) = none :=
    Fields.memberFault_ofMembers names (Fields.nodup_keys hascending)
      (fun _ _ => List.not_mem_nil) 0
  rw [record, hbuild, hfault]
  rfl

/-- A record is read back if its fields are. -/
theorem undoes_record {names : List String} {build : Fields → Reading α} {encode : α → Json}
    {a : α} {members : List (String × Json)} (hencode : encode a = .obj members)
    (hcanonical : (encode a).Canonical)
    (hbuild : ∀ src, build (.ofMembers src (Draft.ofMembers members)) = .ok a) :
    Undoes (record names build) encode a := fun src => by
  rw [hencode] at hcanonical
  rw [hencode, Draft.ofJson]
  exact record_ofMembers hcanonical.1 (hbuild src)

/-! ## Alternatives -/

/-- An alternative without content is read back from its name. -/
theorem undoes_name {name : α → String} {all : List α} {a : α} (ha : a ∈ all)
    (hnodup : (all.map name).Nodup) :
    Undoes (variants (all.map fun a => .unit (name a) a)) (fun a => .str (name a)) a := by
  have hfind : findVariant (all.map fun a => .unit (name a) a) (name a) =
      .ok (.unit (name a) a) := by
    have hsome : (all.find? fun b => name b == name a).isSome :=
      List.find?_isSome.mpr ⟨a, ha, beq_self_eq_true _⟩
    obtain ⟨b, hb⟩ := Option.isSome_iff_exists.mp hsome
    have hname : (name b == name a) = true := List.find?_some (p := fun b => name b == name a) hb
    have hba : b = a :=
      List.inj_on_of_nodup_map hnodup (List.mem_of_find?_eq_some hb) ha (beq_iff_eq.mp hname)
    have hlook : (all.map fun a => Variant.unit (name a) a).find? (·.name == name a) =
        some (.unit (name a) a) := by
      rw [List.find?_map]
      exact (congrArg (Option.map _) hb).trans (by rw [hba, Option.map_some])
    rw [findVariant, hlook]
  intro src
  cases src with
  | text => exact congrArg (Except.bind · (·.bare)) hfind
  | _ => exact congrArg (Except.bind · (·.bare)) hfind

/-- An alternative with content is read back from an object with its name as the only key. -/
theorem undoes_content {alternatives : List (Variant α)} {key : String} {decode : Decoder α}
    {bare : Except DecodeError α} {encode : α → Json} {a : α} {content : Json}
    (hfind : findVariant alternatives key = .ok ⟨key, bare, decode⟩)
    (hencode : encode a = .obj [(key, content)]) (h : ∀ src, decode src (.ofJson content) = .ok a) :
    Undoes (variants alternatives) encode a := by
  intro src
  rw [hencode, Draft.ofJson, Draft.ofMembers, Draft.ofMembers]
  cases src with
  | text =>
    simp only [variants, variantsOfText, hfind, h, bind, Except.bind]
    rfl
  | _ =>
    simp only [variants, variantsOfValue, hfind, h, Except.bind]

end Decoder

end Telemetry
