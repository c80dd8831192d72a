import Mathlib.Data.List.Infix
import Telemetry.Proofs.Text.Pieces

/-!
# How often a text occurs

`occurrences` counts from left to right and passes over what overlaps. A text that is its own
beginning and end in no part of it cannot overlap with itself, so that it is counted at every
place where it stands.

* `places`: at how many places a text stands in another; `places_append_cons`: the places in
  two texts, if a character between them is not in the text that is looked for;
* `Unbordered`, `occurrences_eq_places`: for such a text the two counts are the same;
* `places_flatMap_eq_length_iff`: texts with a separator before each hold no other one if
  and only if none of them holds one.
-/

namespace Telemetry.Text

/-- At how many places a text stands in another, overlapping ones included. -/
def places (part cs : List Char) : Nat := cs.tails.countP (part.isPrefixOf ·)

/-- No proper part of the text is both its beginning and its end. -/
def Unbordered (part : List Char) : Prop := ∀ t ∈ part.tail.tails, t <+: part → t = []

instance (part : List Char) : Decidable (Unbordered part) :=
  inferInstanceAs (Decidable (∀ t ∈ part.tail.tails, t <+: part → t = []))

variable {part a b : List Char} {c : Char}

theorem places_nil (hpart : part ≠ []) : places part [] = 0 := by
  rw [places, List.tails, List.countP_singleton, if_neg]
  simpa [List.isPrefixOf_iff_prefix] using hpart

theorem places_cons (part : List Char) (c : Char) (a : List Char) :
    places part (c :: a) = places part a + if part <+: c :: a then 1 else 0 := by
  rw [places, List.tails_cons, List.countP_cons, places]
  simp only [List.isPrefixOf_iff_prefix]

theorem places_eq_zero (hpart : part ≠ []) : places part a = 0 ↔ ¬part <:+: a := by
  induction a with
  | nil => simp [places_nil hpart, hpart]
  | cons c a ih =>
    rw [places_cons, List.infix_cons_iff, not_or, ← ih]
    by_cases hp : part <+: c :: a <;> simp [hp]

/-- Where a text stands in a part of another, it stands in the other. -/
theorem places_append_le (hpart : part ≠ []) (a b : List Char) :
    places part a + places part b ≤ places part (a ++ b) := by
  induction a with
  | nil => simp [places_nil hpart]
  | cons c a ih =>
    rw [List.cons_append, places_cons, places_cons]
    by_cases hp : part <+: c :: a
    · have hlong : part <+: c :: (a ++ b) := hp.trans (List.prefix_append (c :: a) b)
      rw [if_pos hp, if_pos hlong]
      omega
    · rw [if_neg hp]
      omega

/-- A text that begins at no character of a text stands only behind it. -/
theorem places_append_of_mismatch (h : ∀ t, t ≠ [] → t <:+ a → ¬part <+: t ++ b) :
    places part (a ++ b) = places part b := by
  induction a with
  | nil => rfl
  | cons c a ih =>
    have hfirst : ¬part <+: c :: (a ++ b) := h (c :: a) (List.cons_ne_nil c a) List.suffix_rfl
    have hrest : places part (a ++ b) = places part b :=
      ih fun t ht hsuffix => h t ht (hsuffix.trans (List.suffix_cons c a))
    rw [List.cons_append, places_cons, if_neg hfirst, hrest, Nat.add_zero]

/-! ## Characters that part a text -/

/-- A text without some character does not stand across it. -/
theorem prefix_append_cons_iff (hc : c ∉ part) : part <+: a ++ c :: b ↔ part <+: a := by
  refine ⟨fun h => ?_, fun h => h.trans (List.prefix_append a _)⟩
  rcases List.prefix_or_prefix_of_prefix h (List.prefix_append a (c :: b)) with hle | ⟨t, ht⟩
  · exact hle
  · cases t with
    | nil =>
      rw [List.append_nil] at ht
      exact ht ▸ List.prefix_rfl
    | cons x t =>
      rw [← ht] at h hc
      have hx : x = c := (List.cons_prefix_cons.mp ((List.prefix_append_right_inj a).mp h)).1
      exact absurd (List.mem_append_right a (hx ▸ List.mem_cons_self)) hc

theorem places_cons_of_not_mem (hpart : part ≠ []) (hc : c ∉ part) (b : List Char) :
    places part (c :: b) = places part b := by
  have hfirst : ¬part <+: c :: b := fun h =>
    hpart (List.prefix_nil.mp ((prefix_append_cons_iff (a := []) hc).mp h))
  rw [places_cons, if_neg hfirst, Nat.add_zero]

theorem places_append_cons (hpart : part ≠ []) (hc : c ∉ part) (a b : List Char) :
    places part (a ++ c :: b) = places part a + places part b := by
  induction a with
  | nil => rw [List.nil_append, places_cons_of_not_mem hpart hc, places_nil hpart, Nat.zero_add]
  | cons x a ih =>
    have hfirst : part <+: x :: (a ++ c :: b) ↔ part <+: x :: a := prefix_append_cons_iff (a := x :: a) hc
    rw [List.cons_append, places_cons, places_cons, ih, if_congr hfirst rfl rfl]
    omega

/-! ## From left to right -/

theorem occurrences_of_cut?_eq_none (h : cut? part a = none) : occurrences part a = 0 := by
  rw [occurrences, pieces_of_cut?_eq_none h, List.length_singleton]

theorem occurrences_of_cut? (hpart : part ≠ []) {before after : List Char}
    (h : cut? part a = some (before, after)) :
    occurrences part a = occurrences part after + 1 := by
  have hlength : 0 < (pieces part after).length := List.length_pos_iff.mpr (pieces_ne_nil part after)
  rw [occurrences, pieces_of_cut? hpart h, List.length_cons, occurrences]
  omega

theorem occurrences_append_self (hpart : part ≠ []) (rest : List Char) :
    occurrences part (part ++ rest) = occurrences part rest + 1 := by
  have hcut : cut? part (part ++ rest) = some ([], rest) := by
    obtain ⟨c, cs, rfl⟩ := List.exists_cons_of_ne_nil hpart
    have hp : (c :: cs).isPrefixOf (c :: (cs ++ rest)) :=
      List.isPrefixOf_iff_prefix.mpr (List.prefix_append (c :: cs) rest)
    rw [List.cons_append, cut?, if_pos hp, ← List.cons_append, List.drop_left]
  exact occurrences_of_cut? hpart hcut

theorem occurrences_cons_of_mismatch (hpart : part ≠ []) (h : ¬part <+: c :: a) :
    occurrences part (c :: a) = occurrences part a := by
  have hp : ¬part.isPrefixOf (c :: a) := fun hp => h (List.isPrefixOf_iff_prefix.mp hp)
  have hcut : cut? part (c :: a) = (cut? part a).map fun found => (c :: found.1, found.2) := by
    rw [cut?, if_neg hp]
  cases ha : cut? part a with
  | none =>
    rw [ha, Option.map_none] at hcut
    rw [occurrences_of_cut?_eq_none ha, occurrences_of_cut?_eq_none hcut]
  | some found =>
    rw [ha, Option.map_some] at hcut
    rw [occurrences_of_cut? hpart ha, occurrences_of_cut? hpart hcut]

/-- A text without borders stands at no place within itself but the first. -/
theorem Unbordered.places_append (h : Unbordered part) (hpart : part ≠ []) (rest : List Char) :
    places part (part ++ rest) = places part rest + 1 := by
  obtain ⟨c, cs, rfl⟩ := List.exists_cons_of_ne_nil hpart
  have hinner : places (c :: cs) (cs ++ rest) = places (c :: cs) rest := by
    refine places_append_of_mismatch fun t ht hsuffix hprefix => ht ?_
    have hlength : t.length ≤ (c :: cs).length := hsuffix.length_le.trans (Nat.le_succ _)
    have hborder : t <+: c :: cs :=
      List.prefix_of_prefix_length_le (List.prefix_append t rest) hprefix hlength
    exact h t ((List.mem_tails _ _).mpr hsuffix) hborder
  rw [List.cons_append, places_cons, hinner, ← List.cons_append, if_pos (List.prefix_append ..)]

/-- By induction on the length, as the count goes on behind an occurrence. -/
theorem occurrences_eq_places (h : Unbordered part) (hpart : part ≠ []) (a : List Char) :
    occurrences part a = places part a := by
  induction hn : a.length using Nat.strongRecOn generalizing a with
  | ind n ih =>
    cases a with
    | nil =>
      have hcut : cut? part [] = none := by simp [cut?, hpart]
      rw [occurrences_of_cut?_eq_none hcut, places_nil hpart]
    | cons c a =>
      by_cases hp : part <+: c :: a
      · obtain ⟨rest, hrest⟩ := hp
        have hshort : rest.length < n := by
          rw [← hn, ← hrest, List.length_append]
          exact Nat.lt_add_of_pos_left (List.length_pos_iff.mpr hpart)
        rw [← hrest, occurrences_append_self hpart, h.places_append hpart, ih _ hshort rest rfl]
      · have hshort : a.length < n := hn ▸ Nat.lt_succ_self _
        rw [occurrences_cons_of_mismatch hpart hp, places_cons, if_neg hp, ih _ hshort a rfl,
          Nat.add_zero]

/-! ## Separators -/

/-- A text whose first character comes up in it only once has no borders. -/
theorem unbordered_cons {cs : List Char} (hc : c ∉ cs) : Unbordered (c :: cs) := by
  intro t ht hprefix
  cases t with
  | nil => rfl
  | cons x t =>
    have hx : x = c := (List.cons_prefix_cons.mp hprefix).1
    have hmem : x ∈ cs := ((List.mem_tails _ _).mp ht).subset List.mem_cons_self
    exact absurd (hx ▸ hmem) hc

/-- Besides the separators, there are the places within each of the texts. -/
theorem length_add_places_le (h : Unbordered part) (hpart : part ≠ []) {parts : List (List Char)}
    {p : List Char} (hp : p ∈ a :: parts) :
    parts.length + places part p ≤ places part (a ++ parts.flatMap fun p => part ++ p) := by
  induction parts generalizing a p with
  | nil =>
    rw [List.mem_singleton.mp hp, List.flatMap_nil, List.append_nil, List.length_nil, Nat.zero_add]
  | cons q parts ih =>
    have hsplit : places part a + places part (part ++ (q ++ parts.flatMap fun p => part ++ p)) ≤
        places part (a ++ (q :: parts).flatMap fun p => part ++ p) := by
      rw [List.flatMap_cons, List.append_assoc]
      exact places_append_le hpart a _
    rw [h.places_append hpart] at hsplit
    rw [List.length_cons]
    rcases List.mem_cons.mp hp with rfl | hp
    · have hrest := ih (a := q) List.mem_cons_self
      omega
    · have hrest := ih hp
      omega

theorem places_flatMap_eq_length_iff {cs : List Char} (hc : c ∉ cs) {parts : List (List Char)} :
    places (c :: cs) (a ++ parts.flatMap fun p => (c :: cs) ++ p) = parts.length ↔
      ∀ p ∈ a :: parts, ¬(c :: cs) <:+: p := by
  have hsep : c :: cs ≠ [] := List.cons_ne_nil c cs
  refine ⟨fun h p hp => ?_, fun h => ?_⟩
  · have hle := length_add_places_le (unbordered_cons hc) hsep hp
    rw [← places_eq_zero hsep]
    omega
  · obtain ⟨ha, hparts⟩ := List.forall_mem_cons.mp h
    rw [← occurrences_eq_places (unbordered_cons hc) hsep, occurrences, pieces_flatMap hc ha hparts,
      List.length_cons, Nat.add_sub_cancel]

end Telemetry.Text
