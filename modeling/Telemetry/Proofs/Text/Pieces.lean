import Mathlib.Data.List.DropRight
import Mathlib.Data.List.Infix
import Telemetry.Text.Blank
import Telemetry.Text.Search

/-!
# Pieces of text

What `cut?`, `pieces` and `trim` give back of texts that have been put together.

* `cut?_append`, `pieces_flatMap`: texts in which a separator does not occur are what
  stands between the separators, if the first character of the separator comes up in it
  only once, so that no occurrence can begin within another;
* `eq_append_of_cut?`, `pieces_eq_cons_iff`: a text is cut into such texts, and in no other
  way;
* `not_infix_append`: where a text cannot occur; `occurs_iff`: where it does;
* `trim_eq_self`, `trim_append`: texts without white space at their ends;
* `trimStart_append`, `trimEnd_append`, `trimStart_trimEnd`: the ends of a text are trimmed
  one by one.
-/

namespace Telemetry.Text

variable {c : Char} {cs a rest : List Char}

/-! ## Separators -/

/-- Before an occurrence of a separator there is none that reaches into it. -/
theorem not_prefix_append (hc : c ∉ cs) (x : Char) (ha : ¬(c :: cs) <:+: x :: a) :
    ¬(c :: cs) <+: (x :: a) ++ ((c :: cs) ++ rest) := by
  intro h
  rcases List.prefix_or_prefix_of_prefix h (List.prefix_append (x :: a) _) with hle | hle
  · exact ha hle.isInfix
  · -- the occurrence ends in the separator, whose first character would come up again
    obtain ⟨t, ht⟩ := hle
    cases t with
    | nil =>
      rw [List.append_nil] at ht
      exact ha (ht ▸ List.infix_rfl)
    | cons y t =>
      obtain ⟨u, hu⟩ := h
      have hu : (x :: a) ++ (y :: t ++ u) = (x :: a) ++ ((c :: cs) ++ rest) := by
        rw [← List.append_assoc, ht, hu]
      have hy : y = c := (List.cons.inj (List.append_cancel_left hu)).1
      have htail : a ++ y :: t = cs := (List.cons.inj ht).2
      exact hc (htail ▸ hy ▸ List.mem_append_right a List.mem_cons_self)

/-- A cut is made at the first occurrence. -/
theorem cut?_append (hc : c ∉ cs) (ha : ¬(c :: cs) <:+: a) :
    cut? (c :: cs) (a ++ ((c :: cs) ++ rest)) = some (a, rest) := by
  induction a with
  | nil =>
    have hp : (c :: cs).isPrefixOf (c :: (cs ++ rest)) :=
      List.isPrefixOf_iff_prefix.mpr (List.prefix_append (c :: cs) rest)
    rw [List.nil_append, List.cons_append, cut?, if_pos hp, ← List.cons_append, List.drop_left]
  | cons x a ih =>
    have hp : ¬(c :: cs).isPrefixOf (x :: (a ++ ((c :: cs) ++ rest))) := fun h =>
      not_prefix_append hc x ha (List.isPrefixOf_iff_prefix.mp h)
    rw [List.cons_append, cut?, if_neg hp, ih fun h => ha (h.trans (List.suffix_cons x a).isInfix)]
    rfl

theorem cut?_eq_none (ha : ¬(c :: cs) <:+: a) : cut? (c :: cs) a = none := by
  induction a with
  | nil => rfl
  | cons x a ih =>
    have hp : ¬(c :: cs).isPrefixOf (x :: a) := fun h =>
      ha (List.isPrefixOf_iff_prefix.mp h).isInfix
    rw [cut?, if_neg hp, ih fun h => ha (h.trans (List.suffix_cons x a).isInfix)]
    rfl

theorem pieces_of_cut?_eq_none {sep : List Char} (h : cut? sep cs = none) : pieces sep cs = [cs] := by
  unfold pieces
  split
  · rfl
  · split
    · rfl
    · rename_i hcut
      rw [h] at hcut
      cases hcut

theorem pieces_of_cut? {sep before after : List Char} (hsep : sep ≠ [])
    (h : cut? sep cs = some (before, after)) : pieces sep cs = before :: pieces sep after := by
  rw [pieces, if_neg fun he => hsep (List.isEmpty_iff.mp he)]
  split
  · rename_i hcut
    rw [h] at hcut
    cases hcut
  · rename_i hcut
    rw [h] at hcut
    obtain ⟨rfl, rfl⟩ := Prod.mk.inj (Option.some.inj hcut)
    rfl

/-- Texts with a separator before each are its pieces, if it does not occur in them. -/
theorem pieces_flatMap (hc : c ∉ cs) (ha : ¬(c :: cs) <:+: a) {parts : List (List Char)}
    (hparts : ∀ p ∈ parts, ¬(c :: cs) <:+: p) :
    pieces (c :: cs) (a ++ parts.flatMap fun p => (c :: cs) ++ p) = a :: parts := by
  induction parts generalizing a with
  | nil => rw [List.flatMap_nil, List.append_nil, pieces_of_cut?_eq_none (cut?_eq_none ha)]
  | cons p parts ih =>
    obtain ⟨hp, hparts⟩ := List.forall_mem_cons.mp hparts
    rw [List.flatMap_cons, List.append_assoc,
      pieces_of_cut? (List.cons_ne_nil c cs) (cut?_append hc ha), ih hp hparts]

/-- A text occurs in another if it is part of it. -/
theorem occurs_iff {part : List Char} : occurs part cs ↔ part <:+: cs := by
  rw [occurs]
  induction cs with
  | nil =>
    rw [cut?, List.infix_nil]
    cases part <;> simp
  | cons x cs ih =>
    rw [cut?, List.infix_cons_iff]
    split
    · next hp => exact iff_of_true rfl (.inl (List.isPrefixOf_iff_prefix.mp hp))
    · next hp =>
      rw [Option.isSome_map, ih]
      exact (or_iff_right fun h => hp (List.isPrefixOf_iff_prefix.mpr h)).symm

/-! ## The way a text is cut -/

/-- A text is cut in front of the first occurrence, and behind it. -/
theorem eq_append_of_cut? {before : List Char} (h : cut? (c :: cs) a = some (before, rest)) :
    a = before ++ ((c :: cs) ++ rest) ∧ ¬(c :: cs) <:+: before := by
  induction a generalizing before with
  | nil => cases h
  | cons x a ih =>
    rw [cut?] at h
    split at h
    · next hp =>
      obtain ⟨rfl, rfl⟩ := Prod.mk.inj (Option.some.inj h)
      obtain ⟨t, ht⟩ := List.isPrefixOf_iff_prefix.mp hp
      refine ⟨?_, fun hi => List.cons_ne_nil c cs (List.infix_nil.mp hi)⟩
      rw [← ht, List.drop_left, List.nil_append]
    · next hp =>
      obtain ⟨⟨before', rest'⟩, hcut, hfound⟩ := Option.map_eq_some_iff.mp h
      obtain ⟨rfl, rfl⟩ := Prod.mk.inj hfound
      obtain ⟨rfl, hbefore⟩ := ih hcut
      refine ⟨rfl, fun hi => ?_⟩
      rcases List.infix_cons_iff.mp hi with hfirst | hi
      · exact hp (List.isPrefixOf_iff_prefix.mpr (hfirst.trans (List.prefix_append (x :: before') _)))
      · exact hbefore hi

theorem pieces_ne_nil (sep cs : List Char) : pieces sep cs ≠ [] := by
  rw [pieces]
  split
  · exact List.cons_ne_nil _ _
  · split <;> exact List.cons_ne_nil _ _

/-- The pieces of a text are the only texts without the separator that it is put together of. -/
theorem pieces_eq_cons_iff (hc : c ∉ cs) {before : List Char} {parts : List (List Char)} :
    pieces (c :: cs) a = before :: parts ↔
      a = before ++ (parts.flatMap fun p => (c :: cs) ++ p) ∧
        ∀ p ∈ before :: parts, ¬(c :: cs) <:+: p := by
  refine ⟨fun h => ?_, fun ⟨ha, hparts⟩ => ?_⟩
  · induction parts generalizing a before with
    | nil =>
      cases hcut : cut? (c :: cs) a with
      | none =>
        rw [pieces_of_cut?_eq_none hcut] at h
        have ha : ¬(c :: cs) <:+: a := by
          rw [← occurs_iff, occurs, hcut]
          exact Bool.false_ne_true
        obtain ⟨rfl, -⟩ := List.cons.inj h
        exact ⟨(List.append_nil a).symm, List.forall_mem_singleton.mpr ha⟩
      | some found =>
        rw [pieces_of_cut? (List.cons_ne_nil c cs) hcut] at h
        exact absurd (List.cons.inj h).2 (pieces_ne_nil (c :: cs) found.2)
    | cons p parts ih =>
      cases hcut : cut? (c :: cs) a with
      | none =>
        rw [pieces_of_cut?_eq_none hcut] at h
        cases h
      | some found =>
        rw [pieces_of_cut? (List.cons_ne_nil c cs) hcut] at h
        obtain ⟨rfl, hrest⟩ := List.cons.inj h
        obtain ⟨hafter, hparts⟩ := ih hrest
        obtain ⟨ha, hbefore⟩ := eq_append_of_cut? hcut
        refine ⟨?_, List.forall_mem_cons.mpr ⟨hbefore, hparts⟩⟩
        rw [List.flatMap_cons, List.append_assoc, ← hafter]
        exact ha
  · obtain ⟨hbefore, hparts⟩ := List.forall_mem_cons.mp hparts
    rw [ha]
    exact pieces_flatMap hc hbefore hparts

/-! ## Where a text cannot occur -/

/-- A text does not occur across the end of one that its first character is not in. -/
theorem not_infix_append {pre : List Char} (hpre : c ∉ pre) (ha : ¬(c :: cs) <:+: a) :
    ¬(c :: cs) <:+: pre ++ a := by
  induction pre with
  | nil => exact ha
  | cons x pre ih =>
    obtain ⟨hx, hpre⟩ := List.ne_and_not_mem_of_not_mem_cons hpre
    rw [List.cons_append, List.infix_cons_iff, not_or]
    refine ⟨fun h => ?_, ih hpre⟩
    obtain ⟨t, ht⟩ := h
    exact hx (List.cons.inj ht).1

theorem not_infix_of_not_mem (h : c ∉ a) : ¬(c :: cs) <:+: a := fun hi =>
  h (hi.subset List.mem_cons_self)

/-! ## White space -/

theorem trimStart_eq_self (h : ∀ c ∈ a.head?, ¬isBlank c) : trimStart a = a := by
  cases a with
  | nil => rfl
  | cons x a => exact List.dropWhile_cons_of_neg (h x rfl)

theorem trimEnd_eq_self (h : ∀ c ∈ a.getLast?, ¬isBlank c) : trimEnd a = a := by
  have hrev : trimStart a.reverse = a.reverse :=
    trimStart_eq_self fun c hc => h c (List.head?_reverse ▸ hc)
  rw [trimEnd, ← trimStart, hrev, List.reverse_reverse]

/-- A text without white space at its ends. -/
theorem trim_eq_self (hhead : ∀ c ∈ a.head?, ¬isBlank c) (hlast : ∀ c ∈ a.getLast?, ¬isBlank c) :
    trim a = a := by
  rw [trim, trimStart_eq_self hhead, trimEnd_eq_self hlast]

/-- White space in front of a text is trimmed. -/
theorem trim_append {pre : List Char} (hpre : pre.all isBlank) : trim (pre ++ a) = trim a := by
  rw [trim, trim, trimStart, List.dropWhile_append_of_pos (List.all_eq_true.mp hpre), trimStart]

theorem trimStart_append (h : trimStart a ≠ []) : trimStart (a ++ rest) = trimStart a ++ rest := by
  have hempty : ¬(a.dropWhile isBlank).isEmpty := fun he => h (List.isEmpty_iff.mp he)
  rw [trimStart, List.dropWhile_append, if_neg hempty, trimStart]

theorem trimEnd_append (h : trimEnd rest ≠ []) : trimEnd (a ++ rest) = a ++ trimEnd rest := by
  have hrev : trimStart rest.reverse ≠ [] := fun he => h (congrArg List.reverse he)
  rw [trimEnd, ← trimStart, List.reverse_append, trimStart_append hrev, List.reverse_append,
    List.reverse_reverse, trimEnd, trimStart]

theorem trimEnd_cons_of_eq_nil (c : Char) (h : trimEnd cs = []) :
    trimEnd (c :: cs) = if isBlank c then [] else [c] := by
  have hrev : cs.reverse.dropWhile isBlank = [] := List.reverse_eq_nil_iff.mp h
  rw [trimEnd, List.reverse_cons, List.dropWhile_append, hrev, List.dropWhile_cons]
  cases isBlank c <;> rfl

theorem trimEnd_cons_of_ne_nil (c : Char) (h : trimEnd cs ≠ []) :
    trimEnd (c :: cs) = c :: trimEnd cs :=
  trimEnd_append (a := [c]) h

/-- The two ends of a text are trimmed apart. -/
theorem trimStart_trimEnd (cs : List Char) : trimStart (trimEnd cs) = trimEnd (trimStart cs) := by
  induction cs with
  | nil => rfl
  | cons c cs ih =>
    by_cases hc : isBlank c
    · have hdrop : ∀ l : List Char, trimStart (c :: l) = trimStart l := fun l =>
        List.dropWhile_cons_of_pos hc
      rw [hdrop, ← ih]
      by_cases h : trimEnd cs = []
      · rw [trimEnd_cons_of_eq_nil c h, if_pos hc, h]
      · rw [trimEnd_cons_of_ne_nil c h, hdrop]
    · have hkeep : ∀ l : List Char, trimStart (c :: l) = c :: l := fun l =>
        List.dropWhile_cons_of_neg hc
      rw [hkeep]
      by_cases h : trimEnd cs = []
      · rw [trimEnd_cons_of_eq_nil c h, if_neg hc, hkeep]
      · rw [trimEnd_cons_of_ne_nil c h, hkeep]

@[simp] theorem trim_trimStart (cs : List Char) : trim (trimStart cs) = trim cs := by
  rw [trim, trim, trimStart, trimStart, List.dropWhile_idempotent]

@[simp] theorem trim_trimEnd (cs : List Char) : trim (trimEnd cs) = trim cs := by
  rw [trim, trimStart_trimEnd, trim]
  exact List.rdropWhile_idempotent isBlank (trimStart cs)

theorem trimStart_ne_nil (h : trim cs ≠ []) : trimStart cs ≠ [] := fun he =>
  h (by rw [trim, he]; rfl)

theorem trimEnd_ne_nil (h : trim cs ≠ []) : trimEnd cs ≠ [] := fun he =>
  h (by rw [trim, ← trimStart_trimEnd, he]; rfl)

theorem trimStart_isSuffix (cs : List Char) : trimStart cs <:+ cs :=
  List.dropWhile_suffix _

theorem trimEnd_isPrefix (cs : List Char) : trimEnd cs <+: cs :=
  List.rdropWhile_prefix isBlank cs

theorem trim_subset (cs : List Char) : trim cs ⊆ cs := fun _ h =>
  (trimStart_isSuffix cs).subset ((trimEnd_isPrefix (trimStart cs)).subset h)

end Telemetry.Text
