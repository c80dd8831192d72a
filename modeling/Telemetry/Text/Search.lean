/-!
# Searching text

Where one text occurs in another, and the pieces between its occurrences:

* `cut? sep cs`: the text before and after the first occurrence of `sep`;
* `pieces sep cs`: what stands between the occurrences of `sep`, from left to
  right, no two of them overlapping;
* `occurs`, `occurrences`: whether, and how many times, a text occurs.

`length_of_cut?` says that a cut loses the separator and nothing else, which
is why `pieces` ends.
-/

namespace Telemetry.Text

/-- The text before and after the first occurrence of `sep`. -/
def cut? (sep : List Char) : List Char → Option (List Char × List Char)
  | [] => if sep.isEmpty then some ([], []) else none
  | c :: cs =>
    if sep.isPrefixOf (c :: cs) then some ([], (c :: cs).drop sep.length)
    else (cut? sep cs).map fun (before, after) => (c :: before, after)

/-- A cut loses the separator and nothing else. -/
theorem length_of_cut? {sep cs before after : List Char}
    (h : cut? sep cs = some (before, after)) :
    before.length + sep.length + after.length = cs.length := by
  induction cs generalizing before after with
  | nil =>
    simp only [cut?] at h
    split at h
    · rename_i he
      simp only [Option.some.injEq, Prod.mk.injEq] at h
      simp [← h.1, ← h.2, List.isEmpty_iff.1 he]
    · simp at h
  | cons c cs ih =>
    simp only [cut?] at h
    split at h
    · rename_i hp
      simp only [Option.some.injEq, Prod.mk.injEq] at h
      have hl : sep <+: c :: cs := by simpa using hp
      have hl := hl.length_le
      simp only [← h.1, ← h.2, List.length_nil, List.length_drop]
      omega
    · obtain ⟨⟨b, a⟩, hb, he⟩ := Option.map_eq_some_iff.1 h
      simp only [Prod.mk.injEq] at he
      have := ih hb
      simp only [← he.1, ← he.2, List.length_cons]
      omega

/-- The text between the occurrences of `sep`, taken from left to right. A text
without occurrence is one piece, and so is any text when `sep` is empty. -/
def pieces (sep cs : List Char) : List (List Char) :=
  if sep.isEmpty then [cs] else
  match _h : cut? sep cs with
  | none => [cs]
  | some (before, after) => before :: pieces sep after
termination_by cs.length
decreasing_by
  have := length_of_cut? _h
  have : sep.length ≠ 0 := by simp_all
  omega

/-- Whether a text occurs in another; the empty text occurs everywhere. -/
def occurs (part cs : List Char) : Bool :=
  (cut? part cs).isSome

/-- How many times a text occurs, overlapping occurrences not counted. -/
def occurrences (part cs : List Char) : Nat :=
  (pieces part cs).length - 1

end Telemetry.Text
