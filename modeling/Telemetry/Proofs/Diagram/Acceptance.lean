import Telemetry.Proofs.Diagram.Grammar

/-!
# What the built-in renderer accepts

A description is drawn if and only if its first line that is not blank is a header and every
later one spells a chain of calls well. Otherwise the renderer names the first line that does
not.

* `contentLines`: the lines that count, each with its number in the text;
* `Headed`, `Spelled`: what is asked of the first one, and of each later one;
* `chainsOfLines_eq_ok_iff`, `chainsOfLines_eq_error_iff`: what is read of the later lines, or
  which of them is at fault;
* `lines_accepts`: what the renderer draws, and what it refuses.
-/

namespace Telemetry

open Text

/-- The lines of a text that are not blank, without the white space at their ends, each with
its number in the text. -/
def contentLines (text : List Char) : List (Nat × List Char) :=
  (((text.splitOn '\n').zipIdx 1).map fun l => (l.2, trim l.1)).filter fun l => l.2 ≠ []

/-- A header is a word, whatever follows it after a blank. -/
def Headed (line : List Char) : Prop :=
  line = Renderer.headerWord ∨ Renderer.headerWord ++ [' '] <+: line

/-- Whether the first line of a text that counts is a header. -/
def HasHeader (text : List Char) : Prop :=
  ∃ header ∈ (contentLines text).head?, Headed header.2

/-- Whether a line spells a chain of calls well. -/
def Spelled (line : List Char) : Prop := ∃ s : SpelledChain, s.WellSpelled ∧ s.line = line

/-! ## The lines of a text -/

theorem intercalate_cons {α : Type} (sep a : List α) (parts : List (List α)) :
    List.intercalate sep (a :: parts) = a ++ parts.flatMap fun p => sep ++ p := by
  induction parts generalizing a with
  | nil => rw [List.intercalate_singleton, List.flatMap_nil, List.append_nil]
  | cons p parts ih =>
    rw [List.intercalate_cons_cons, ih, List.flatMap_cons, List.append_assoc, List.append_assoc]

theorem newline_not_mem_pieces {text piece : List Char} (h : piece ∈ pieces ['\n'] text) :
    '\n' ∉ piece := by
  obtain ⟨first, rest, hpieces⟩ := List.exists_cons_of_ne_nil (pieces_ne_nil ['\n'] text)
  intro hmem
  obtain ⟨before, after, rfl⟩ := List.append_of_mem hmem
  exact ((pieces_eq_cons_iff List.not_mem_nil).mp hpieces).2 _ (hpieces ▸ h)
    ⟨before, after, by simp⟩

theorem pieces_newline (text : List Char) : pieces ['\n'] text = text.splitOn '\n' := by
  obtain ⟨first, rest, hpieces⟩ := List.exists_cons_of_ne_nil (pieces_ne_nil ['\n'] text)
  obtain ⟨htext, -⟩ := (pieces_eq_cons_iff List.not_mem_nil).mp hpieces
  have hlines : ∀ l ∈ first :: rest, '\n' ∉ l := fun l hl => newline_not_mem_pieces (hpieces ▸ hl)
  have hsplit := List.splitOn_intercalate '\n' hlines (List.cons_ne_nil first rest)
  rw [intercalate_cons, ← htext] at hsplit
  rw [hpieces, hsplit]

namespace Renderer

theorem numberedLines_eq (text : List Char) : numberedLines text = contentLines text := by
  rw [numberedLines, contentLines, pieces_newline, ← List.filterMap_eq_filter, List.filterMap_map]
  refine congrArg (List.filterMap · _) (funext fun l => ?_)
  by_cases h : trim l.1 = [] <;> simp [Option.guard, h]

theorem newline_not_mem_line {text : List Char} {l : Nat × List Char} (h : l ∈ contentLines text) :
    '\n' ∉ l.2 := by
  obtain ⟨numbered, hnumbered, rfl⟩ := List.mem_map.mp (List.mem_filter.mp h).1
  rw [← pieces_newline] at hnumbered
  have hpiece : numbered.1 ∈ pieces ['\n'] text := List.fst_mem_of_mem_zipIdx hnumbered
  exact fun hmem => newline_not_mem_pieces hpiece (trim_subset _ hmem)

theorem isHeader_iff (line : List Char) : isHeader line ↔ Headed line := by
  rw [isHeader, Headed, Bool.or_eq_true, beq_iff_eq, List.isPrefixOf_iff_prefix]

/-! ## Chains -/

theorem spelled_iff {line : List Char} : Spelled line ↔ ∃ c, Chain.ofLine line = .ok c := by
  constructor
  · rintro ⟨s, hs, rfl⟩
    exact ⟨s.read, Chain.ofLine_eq_ok_iff.mpr ⟨s, hs, rfl, rfl⟩⟩
  · rintro ⟨c, hc⟩
    obtain ⟨s, hs, hline, -⟩ := Chain.ofLine_eq_ok_iff.mp hc
    exact ⟨s, hs, hline⟩

theorem not_spelled_iff {line : List Char} :
    ¬Spelled line ↔ ∃ fault, Chain.ofLine line = .error fault := by
  rw [spelled_iff]
  cases Chain.ofLine line <;> simp

/-- What is read of a line, with the number of the line if it is at fault. -/
def chainOfLine (l : Nat × List Char) : Except RenderError Chain :=
  (Chain.ofLine l.2).mapError (.malformedEdge l.1)

theorem chainOfLine_eq_ok_iff {l : Nat × List Char} {c : Chain} :
    chainOfLine l = .ok c ↔ Chain.ofLine l.2 = .ok c := by
  rw [chainOfLine]
  cases Chain.ofLine l.2 <;> simp [Except.mapError]

theorem chainOfLine_eq_error_iff {l : Nat × List Char} {e : RenderError} :
    chainOfLine l = .error e ↔
      ∃ fault, Chain.ofLine l.2 = .error fault ∧ .malformedEdge l.1 fault = e := by
  rw [chainOfLine]
  cases Chain.ofLine l.2 <;> simp [Except.mapError]

theorem chainsOfLines_eq_mapM (lines : List (Nat × List Char)) :
    chainsOfLines lines = lines.mapM chainOfLine := by
  induction lines with
  | nil => rfl
  | cons l lines ih =>
    rw [chainsOfLines, mapM_cons, ih, chainOfLine]
    cases Chain.ofLine l.2 <;> rfl

/-- The lines are read as chains if all of them are well spelled. -/
theorem chainsOfLines_eq_ok_iff {lines : List (Nat × List Char)} {chains : List Chain} :
    chainsOfLines lines = .ok chains ↔
      ∃ ss : List SpelledChain, (∀ s ∈ ss, s.WellSpelled) ∧
        ss.map SpelledChain.line = lines.map (·.2) ∧ ss.map SpelledChain.read = chains := by
  rw [chainsOfLines_eq_mapM, mapM_eq_ok_iff]
  simp only [chainOfLine_eq_ok_iff, Chain.ofLine_eq_ok_iff]
  exact List.forall₂_map_left_iff.symm.trans forall₂_exists_iff

/-- The first line that is not well spelled is at fault. -/
theorem chainsOfLines_eq_error_iff {lines : List (Nat × List Char)} {e : RenderError} :
    chainsOfLines lines = .error e ↔
      ∃ before l after fault, lines = before ++ l :: after ∧ (∀ l ∈ before, Spelled l.2) ∧
        Chain.ofLine l.2 = .error fault ∧ .malformedEdge l.1 fault = e := by
  rw [chainsOfLines_eq_mapM, mapM_eq_error_iff]
  simp only [chainOfLine_eq_ok_iff, chainOfLine_eq_error_iff, ← spelled_iff]
  simp only [exists_and_left]

theorem exists_chainsOfLines_iff {lines : List (Nat × List Char)} :
    (∃ chains, chainsOfLines lines = .ok chains) ↔ ∀ l ∈ lines, Spelled l.2 := by
  constructor
  · rintro ⟨chains, hchains⟩ l hl
    obtain ⟨ss, hss, hlines, -⟩ := chainsOfLines_eq_ok_iff.mp hchains
    have hline : l.2 ∈ ss.map SpelledChain.line := hlines ▸ List.mem_map_of_mem hl
    obtain ⟨s, hs, hline⟩ := List.mem_map.mp hline
    exact ⟨s, hss s hs, hline⟩
  · intro hspelled
    cases hread : chainsOfLines lines with
    | ok chains => exact ⟨chains, rfl⟩
    | error e =>
      obtain ⟨before, l, after, fault, rfl, -, hfault, -⟩ := chainsOfLines_eq_error_iff.mp hread
      exact absurd (hspelled l (by simp)) (not_spelled_iff.mpr ⟨fault, hfault⟩)

/-! ## The description -/

theorem chainsOfText_of_hasHeader {text : List Char} (h : HasHeader text) :
    chainsOfText text = chainsOfLines (contentLines text).tail := by
  obtain ⟨⟨n, header⟩, hfirst, hheader⟩ := h
  obtain ⟨later, hcontent⟩ := List.head?_eq_some_iff.mp hfirst
  rw [chainsOfText, numberedLines_eq, hcontent]
  exact if_pos ((isHeader_iff header).mpr hheader)

theorem chainsOfText_of_not_hasHeader {text : List Char} (h : ¬HasHeader text) :
    chainsOfText text = .error .missingHeader := by
  rw [chainsOfText, numberedLines_eq]
  split
  · rfl
  · next n header later hcontent =>
    refine if_neg fun hheader => h ⟨(n, header), ?_, (isHeader_iff header).mp hheader⟩
    rw [hcontent]
    rfl

theorem lines_eq_ok_iff {text drawn : String} :
    lines text = .ok drawn ↔
      ∃ chains, chainsOfText text.toList = .ok chains ∧
        String.ofList (List.intercalate ['\n'] (chains.map Chain.drawn)) = drawn := by
  rw [lines]
  cases chainsOfText text.toList <;> simp [Except.map]

theorem lines_eq_error_iff {text : String} {e : RenderError} :
    lines text = .error e ↔ chainsOfText text.toList = .error e := by
  rw [lines]
  cases chainsOfText text.toList <;> simp [Except.map]

theorem lines_missingHeader_iff {text : String} :
    lines text = .error .missingHeader ↔ ¬HasHeader text.toList := by
  rw [lines_eq_error_iff]
  refine ⟨fun h hheader => ?_, chainsOfText_of_not_hasHeader⟩
  rw [chainsOfText_of_hasHeader hheader] at h
  obtain ⟨_, _, _, _, -, -, -, he⟩ := chainsOfLines_eq_error_iff.mp h
  cases he

/-- A fault of a line comes up only behind a header. -/
theorem lines_malformedEdge_iff {text : String} {n : Nat} :
    (∃ fault, lines text = .error (.malformedEdge n fault)) ↔
      HasHeader text.toList ∧ ∃ before line after,
        (contentLines text.toList).tail = before ++ (n, line) :: after ∧
        (∀ l ∈ before, Spelled l.2) ∧ ¬Spelled line := by
  simp only [lines_eq_error_iff, not_spelled_iff]
  constructor
  · rintro ⟨fault, h⟩
    by_cases hheader : HasHeader text.toList
    · rw [chainsOfText_of_hasHeader hheader] at h
      obtain ⟨before, l, after, fault', hlater, hbefore, hline, he⟩ := chainsOfLines_eq_error_iff.mp h
      obtain ⟨rfl, -⟩ := RenderError.malformedEdge.inj he
      exact ⟨hheader, before, l.2, after, hlater, hbefore, fault', hline⟩
    · rw [chainsOfText_of_not_hasHeader hheader] at h
      cases h
  · rintro ⟨hheader, before, line, after, hlater, hbefore, fault, hline⟩
    refine ⟨fault, ?_⟩
    rw [chainsOfText_of_hasHeader hheader]
    exact chainsOfLines_eq_error_iff.mpr ⟨before, (n, line), after, fault, hlater, hbefore, hline, rfl⟩

theorem lines_ne_backend {text : String} (reason : String) :
    lines text ≠ .error (.backend reason) := by
  intro h
  by_cases hheader : HasHeader text.toList
  · rw [lines_eq_error_iff, chainsOfText_of_hasHeader hheader] at h
    obtain ⟨_, _, _, _, -, -, -, he⟩ := chainsOfLines_eq_error_iff.mp h
    cases he
  · rw [lines_missingHeader_iff.mpr hheader] at h
    cases h

/-- A text that is drawn has a header. -/
theorem chainsOfText_eq_ok_iff {text : List Char} {chains : List Chain} :
    chainsOfText text = .ok chains ↔
      HasHeader text ∧ chainsOfLines (contentLines text).tail = .ok chains := by
  by_cases hheader : HasHeader text
  · rw [chainsOfText_of_hasHeader hheader, and_iff_right hheader]
  · simp [chainsOfText_of_not_hasHeader hheader, hheader]

theorem exists_lines_eq_ok_iff {text : String} :
    (∃ drawn, lines text = .ok drawn) ↔
      HasHeader text.toList ∧ ∀ l ∈ (contentLines text.toList).tail, Spelled l.2 := by
  rw [← exists_chainsOfLines_iff]
  simp [lines_eq_ok_iff, chainsOfText_eq_ok_iff]

/-- What is drawn are the segments of the chains that the lines spell. -/
theorem lines_eq_ok_iff_segments {text drawn : String} :
    lines text = .ok drawn ↔
      HasHeader text.toList ∧ ∃ chains : List SpelledChain,
        (∀ s ∈ chains, s.WellSpelled ∧ '\n' ∉ s.segment) ∧
        chains.map SpelledChain.line = (contentLines text.toList).tail.map (·.2) ∧
        drawn = String.ofList (List.intercalate ['\n'] (chains.map SpelledChain.segment)) := by
  have hdrawn : ∀ ss : List SpelledChain,
      (ss.map SpelledChain.read).map Chain.drawn = ss.map SpelledChain.segment := by
    intro ss
    rw [List.map_map]
    exact List.map_congr_left fun s _ => Chain.drawn_read s
  simp only [lines_eq_ok_iff, chainsOfText_eq_ok_iff, chainsOfLines_eq_ok_iff]
  constructor
  · rintro ⟨_, ⟨hheader, ss, hss, hlines, rfl⟩, rfl⟩
    refine ⟨hheader, ss, fun s hs => ⟨hss s hs, ?_⟩, hlines, by rw [hdrawn]⟩
    have hline : s.line ∈ (contentLines text.toList).tail.map (·.2) := hlines ▸ List.mem_map_of_mem hs
    obtain ⟨l, hl, hline⟩ := List.mem_map.mp hline
    exact SpelledChain.newline_not_mem_segment (hline ▸ newline_not_mem_line (List.mem_of_mem_tail hl))
  · rintro ⟨hheader, ss, hss, hlines, rfl⟩
    exact ⟨_, ⟨hheader, ss, fun s hs => (hss s hs).1, hlines, rfl⟩, by rw [hdrawn]⟩

theorem spelled_iff_existsUnique {line : List Char} :
    Spelled line ↔ ∃! s : SpelledChain, s.WellSpelled ∧ s.line = line := by
  refine ⟨fun ⟨s, hs, hline⟩ => ⟨s, ⟨hs, hline⟩, ?_⟩, fun ⟨s, ⟨hs, hline⟩, _⟩ => ⟨s, hs, hline⟩⟩
  rintro s' ⟨hs', hline'⟩
  exact hs'.eq_of_line_eq hs (hline'.trans hline.symm)

/-- The built-in renderer misses a header if and only if no line counts or the first one that
does is none. Otherwise it draws the text if and only if every later line that counts spells a
chain well, and then draws one line for each of them, in this order; or else it refuses the
text for the first line that spells none, by its number. A line spells a chain well in one way
only. -/
theorem lines_accepts (text : String) :
    let content := contentLines text.toList
    (lines text = .error .missingHeader ↔ ¬HasHeader text.toList) ∧
      ((∃ drawn, lines text = .ok drawn) ↔
        HasHeader text.toList ∧ ∀ l ∈ content.tail, Spelled l.2) ∧
      (∀ drawn, lines text = .ok drawn ↔
        HasHeader text.toList ∧ ∃ chains : List SpelledChain,
          (∀ s ∈ chains, s.WellSpelled ∧ '\n' ∉ s.segment) ∧
          chains.map SpelledChain.line = content.tail.map (·.2) ∧
          drawn = String.ofList (List.intercalate ['\n'] (chains.map SpelledChain.segment))) ∧
      (∀ n, (∃ fault, lines text = .error (.malformedEdge n fault)) ↔
        HasHeader text.toList ∧ ∃ before line after,
          content.tail = before ++ (n, line) :: after ∧ (∀ l ∈ before, Spelled l.2) ∧
          ¬Spelled line) ∧
      (∀ reason, lines text ≠ .error (.backend reason)) ∧
      ∀ line, Spelled line ↔ ∃! s : SpelledChain, s.WellSpelled ∧ s.line = line := by
  intro content
  exact ⟨lines_missingHeader_iff, exists_lines_eq_ok_iff, fun _ => lines_eq_ok_iff_segments,
    fun _ => lines_malformedEdge_iff, lines_ne_backend, fun _ => spelled_iff_existsUnique⟩

end Renderer

end Telemetry
