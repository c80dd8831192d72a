import Telemetry.Diagram.Renderer
import Telemetry.Proofs.List.Traversal
import Telemetry.Proofs.Number.Decimal
import Telemetry.Proofs.Text.Occurrences

/-!
# The grammar of a chain

How a line of a description spells a chain of calls, and that a line is read as a chain if
and only if it is spelled so.

* `SpelledHop`, `SpelledChain`: the texts that a line puts together, and when they are well
  spelled;
* `hopOfPart_eq_ok_iff`, `hopsOfParts_eq_ok_iff`, `ofLine_eq_ok_iff`: what is read of a part,
  of all parts, and of a line;
* `SpelledChain.WellSpelled.eq_of_line_eq`: a line is well spelled in one way only;
* `SpelledChain.segment`, `drawn_read`: what is drawn of it.
-/

namespace Telemetry

open Text

/-- The texts of a call: its count and the service called. -/
structure SpelledHop where
  count : List Char
  target : List Char

/-- The texts of a chain of calls. -/
structure SpelledChain where
  source : List Char
  hops : List SpelledHop

namespace SpelledHop

/-- The call as it stands behind a separator. -/
def text (h : SpelledHop) : List Char := h.count ++ (Chain.countEnd ++ h.target)

/-- The count without the white space around it and without a plus sign before it. -/
def numeral (h : SpelledHop) : List Char :=
  if (trim h.count).head? = some '+' then (trim h.count).tail else trim h.count

/-- The number that the count stands for. -/
def number (h : SpelledHop) : Nat := Number.ofDigits h.numeral

/-- The call that the texts stand for. -/
def read (h : SpelledHop) : Hop := ⟨h.number, trim h.target⟩

/-- The count is a decimal number below `2^64` and ends where it is first said to end, and the
service called has a name. -/
structure WellSpelled (h : SpelledHop) : Prop where
  ended : ¬Chain.countEnd <:+: h.count
  nonempty : h.numeral ≠ []
  decimal : h.numeral.all Char.isDigit
  word : h.number < 0x10000000000000000
  target : trim h.target ≠ []

instance (h : SpelledHop) : Decidable h.WellSpelled :=
  decidable_of_iff
    (¬Chain.countEnd <:+: h.count ∧ h.numeral ≠ [] ∧ h.numeral.all Char.isDigit ∧
      h.number < 0x10000000000000000 ∧ trim h.target ≠ [])
    ⟨fun ⟨ended, nonempty, decimal, word, target⟩ => ⟨ended, nonempty, decimal, word, target⟩,
      fun h => ⟨h.ended, h.nonempty, h.decimal, h.word, h.target⟩⟩

end SpelledHop

namespace SpelledChain

/-- The line that the texts are put together to. -/
def line (s : SpelledChain) : List Char :=
  s.source ++ s.hops.flatMap fun h => Chain.separator ++ h.text

/-- The chain that the texts stand for. -/
def read (s : SpelledChain) : Chain := ⟨trim s.source, s.hops.map SpelledHop.read⟩

/-- What is drawn of the texts. -/
def segment (s : SpelledChain) : List Char :=
  trim s.source ++ s.hops.flatMap fun h =>
    [' ', '─', '['] ++ Nat.toDigits 10 h.number ++ [']', '→', ' '] ++ trim h.target

/-- There is a service with a name before the first call, all calls are well spelled, and
there is no separator in the line but the one before each call. -/
structure WellSpelled (s : SpelledChain) : Prop where
  source : trim s.source ≠ []
  calls : s.hops ≠ []
  hops : ∀ h ∈ s.hops, h.WellSpelled
  separators : places Chain.separator s.line = s.hops.length

instance (s : SpelledChain) : Decidable s.WellSpelled :=
  decidable_of_iff
    (trim s.source ≠ [] ∧ s.hops ≠ [] ∧ (∀ h ∈ s.hops, h.WellSpelled) ∧
      places Chain.separator s.line = s.hops.length)
    ⟨fun ⟨source, calls, hops, separators⟩ => ⟨source, calls, hops, separators⟩,
      fun h => ⟨h.source, h.calls, h.hops, h.separators⟩⟩

end SpelledChain

namespace Chain

/-! ## Calls -/

/-- A count is read as the number that it stands for. -/
theorem count?_trim (h : SpelledHop) {n : Nat} :
    count? (trim h.count) = some n ↔
      (h.numeral ≠ [] ∧ h.numeral.all Char.isDigit) ∧ h.number < 0x10000000000000000 ∧
        h.number = n := by
  have hcount : count? (trim h.count) =
      (Number.ofDigits? h.numeral).filter (· < 0x10000000000000000) := by
    unfold count? SpelledHop.numeral
    split
    · next rest hplus => rw [hplus]; rfl
    · next hplus =>
      rw [if_neg]
      intro hhead
      obtain ⟨rest, hrest⟩ := List.head?_eq_some_iff.mp hhead
      exact hplus rest hrest
  rw [hcount, Option.filter_eq_some_iff, Number.ofDigits?]
  simp only [Option.ite_none_right_eq_some, Option.some.injEq, decide_eq_true_eq]
  constructor
  · rintro ⟨⟨hdigits, rfl⟩, hword⟩
    exact ⟨hdigits, hword, rfl⟩
  · rintro ⟨hdigits, hword, rfl⟩
    exact ⟨⟨hdigits, rfl⟩, hword⟩

theorem cut?_text {h : SpelledHop} (hended : ¬countEnd <:+: h.count) :
    cut? countEnd h.text = some (h.count, h.target) :=
  cut?_append (by decide) hended

/-- A part is read as a call if it is a well-spelled one. -/
theorem hopOfPart_eq_ok_iff {part : List Char} {hop : Hop} :
    hopOfPart part = .ok hop ↔ ∃ h : SpelledHop, h.WellSpelled ∧ h.text = part ∧ h.read = hop := by
  constructor
  · intro hread
    unfold hopOfPart at hread
    split at hread
    · cases hread
    · next count target hcut =>
      split at hread
      · cases hread
      · next n hn =>
        obtain ⟨hpart, hended⟩ := eq_append_of_cut? hcut
        obtain ⟨⟨hnonempty, hdecimal⟩, hword, hnumber⟩ := (count?_trim ⟨count, target⟩).mp hn
        split at hread
        · cases hread
        · next htarget =>
          obtain rfl := Except.ok.inj hread
          have hwell : SpelledHop.WellSpelled ⟨count, target⟩ :=
            ⟨hended, hnonempty, hdecimal, hword, fun he => htarget (List.isEmpty_iff.mpr he)⟩
          exact ⟨⟨count, target⟩, hwell, hpart.symm, congrArg (Hop.mk · (trim target)) hnumber⟩
  · rintro ⟨h, hwell, rfl, rfl⟩
    have hcount : count? (trim h.count) = some h.number :=
      (count?_trim h).mpr ⟨⟨hwell.nonempty, hwell.decimal⟩, hwell.word, rfl⟩
    have htarget : ¬(trim h.target).isEmpty := fun he => hwell.target (List.isEmpty_iff.mp he)
    simp only [hopOfPart, cut?_text hwell.ended, hcount, htarget, if_false, Bool.false_eq_true]
    rfl

theorem hopsOfParts_eq_mapM (parts : List (List Char)) :
    hopsOfParts parts = parts.mapM hopOfPart := by
  induction parts with
  | nil => rfl
  | cons part parts ih =>
    rw [hopsOfParts, mapM_cons, ih]
    cases hopOfPart part <;> rfl

/-- The parts are read as calls if all of them are well spelled. -/
theorem hopsOfParts_eq_ok_iff {parts : List (List Char)} {hops : List Hop} :
    hopsOfParts parts = .ok hops ↔
      ∃ hs : List SpelledHop, (∀ h ∈ hs, h.WellSpelled) ∧ hs.map SpelledHop.text = parts ∧
        hs.map SpelledHop.read = hops := by
  rw [hopsOfParts_eq_mapM, mapM_eq_ok_iff]
  simp only [hopOfPart_eq_ok_iff]
  exact forall₂_exists_iff

/-! ## Lines -/

/-- A line is taken apart at its separators into the texts that it is put together of, if
there is no other separator in it. -/
theorem pieces_line_iff (s : SpelledChain) :
    pieces separator s.line = s.source :: s.hops.map SpelledHop.text ↔
      places separator s.line = s.hops.length := by
  have hline : s.line = s.source ++ (s.hops.map SpelledHop.text).flatMap (separator ++ ·) := by
    rw [SpelledChain.line, List.flatMap_map]
  have hlength : s.hops.length = (s.hops.map SpelledHop.text).length := by rw [List.length_map]
  rw [hline, hlength]
  refine (pieces_eq_cons_iff (by decide)).trans (Iff.trans ?_
    (places_flatMap_eq_length_iff (by decide)).symm)
  exact and_iff_right rfl

/-- A line is read as a chain if it spells the chain well. -/
theorem ofLine_eq_ok_iff {line : List Char} {c : Chain} :
    ofLine line = .ok c ↔ ∃ s : SpelledChain, s.WellSpelled ∧ s.line = line ∧ s.read = c := by
  constructor
  · intro hread
    unfold ofLine at hread
    split at hread
    · cases hread
    · next source parts hpieces =>
      split at hread
      · cases hread
      · next hsource =>
        split at hread
        · cases hread
        · cases hread
        · next hops hcalls hhops =>
          obtain rfl := Except.ok.inj hread
          obtain ⟨hs, hwells, rfl, rfl⟩ := hopsOfParts_eq_ok_iff.mp hhops
          have hline : (SpelledChain.mk source hs).line = line := by
            rw [SpelledChain.line, ((pieces_eq_cons_iff (by decide)).mp hpieces).1, List.flatMap_map]
            rfl
          refine ⟨⟨source, hs⟩, ⟨?source, ?calls, hwells, ?separators⟩, hline, rfl⟩
          case source => exact fun he => hsource (List.isEmpty_iff.mpr he)
          case calls => exact fun he => hcalls (List.map_eq_nil_iff.mpr he)
          case separators => exact (pieces_line_iff ⟨source, hs⟩).mp (hline ▸ hpieces)
  · rintro ⟨s, hs, rfl, rfl⟩
    have hsource : ¬(trim s.source).isEmpty := fun he => hs.source (List.isEmpty_iff.mp he)
    have hhops : hopsOfParts (s.hops.map SpelledHop.text) = .ok (s.hops.map SpelledHop.read) :=
      hopsOfParts_eq_ok_iff.mpr ⟨s.hops, hs.hops, rfl, rfl⟩
    obtain ⟨h, hops, hcalls⟩ := List.exists_cons_of_ne_nil hs.calls
    rw [ofLine, (pieces_line_iff s).mpr hs.separators]
    simp only [hsource, if_false, Bool.false_eq_true, hhops]
    rw [SpelledChain.read, hcalls]
    rfl

/-- A count with a sign, a zero and white space, and a name that begins with a bar. -/
example : SpelledChain.WellSpelled ⟨['w', ' '], [⟨[' ', '+', '0', '2'], ['|', 'a']⟩]⟩ := by decide

theorem drawn_read (s : SpelledChain) : drawn s.read = s.segment := by
  rw [drawn, SpelledChain.read, List.flatMap_map]
  rfl

end Chain

namespace SpelledChain

variable {s s' : SpelledChain}

/-- A line is well spelled in one way only. -/
theorem WellSpelled.eq_of_line_eq (hs : s.WellSpelled) (hs' : s'.WellSpelled)
    (h : s.line = s'.line) : s = s' := by
  have hpieces : s.source :: s.hops.map SpelledHop.text = s'.source :: s'.hops.map SpelledHop.text := by
    rw [← (Chain.pieces_line_iff s).mpr hs.separators, ← (Chain.pieces_line_iff s').mpr hs'.separators, h]
  obtain ⟨hsource, htexts⟩ := List.cons.inj hpieces
  -- each call is found again where its part is cut
  have hcuts : ∀ s : SpelledChain, s.WellSpelled →
      (s.hops.map SpelledHop.text).map (cut? Chain.countEnd) =
        s.hops.map fun h => some (h.count, h.target) := by
    intro s hs
    rw [List.map_map]
    exact List.map_congr_left fun h hh => Chain.cut?_text (hs.hops h hh).ended
  have hpairs : (s.hops.map fun h => some (h.count, h.target)) =
      s'.hops.map fun h => some (h.count, h.target) := by
    rw [← hcuts s hs, ← hcuts s' hs', htexts]
  have hinj : Function.Injective fun h : SpelledHop => some (h.count, h.target) := by
    rintro ⟨count, target⟩ ⟨count', target'⟩ he
    obtain ⟨rfl, rfl⟩ := Prod.mk.inj (Option.some.inj he)
    rfl
  obtain ⟨source, hops⟩ := s
  obtain ⟨source', hops'⟩ := s'
  exact congrArg₂ SpelledChain.mk hsource (hinj.list_map hpairs)

/-- What is drawn of a line is drawn on one line. -/
theorem newline_not_mem_segment (hline : '\n' ∉ s.line) : '\n' ∉ s.segment := by
  intro h
  rcases List.mem_append.mp h with h | h
  · exact hline (List.mem_append_left _ (trim_subset s.source h))
  · obtain ⟨hop, hhop, h⟩ := List.mem_flatMap.mp h
    simp only [List.mem_append] at h
    rcases h with ((h | h) | h) | h
    · exact absurd h (by decide)
    · exact absurd (Number.isDigit_of_mem_digits h) (by decide)
    · exact absurd h (by decide)
    · refine hline (List.mem_append_right _ (List.mem_flatMap.mpr ⟨hop, hhop, ?_⟩))
      have htarget : '\n' ∈ hop.target := trim_subset hop.target h
      exact List.mem_append_right _ (List.mem_append_right _ (List.mem_append_right _ htarget))

end SpelledChain

end Telemetry
