import Telemetry.Diagram.Renderer
import Telemetry.Proofs.Number.Decimal
import Telemetry.Proofs.Text.Pieces

/-!
# Chains read back

A chain as a line of a description writes it (`written`) is read as the chain that it is,
without the white space around its names (`ofLine_written`), if they can be told from what
stands around them (`NameText`) and its counts can be read (`Legible`). The white space at
the ends of a line is no part of what it says (`ofLine_trim_written`).

A clean name (`CleanName`) is read as it is, so a chain of clean names (`Readable`) is read
as nothing but itself. It may hold bars, dashes and inner white space: a separator begins
with a blank, an arrow follows it, and the blank that ends a count is too close to the bar
before it to end another one.
-/

namespace Telemetry

open Text

/-- A name of a service that can be told from what stands around it in a line. -/
structure CleanName (name : List Char) : Prop where
  nonempty : name ≠ []
  head : ∀ c ∈ name.head?, ¬isBlank c
  last : ∀ c ∈ name.getLast?, ¬isBlank c
  line : '\n' ∉ name
  arrow : ¬CallGraph.arrow <:+: name

theorem all_not_isBlank {o : Option Char} : o.all (!isBlank ·) ↔ ∀ c ∈ o, ¬isBlank c := by
  cases o <;> simp

instance (name : List Char) : Decidable (CleanName name) :=
  decidable_of_iff
    (name ≠ [] ∧ name.head?.all (!isBlank ·) ∧ name.getLast?.all (!isBlank ·) ∧
      '\n' ∉ name ∧ ¬CallGraph.arrow <:+: name)
    ⟨fun ⟨nonempty, head, last, line, arrow⟩ =>
        ⟨nonempty, all_not_isBlank.mp head, all_not_isBlank.mp last, line, arrow⟩,
      fun h =>
        ⟨h.nonempty, all_not_isBlank.mpr h.head, all_not_isBlank.mpr h.last, h.line, h.arrow⟩⟩

theorem CleanName.trim {name : List Char} (h : CleanName name) : trim name = name :=
  trim_eq_self h.head h.last

/-- Text of a line that a name can be read from, without the white space around it. -/
structure NameText (text : List Char) : Prop where
  visible : trim text ≠ []
  line : '\n' ∉ text
  separator : ¬Chain.separator <:+: text

instance (text : List Char) : Decidable (NameText text) :=
  decidable_of_iff (trim text ≠ [] ∧ '\n' ∉ text ∧ ¬Chain.separator <:+: text)
    ⟨fun ⟨visible, line, separator⟩ => ⟨visible, line, separator⟩,
      fun h => ⟨h.visible, h.line, h.separator⟩⟩

namespace NameText

variable {c : Char} {text : List Char}

/-- White space around a name may be left out. -/
theorem of_infix {part : List Char} (h : NameText text) (hpart : part <:+: text)
    (htrim : trim part = trim text) : NameText part where
  visible := htrim ▸ h.visible
  line hl := h.line (hpart.subset hl)
  separator hs := h.separator (hs.trans hpart)

theorem tail (h : NameText (c :: text)) (hc : isBlank c) : NameText text := by
  have hblank : [c].all isBlank := List.all_eq_true.mpr (List.forall_mem_singleton.mpr hc)
  exact h.of_infix (List.suffix_cons c text).isInfix (trim_append hblank).symm

theorem trimStart (h : NameText text) : NameText (trimStart text) :=
  h.of_infix (trimStart_isSuffix text).isInfix (trim_trimStart text)

theorem trimEnd (h : NameText text) : NameText (trimEnd text) :=
  h.of_infix (trimEnd_isPrefix text).isInfix (trim_trimEnd text)

theorem trimStart_ne_nil (h : NameText text) : Text.trimStart text ≠ [] :=
  Text.trimStart_ne_nil h.visible

theorem trimEnd_ne_nil (h : NameText text) : Text.trimEnd text ≠ [] :=
  Text.trimEnd_ne_nil h.visible

end NameText

namespace Chain

/-- A call as a line writes it after a separator. -/
def writtenHop (h : Hop) : List Char :=
  Number.digits h.count ++ (countEnd ++ h.target)

/-- A chain as a line of a description writes it. -/
def written (c : Chain) : List Char :=
  c.source ++ c.hops.flatMap fun h => separator ++ writtenHop h

/-- A call with its target as it is read. -/
def trimmedHop (h : Hop) : Hop := ⟨h.count, trim h.target⟩

/-- A chain with its names as they are read. -/
def trimmed (c : Chain) : Chain := ⟨trim c.source, c.hops.map trimmedHop⟩

/-- A chain of at least one call that can be read back, up to the white space around its
names. A name that is called has a blank before it in the line. -/
structure Legible (c : Chain) : Prop where
  source : NameText c.source
  calls : c.hops ≠ []
  targets : ∀ h ∈ c.hops, NameText (' ' :: h.target)
  counts : ∀ h ∈ c.hops, h.count < 0x10000000000000000

/-- A chain of at least one call whose names are clean and whose counts are words. -/
structure Readable (c : Chain) : Prop where
  source : CleanName c.source
  calls : c.hops ≠ []
  targets : ∀ h ∈ c.hops, CleanName h.target
  counts : ∀ h ∈ c.hops, h.count < 0x10000000000000000

/-! ## Parts of a line -/

theorem arrow_infix_separator : CallGraph.arrow <:+: separator :=
  ⟨[' '], ['|'], rfl⟩

theorem arrow_infix_of_prefix_cons {name : List Char} (h : separator <+: ' ' :: name) :
    CallGraph.arrow <:+: name := by
  obtain ⟨rest, hrest⟩ := h
  exact ⟨[], '|' :: rest, (List.cons.inj hrest).2⟩

theorem not_mem_digits {n : Nat} {c : Char} (hc : ¬c.isDigit) : c ∉ Number.digits n :=
  fun h => hc (Number.isDigit_of_mem_digits h)

/-- A clean name can be read, also after a blank. -/
theorem nameText_of_cleanName {name : List Char} (h : CleanName name) : NameText (' ' :: name) where
  visible := by
    rw [← List.singleton_append, trim_append (by decide), h.trim]
    exact h.nonempty
  line := List.not_mem_cons_of_ne_of_not_mem (by decide) h.line
  separator := by
    rw [List.infix_cons_iff, not_or]
    exact ⟨fun hp => h.arrow (arrow_infix_of_prefix_cons hp),
      fun hi => h.arrow (arrow_infix_separator.trans hi)⟩

theorem Readable.legible {c : Chain} (h : c.Readable) : c.Legible where
  source := (nameText_of_cleanName h.source).tail (by decide)
  calls := h.calls
  targets hop hhop := nameText_of_cleanName (h.targets hop hhop)
  counts := h.counts

theorem Readable.trimmed {c : Chain} (h : c.Readable) : c.trimmed = c := by
  have hhops : c.hops.map trimmedHop = c.hops :=
    (List.map_congr_left fun hop hhop =>
      congrArg (Hop.mk hop.count) (h.targets hop hhop).trim).trans c.hops.map_id
  rw [Chain.trimmed, h.source.trim, hhops]

theorem not_infix_writtenHop {h : Hop} (ht : NameText (' ' :: h.target)) :
    ¬separator <:+: writtenHop h := by
  have hcount : ' ' ∉ Number.digits h.count ++ ['|'] := by
    simp [not_mem_digits (n := h.count) (c := ' ') (by decide)]
  have hwritten : writtenHop h = (Number.digits h.count ++ ['|']) ++ ' ' :: h.target := by
    rw [List.append_assoc]
    rfl
  rw [hwritten]
  exact not_infix_append hcount ht.separator

theorem pieces_written {c : Chain} (hc : c.Legible) :
    pieces separator c.written = c.source :: c.hops.map writtenHop := by
  have hparts : ∀ p ∈ c.hops.map writtenHop, ¬separator <:+: p := by
    intro p hp
    obtain ⟨h, hh, rfl⟩ := List.mem_map.mp hp
    exact not_infix_writtenHop (hc.targets h hh)
  have hwritten : c.written = c.source ++ (c.hops.map writtenHop).flatMap (separator ++ ·) := by
    rw [written, List.flatMap_map]
  rw [hwritten]
  exact pieces_flatMap (by decide) hc.source.separator hparts

/-! ## Reading -/

theorem count?_digits {n : Nat} (hn : n < 0x10000000000000000) :
    count? (Number.digits n) = some n := by
  have hplus : ∀ rest, Number.digits n ≠ '+' :: rest := fun rest h =>
    not_mem_digits (c := '+') (by decide) (h ▸ List.mem_cons_self)
  rw [count?, Number.ofDigits?_digits]
  · exact if_pos (decide_eq_true hn)
  · exact hplus

theorem trim_digits (n : Nat) : trim (Number.digits n) = Number.digits n :=
  trim_eq_self
    (fun _ h => Number.isBlank_of_isDigit (Number.isDigit_of_mem_digits (List.mem_of_head? h)))
    (fun _ h => Number.isBlank_of_isDigit (Number.isDigit_of_mem_digits (List.mem_of_getLast? h)))

theorem hopOfPart_writtenHop {h : Hop} (ht : NameText (' ' :: h.target))
    (hn : h.count < 0x10000000000000000) : hopOfPart (writtenHop h) = .ok (trimmedHop h) := by
  have hcut : cut? countEnd (writtenHop h) = some (Number.digits h.count, h.target) :=
    cut?_append (by decide) (not_infix_of_not_mem (not_mem_digits (by decide)))
  have hempty : ¬(trim h.target).isEmpty := fun he =>
    (ht.tail (by decide)).visible (List.isEmpty_iff.mp he)
  simp only [hopOfPart, hcut, trim_digits, count?_digits hn, hempty, if_false, Bool.false_eq_true,
    trimmedHop]

theorem hopsOfParts_map {hops : List Hop} (ht : ∀ h ∈ hops, NameText (' ' :: h.target))
    (hn : ∀ h ∈ hops, h.count < 0x10000000000000000) :
    hopsOfParts (hops.map writtenHop) = .ok (hops.map trimmedHop) := by
  induction hops with
  | nil => rfl
  | cons h hops ih =>
    obtain ⟨hth, hts⟩ := List.forall_mem_cons.mp ht
    obtain ⟨hnh, hns⟩ := List.forall_mem_cons.mp hn
    rw [List.map_cons, hopsOfParts, hopOfPart_writtenHop hth hnh, ih hts hns]
    rfl

/-- A legible chain is read back from its line. -/
theorem ofLine_written {c : Chain} (hc : c.Legible) : ofLine c.written = .ok c.trimmed := by
  have hempty : ¬(trim c.source).isEmpty := fun he => hc.source.visible (List.isEmpty_iff.mp he)
  obtain ⟨source, hops⟩ := c
  cases hops with
  | nil => exact absurd rfl hc.calls
  | cons h hops =>
    simp only [ofLine, pieces_written hc, hopsOfParts_map hc.targets hc.counts, hempty, if_false,
      Bool.false_eq_true]
    rfl

/-! ## The line as a whole -/

theorem newline_not_mem_written {c : Chain} (hc : c.Legible) : '\n' ∉ c.written := by
  intro h
  rcases List.mem_append.mp h with h | h
  · exact hc.source.line h
  · obtain ⟨hop, hhop, h⟩ := List.mem_flatMap.mp h
    simp only [writtenHop, List.mem_append] at h
    rcases h with h | h | h | h
    · exact absurd h (by decide)
    · exact not_mem_digits (by decide) h
    · exact absurd h (by decide)
    · exact (hc.targets hop hhop).line (List.mem_cons_of_mem ' ' h)

/-- A line begins with its first name and ends with its last one. -/
theorem exists_written_concat (first : List Hop) (n : Nat) :
    ∃ middle, ∀ source target,
      written ⟨source, first ++ [⟨n, target⟩]⟩ = source ++ (middle ++ target) :=
  ⟨(first.flatMap fun h => separator ++ writtenHop h) ++
      (separator ++ (Number.digits n ++ countEnd)),
    fun _ _ => by simp [written, writtenHop]⟩

/-- The white space at the ends of a line is that at the ends of its outer names: without
it, the line is that of another chain, with the same names as they are read. -/
theorem exists_trim_written {c : Chain} (hc : c.Legible) :
    ∃ c' : Chain, c'.Legible ∧ c'.trimmed = c.trimmed ∧ trim c.written = c'.written := by
  obtain ⟨source, hops⟩ := c
  obtain ⟨first, ⟨n, target⟩, rfl⟩ := (List.eq_nil_or_concat' hops).resolve_left hc.calls
  obtain ⟨middle, hwritten⟩ := exists_written_concat first n
  have hlast : NameText (' ' :: target) := hc.targets ⟨n, target⟩ (by simp)
  have hend : trimEnd target ≠ [] := (hlast.tail (by decide)).trimEnd_ne_nil
  have htarget : NameText (' ' :: trimEnd target) := trimEnd_cons_of_ne_nil ' ' hend ▸ hlast.trimEnd
  refine ⟨⟨trimStart source, first ++ [⟨n, trimEnd target⟩]⟩, ?legible, ?names, ?line⟩
  case legible => exact {
    source := hc.source.trimStart
    calls := List.append_ne_nil_of_right_ne_nil _ (List.cons_ne_nil _ _)
    targets := List.forall_mem_append.mpr ⟨fun h hh => hc.targets h (by simp [hh]),
      List.forall_mem_singleton.mpr htarget⟩
    counts := List.forall_mem_append.mpr ⟨fun h hh => hc.counts h (by simp [hh]),
      List.forall_mem_singleton.mpr (hc.counts ⟨n, target⟩ (by simp))⟩ }
  case names => simp [trimmed, trimmedHop]
  case line =>
    rw [hwritten, hwritten, trim, trimStart_append hc.source.trimStart_ne_nil, ← List.append_assoc,
      trimEnd_append hend, List.append_assoc]

/-- The line of a legible chain is read alike without the white space at its ends. -/
theorem ofLine_trim_written {c : Chain} (hc : c.Legible) :
    ofLine (trim c.written) = .ok c.trimmed := by
  obtain ⟨c', hc', htrimmed, htrim⟩ := exists_trim_written hc
  rw [htrim, ofLine_written hc', htrimmed]

theorem trim_written_ne_nil {c : Chain} (hc : c.Legible) : trim c.written ≠ [] := by
  obtain ⟨c', hc', -, htrim⟩ := exists_trim_written hc
  rw [htrim, written]
  exact fun h => hc'.source.visible (by rw [(List.append_eq_nil_iff.mp h).1]; rfl)

end Chain

end Telemetry
