import Mathlib.Data.List.Find
import Telemetry.Proofs.Traces.Seeding

/-!
# The entry of a pair

The entry of a pair is its first span that no span of the pair has called. Recalculation looks
for it among all spans of the pair, while arrivals change the representative once at most.

* `SpanRecord.outsiders`: the spans whose parent is not among them, by identifiers alone; that is
  what recalculation looks at (`entryOf?_eq`);
* `SpanRecord.CalledWithin`: a span names its parent, and that is one of some spans. A root is never
  called, yet it is no outsider where some span has no identifier (`entryOf?_eq_of_noZero`);
* `Recalculates`: what a recalculation does to the index; `run_recalculates`: after any history;
  `recalculate_passes_over_root`: where it misses the entry;
* `run_agrees_with_recalculation`: when the arrivals have left the representative that recalculation
  chooses.
-/

namespace Telemetry

namespace SpanRecord

/-- The span names its parent, and that is one of some spans. -/
def CalledWithin (spans : List SpanRecord) (r : SpanRecord) : Prop :=
  ¬r.isRoot ∧ ∃ r' ∈ spans, r'.spanId = r.parentSpanId

instance (spans : List SpanRecord) : DecidablePred (CalledWithin spans) := fun _ =>
  inferInstanceAs (Decidable (_ ∧ _))

/-- Those of some spans whose parent does not have the identifier of any of them. -/
def outsiders (spans : List SpanRecord) : List SpanRecord :=
  spans.filter fun r => ∀ r' ∈ spans, r'.spanId ≠ r.parentSpanId

theorem mem_outsiders {spans : List SpanRecord} {r : SpanRecord} :
    r ∈ outsiders spans ↔ r ∈ spans ∧ ∀ r' ∈ spans, r'.spanId ≠ r.parentSpanId := by
  rw [outsiders, List.mem_filter, decide_eq_true_eq]

variable {seed entry : SpanRecord} {joined : List SpanRecord}

/-- An outsider stays the representative, as its parent has not joined. -/
theorem heir_of_mem_outsiders (h : seed ∈ outsiders (seed :: joined)) : seed.heir joined = seed :=
  heir_of_absent fun r hr => (mem_outsiders.mp h).2 r (List.mem_cons_of_mem seed hr)

/-- Among a seed and the spans that have joined it, let there be one outsider. It is the heir of the
seed if it is the seed or its parent, and only then: the seed promotes its parent, and no span that
is further up. -/
theorem heir_eq_iff (h : outsiders (seed :: joined) = [entry]) (hzero : entry.spanId ≠ .zero)
    (hunique : ∀ r ∈ seed :: joined, r.spanId = entry.spanId → r = entry) :
    seed.heir joined = entry ↔ seed = entry ∨ seed.parentSpanId = entry.spanId := by
  have hentry : entry ∈ outsiders (seed :: joined) := h ▸ List.mem_cons_self
  constructor
  · rw [heir]
    split
    · exact .inl
    cases hfind : joined.find? (·.spanId = seed.parentSpanId) with
    | none => exact .inl
    | some r =>
      rintro rfl
      have hr : r.spanId = seed.parentSpanId := by simpa using List.find?_some hfind
      exact .inr hr.symm
  · rintro (rfl | e)
    · exact heir_of_mem_outsiders hentry
    rcases List.mem_cons.mp (mem_outsiders.mp hentry).1 with rfl | hjoined
    · exact heir_of_mem_outsiders hentry
    have hroot : ¬seed.isRoot := fun hr => hzero (e.symm.trans (isRoot_iff.mp hr))
    obtain ⟨r, hfind⟩ : ∃ r, joined.find? (·.spanId = seed.parentSpanId) = some r :=
      Option.isSome_iff_exists.mp (List.find?_isSome.mpr ⟨entry, hjoined, by simpa using e.symm⟩)
    have hr : r.spanId = seed.parentSpanId := by simpa using List.find?_some hfind
    rw [heir, if_neg hroot, hfind, Option.getD_some]
    exact hunique r (List.mem_cons_of_mem seed (List.mem_of_find?_eq_some hfind)) (hr.trans e)

end SpanRecord

open SpanRecord

namespace TraceIndex

variable {t : TraceIndex} {l : Ledger} {p : Pair}

theorem setRoot_setRoot (t : TraceIndex) (p : Pair) (root root' : Representative) :
    (t.setRoot p root).setRoot p root' = t.setRoot p root' := by
  rw [setRoot, setRoot, Nested.put_put, setRoot]

/-! ## What recalculation looks for -/

/-- Recalculation looks for the first span whose parent does not have the identifier of any. -/
theorem entryOf?_eq (spans : List SpanRecord) :
    entryOf? spans = (outsiders spans).head?.or spans.head? := by
  rw [outsiders, List.head?_filter]
  refine congrArg (Option.or · spans.head?) (List.find?_congr fun r _ => ?_)
  rw [List.contains_eq_mem, ← decide_not, decide_eq_decide, List.mem_map]
  exact ⟨fun h r' hr' e => h ⟨r', hr', e⟩, fun h ⟨r', hr', e⟩ => h r' hr' e⟩

/-- That is the first span that none of them has called, unless one without an identifier is taken
for the parent of the roots. -/
theorem entryOf?_eq_of_noZero {spans : List SpanRecord}
    (h : (∃ r ∈ spans, r.spanId = .zero) → ∀ r ∈ spans, ¬r.isRoot) :
    entryOf? spans = (spans.find? fun r => ¬r.CalledWithin spans).or spans.head? := by
  rw [entryOf?_eq, outsiders, List.head?_filter]
  refine congrArg (Option.or · spans.head?) (List.find?_congr fun r hr => ?_)
  rw [decide_eq_decide, CalledWithin]
  constructor
  · rintro hnone ⟨-, r', hr', e⟩
    exact hnone r' hr' e
  · intro hcalled r' hr' e
    by_cases hroot : r.isRoot
    · exact h ⟨r', hr', e.trans (SpanRecord.isRoot_iff.mp hroot)⟩ r hr hroot
    · exact hcalled ⟨hroot, r', hr', e⟩

theorem entryOf?_of_outsiders {spans : List SpanRecord} {entry : SpanRecord}
    (h : outsiders spans = [entry]) : entryOf? spans = some entry := by
  rw [entryOf?_eq, h]
  rfl

/-! ## Recalculation -/

theorem recalculate_eq_of_absent (h : t.spansOfPair? p = none) : t.recalculate p = (t, none) := by
  rw [recalculate, h]
  rfl

theorem Represents.recalculate_eq (h : t.Represents l) {spans : List SpanRecord}
    (hspans : t.spansOfPair? p = some spans) :
    ∃ root, entryOf? spans = some root ∧ t.recalculate p = (t.setRoot p (.choose root), some root) := by
  obtain ⟨rfl, hne⟩ := filled_eq_some.mp ((h.spansOfPair? p).symm.trans hspans)
  rcases h.recalculate_cases p with ⟨hnil, -⟩ | ⟨root, -, hroot, e⟩
  · exact absurd hnil hne
  · exact ⟨root, hroot, e⟩

/-- What a recalculation of a pair with some spans does, if it gives back a span. -/
structure Recalculates (t : TraceIndex) (p : Pair) (root : SpanRecord) : Prop where
  representative : (t.recalculate p).1.representative? p = some root
  /-- The representatives of other pairs and all other maps stay as they are. -/
  others : ∀ q ≠ p, (t.recalculate p).1.root? q = t.root? q
  maps : (t.recalculate p).1 =
    { t with representatives := (t.recalculate p).1.representatives }
  /-- A second recalculation changes nothing. -/
  again : (t.recalculate p).1.recalculate p = ((t.recalculate p).1, some root)

theorem Represents.recalculates (h : t.Represents l) {root : SpanRecord}
    (hroot : (t.recalculate p).2 = some root) : Recalculates t p root := by
  have hagain := (h.recalculate p).recalculate_cases p
  rcases h.recalculate_cases p with ⟨-, e⟩ | ⟨r, hr, hentry, e⟩
  · rw [e] at hroot
    cases hroot
  · rw [e] at hroot hagain
    obtain rfl : r = root := Option.some.inj hroot
    constructor
    · rw [e, representative?_setRoot, if_pos rfl]
      rfl
    · intro q hq
      rw [e, root?_setRoot, if_neg (Ne.symm hq)]
    · rw [e]
      rfl
    · rcases hagain with ⟨hnil, -⟩ | ⟨r', -, hentry', e'⟩
      · exact absurd hnil (List.ne_nil_of_mem hr)
      · obtain rfl : r = r' := Option.some.inj (hentry.symm.trans hentry')
        rw [e, e', setRoot_setRoot]

/-- What recalculation does after any history of an index. It gives back nothing and changes
nothing if there are no spans of the pair, and only then. Else it gives back and installs the first
span of the pair whose parent does not have the identifier of a span of the pair, or the oldest one
if there is none; that is the first span that no span of the pair has called, unless the pair has
both a root and a span without an identifier. It changes no other representative and nothing else
in the index, and a second recalculation gives back the same span and changes nothing. -/
theorem run_recalculates (actions : List TraceAction) (p : Pair) :
    let t := run actions
    ((t.recalculate p).2 = none ↔ t.spansOfPair? p = none) ∧
    (t.spansOfPair? p = none → t.recalculate p = (t, none)) ∧
    ∀ spans, t.spansOfPair? p = some spans →
      (t.recalculate p).2 = (outsiders spans).head?.or spans.head? ∧
      (((∃ r ∈ spans, r.spanId = .zero) → ∀ r ∈ spans, ¬r.isRoot) →
        (t.recalculate p).2 = (spans.find? fun r => ¬r.CalledWithin spans).or spans.head?) ∧
      ∃ root ∈ spans, (t.recalculate p).2 = some root ∧ Recalculates t p root := by
  intro t
  have h : t.Represents (Ledger.run actions) := represents_run actions
  refine ⟨⟨fun hnone => ?_, fun habsent => ?_⟩, recalculate_eq_of_absent, fun spans hspans => ?_⟩
  · by_contra hp
    obtain ⟨spans, hspans⟩ := Option.ne_none_iff_exists'.mp hp
    obtain ⟨root, -, e⟩ := h.recalculate_eq hspans
    rw [e] at hnone
    cases hnone
  · rw [recalculate_eq_of_absent habsent]
  · obtain ⟨root, hroot, e⟩ := h.recalculate_eq hspans
    have hsome : (t.recalculate p).2 = some root := congrArg Prod.snd e
    refine ⟨?_, fun hzero => ?_, root, mem_of_entryOf? hroot, hsome, h.recalculates hsome⟩
    · rw [hsome, ← hroot, entryOf?_eq]
    · rw [hsome, ← hroot, entryOf?_eq_of_noZero hzero]

/-- A pair of two spans that call each other and a third one, which is called from elsewhere. -/
theorem run_recalculates_of_cycle :
    let caller := call "web" 1 3 2
    let callee := call "web" 1 2 3
    let entry := call "web" 1 4 9
    let p : Pair := ⟨.ofNat 1, "web"⟩
    let t := run [.insert "web" caller, .insert "web" callee, .insert "web" entry]
    (t.recalculate p).2 = some entry ∧ Recalculates t p entry :=
  have ⟨_, _, hspans⟩ := run_recalculates [.insert "web" (call "web" 1 3 2),
    .insert "web" (call "web" 1 2 3), .insert "web" (call "web" 1 4 9)] ⟨.ofNat 1, "web"⟩
  have ⟨_, hfirst, root, _, hroot, hdoes⟩ := hspans
    [call "web" 1 3 2, call "web" 1 2 3, call "web" 1 4 9] rfl
  have hentry := hfirst (by decide)
  have e : root = call "web" 1 4 9 := Option.some.inj (hroot.symm.trans hentry)
  ⟨hentry, e ▸ hdoes⟩

/-- A span without an identifier is taken for the parent of the root before it, which names none. -/
theorem recalculate_passes_over_root :
    let root := call "web" 1 1 0
    let orphan := call "web" 1 0 9
    let p : Pair := ⟨.ofNat 1, "web"⟩
    let t := run [.insert "web" root, .insert "web" orphan]
    t.spansOfPair? p = some [root, orphan] ∧
      ([root, orphan].find? fun r => ¬r.CalledWithin [root, orphan]) = some root ∧
      (t.recalculate p).2 = some orphan ∧ (t.recalculate p).1.representative? p = some orphan :=
  ⟨rfl, rfl, rfl, rfl⟩

/-! ## Agreement of arrivals with recalculation -/

/-- When the representative that arrivals have left is the one that recalculation chooses. Take a
pair whose latest seeding was no recalculation, so that it has not been recalculated since it was
created, of whose spans every one has an identifier and a single one, the entry, has a parent that
is none of them. Then recalculation chooses the entry, and the representative is the entry already
if and only if the oldest span of the pair is the entry or names the entry as its parent; in that
case recalculation changes no representative. -/
theorem run_agrees_with_recalculation {actions : List TraceAction} (s : Seeding actions p)
    (hs : s.action ≠ .recalculate p) {spans : List SpanRecord} {entry : SpanRecord}
    (hspans : (run actions).spansOfPair? p = some spans) (hids : ∀ r ∈ spans, r.spanId ≠ .zero)
    (hentry : outsiders spans = [entry]) :
    let t := run actions
    (t.recalculate p).2 = some entry ∧
    (t.representative? p = (t.recalculate p).2 ↔
      ∃ oldest, spans.head? = some oldest ∧
        (oldest = entry ∨ oldest.parentSpanId = entry.spanId)) ∧
    (t.representative? p = (t.recalculate p).2 →
      ∀ q, (t.recalculate p).1.representative? q = t.representative? q) := by
  intro t
  have h : t.Represents (Ledger.run actions) := represents_run actions
  obtain ⟨hfiled, -⟩ := filled_eq_some.mp ((h.spansOfPair? p).symm.trans hspans)
  obtain rfl : s.seed :: s.joined = spans := (s.ofPair_of_ne hs).symm.trans hfiled
  have hrep : t.representative? p = some (s.seed.heir s.joined) := s.rules.representative
  obtain ⟨root, hroot, e⟩ := h.recalculate_eq hspans
  obtain rfl : entry = root := Option.some.inj ((entryOf?_of_outsiders hentry).symm.trans hroot)
  have hmem := mem_of_entryOf? hroot
  have hunique : ∀ r ∈ s.seed :: s.joined, r.spanId = entry.spanId → r = entry := fun r hr he =>
    h.eq_of_spanId (hfiled ▸ hr) (hfiled ▸ hmem) he
  refine ⟨congrArg Prod.snd e, ?_, fun hagree q => ?_⟩
  · rw [e, hrep, Option.some_inj, heir_eq_iff hentry (hids entry hmem) hunique]
    simp
  · rw [e, hrep] at hagree
    rw [e, representative?_setRoot]
    split
    · rename_i hq
      rw [← hq, hrep, hagree]
      rfl
    · rfl

/-- A span, two that call each other, and its caller, which is called from elsewhere. -/
theorem run_agrees_with_recalculation_of_child :
    let child := call "web" 1 3 2
    let loop := call "web" 1 5 6
    let pool := call "web" 1 6 5
    let entry := call "web" 1 2 9
    let p : Pair := ⟨.ofNat 1, "web"⟩
    let t := run [.insert "web" child, .insert "web" loop, .insert "web" pool, .insert "web" entry]
    (t.recalculate p).2 = some entry ∧ t.representative? p = some entry :=
  let s : Seeding [.insert "web" (call "web" 1 3 2), .insert "web" (call "web" 1 5 6),
      .insert "web" (call "web" 1 6 5), .insert "web" (call "web" 1 2 9)] ⟨.ofNat 1, "web"⟩ :=
    { before := [], action := .insert "web" (call "web" 1 3 2)
      after := [.insert "web" (call "web" 1 5 6), .insert "web" (call "web" 1 6 5),
        .insert "web" (call "web" 1 2 9)], history := rfl
      seed := call "web" 1 3 2, seeds := rfl, last := ⟨rfl, rfl, rfl, trivial⟩
      early := [call "web" 1 3 2]
      joined := [call "web" 1 5 6, call "web" 1 6 5, call "web" 1 2 9]
      ofPair_seeded := rfl, ofPair := rfl }
  have hzero : ∀ r ∈ [call "web" 1 3 2, call "web" 1 5 6, call "web" 1 6 5, call "web" 1 2 9],
      r.spanId ≠ .zero := by decide
  have ⟨hentry, hagree, _⟩ := run_agrees_with_recalculation s nofun rfl hzero rfl
  ⟨hentry, (hagree.mpr ⟨_, rfl, .inr rfl⟩).trans hentry⟩

end TraceIndex

end Telemetry
