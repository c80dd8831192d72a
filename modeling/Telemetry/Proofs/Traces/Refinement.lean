import Telemetry.Proofs.Traces.Represents

/-!
# The index of spans is a ledger

Whatever is done to an index of spans, reading it gives what the ledger gives to which
the same has been done.

* `TraceAction`, `TraceIndex.run`, `Ledger.run`: what can be done, to the one and to the
  other;
* `TraceIndex.represents_run`: the index of a run represents the ledger of the run;
* `TraceIndex.run_reads_ledger`: hence all that can be read of it.
-/

namespace Telemetry

/-- What changes an index of spans. -/
inductive TraceAction where
  | insert (service : String) (r : SpanRecord)
  | delete (records : List SpanRecord)
  | recalculate (p : Pair)
  | flush

/-- The index after an action. -/
def TraceIndex.act (t : TraceIndex) : TraceAction → TraceIndex
  | .insert service r => (t.insert service r).1
  | .delete records => t.delete records
  | .recalculate p => (t.recalculate p).1
  | .flush => t.flush

/-- The ledger after an action. -/
def Ledger.act (l : Ledger) : TraceAction → Ledger
  | .insert service r => l.insert service r
  | .delete records => l.delete records
  | .recalculate _ => l
  | .flush => []

/-- The index that some actions make, one after the other. -/
def TraceIndex.run (actions : List TraceAction) : TraceIndex := actions.foldl act empty

/-- The ledger that some actions make, one after the other. -/
def Ledger.run (actions : List TraceAction) : Ledger := actions.foldl act []

namespace TraceIndex

variable {t : TraceIndex} {l : Ledger}

theorem Represents.act (h : t.Represents l) (a : TraceAction) : (t.act a).Represents (l.act a) := by
  cases a with
  | insert service r => exact h.insert service r
  | delete records => exact h.delete records
  | recalculate p => exact h.recalculate p
  | flush => exact represents_empty

theorem Represents.foldl_act (h : t.Represents l) (actions : List TraceAction) :
    (actions.foldl TraceIndex.act t).Represents (actions.foldl Ledger.act l) := by
  induction actions generalizing t l with
  | nil => exact h
  | cons a actions ih => exact ih (h.act a)

theorem represents_run (actions : List TraceAction) : (run actions).Represents (Ledger.run actions) :=
  represents_empty.foldl_act actions

/-! ## What can be read -/

theorem Represents.hasError?_eq_true (h : t.Represents l) (p : Pair) :
    t.hasError? p = some true ↔ ∃ f ∈ l, f.pair = p ∧ f.record.hasError = true := by
  rw [h.hasError?]
  constructor
  · intro he
    obtain ⟨rs, hrs, he⟩ := Option.map_eq_some_iff.mp he
    obtain ⟨rfl, -⟩ := filled_eq_some.mp hrs
    obtain ⟨r, hr, he⟩ := List.any_eq_true.mp he
    obtain ⟨f, hf, rfl, hp⟩ := Ledger.mem_ofPair.mp hr
    exact ⟨f, hf, hp, he⟩
  · rintro ⟨f, hf, hp, he⟩
    have hm : f.record ∈ l.ofPair p := Ledger.mem_ofPair.mpr ⟨f, hf, rfl, hp⟩
    rw [filled_of_ne_nil (List.ne_nil_of_mem hm), Option.map_some, List.any_eq_true.mpr ⟨_, hm, he⟩]

theorem Represents.hasError?_eq_none (h : t.Represents l) (p : Pair) :
    t.hasError? p = none ↔ ∀ f ∈ l, f.pair ≠ p := by
  rw [h.hasError?, Option.map_eq_none_iff, filled_eq_none, Ledger.ofPair_eq_nil]

theorem Represents.hasError?_eq_false (h : t.Represents l) (p : Pair) :
    t.hasError? p = some false ↔
      (∃ f ∈ l, f.pair = p) ∧ ∀ f ∈ l, f.pair = p → f.record.hasError = false := by
  have htrue := h.hasError?_eq_true p
  have hnone := h.hasError?_eq_none p
  cases he : t.hasError? p with
  | none =>
    have hn := hnone.mp he
    exact ⟨nofun, fun ⟨⟨f, hf, hp⟩, _⟩ => absurd hp (hn f hf)⟩
  | some b =>
    cases b with
    | true =>
      obtain ⟨f, hf, hp, hr⟩ := htrue.mp he
      exact ⟨nofun, fun ⟨_, hall⟩ => by rw [hall f hf hp] at hr; cases hr⟩
    | false =>
      refine ⟨fun _ => ⟨?_, fun f hf hp => ?_⟩, fun _ => rfl⟩
      · by_contra hn
        have : t.hasError? p = none := hnone.mpr fun f hf hp => hn ⟨f, hf, hp⟩
        rw [he] at this
        cases this
      · by_contra hr
        have : t.hasError? p = some true := htrue.mpr ⟨f, hf, hp, by simpa using hr⟩
        rw [he] at this
        cases this

theorem Represents.spanCount_eq (h : t.Represents l) : t.spanCount = l.length := by
  rw [spanCount, size_eq_length t.byId h.nodup fun i => h.isSome_span?, Ledger.ids, List.length_map]

theorem Represents.isEmpty_iff (h : t.Represents l) : t.isEmpty ↔ l = [] := by
  rw [isEmpty, Std.ExtTreeMap.isEmpty_iff, Std.ExtTreeMap.eq_empty_iff_size_eq_zero]
  exact (congrArg (· = 0) h.spanCount_eq).to_iff.trans List.length_eq_zero_iff

/-- The index lists its traces in ascending order, and the spans of each as they came. -/
theorem Represents.iter_eq (h : t.Represents l) :
    ∃ traceIds : List TraceId, traceIds.Pairwise (compare · · = .lt) ∧
      (∀ traceId, traceId ∈ traceIds ↔ l.ofTrace traceId ≠ []) ∧
      t.traceCount = traceIds.length ∧ t.iter = traceIds.flatMap l.ofTrace :=
  ⟨t.byTrace.keys, Std.ExtTreeMap.ordered_keys, fun _ => mem_keys_of_filled h.spansOfTrace?,
    Std.ExtTreeMap.length_keys.symm, flatMap_toList_of_filled h.spansOfTrace?⟩

/-- What can be read of an index after any run of insertions under any services,
deletions, recalculations and flushes is what can be read of the ledger after the same
run: the spans of a trace and those of a pair as they came, and nothing for a trace or a
pair without spans; the one span with an identifier; whether a span of a pair has failed;
a representative for every pair that there is, which is one of its spans; how many spans
and traces there are, and all spans by trace. An insertion tells whether it opened a pair,
and does nothing if the identifier is taken. -/
theorem run_reads_ledger (actions : List TraceAction) :
    let t := run actions
    let l := Ledger.run actions
    (∀ traceId, t.spansOfTrace? traceId = filled (l.ofTrace traceId)) ∧
    (∀ p, t.spansOfPair? p = filled (l.ofPair p)) ∧
    l.ids.Nodup ∧
    (∀ i r, t.span? i = some r ↔ r.spanId = i ∧ ∃ f ∈ l, f.record = r) ∧
    (∀ p, (t.hasError? p = some true ↔ ∃ f ∈ l, f.pair = p ∧ f.record.hasError = true) ∧
      (t.hasError? p = some false ↔
        (∃ f ∈ l, f.pair = p) ∧ ∀ f ∈ l, f.pair = p → f.record.hasError = false) ∧
      (t.hasError? p = none ↔ ∀ f ∈ l, f.pair ≠ p)) ∧
    (∀ p, (l.ofPair p ≠ [] → ∃ r ∈ l.ofPair p, t.representative? p = some r) ∧
      (l.ofPair p = [] → t.representative? p = none)) ∧
    t.spanCount = l.length ∧ (t.isEmpty ↔ l = []) ∧
    (∃ traceIds : List TraceId, traceIds.Pairwise (compare · · = .lt) ∧
      (∀ traceId, traceId ∈ traceIds ↔ l.ofTrace traceId ≠ []) ∧
      t.traceCount = traceIds.length ∧ t.iter = traceIds.flatMap l.ofTrace) ∧
    (∀ service r, (r.spanId ∈ l.ids → t.insert service r = (t, .unchanged)) ∧
      ((t.insert service r).2.isNewPair ↔ r.spanId ∉ l.ids ∧ l.ofPair ⟨r.traceId, service⟩ = [])) := by
  intro t l
  have h : t.Represents l := represents_run actions
  refine ⟨h.spansOfTrace?, h.spansOfPair?, h.nodup, fun i r => ?_,
    fun p => ⟨h.hasError?_eq_true p, h.hasError?_eq_false p, h.hasError?_eq_none p⟩,
    fun p => ⟨fun hp => ?_, fun hp => ?_⟩, h.spanCount_eq, h.isEmpty_iff, h.iter_eq,
    fun service r => ?_⟩
  · rw [h.span?]
    exact ⟨fun e => (Ledger.mem_of_span? e).symm, fun ⟨e, f, hf, hr⟩ =>
      e ▸ hr ▸ Ledger.span?_of_mem h.nodup hf⟩
  · obtain ⟨root, hr, hm⟩ := h.root p hp
    exact ⟨root.span, hm, by rw [representative?, hr]; rfl⟩
  · rw [representative?, h.noRoot p hp]
    rfl
  · rcases h.insert_cases service r with ⟨hi, e⟩ | ⟨hi, hp, e, -⟩ | ⟨hi, hp, root, -, e, -⟩
    · exact ⟨fun _ => e, by simp [e, hi, InsertOutcome.unchanged]⟩
    · exact ⟨fun hi' => absurd hi' hi, by simp [e, hi, hp]⟩
    · exact ⟨fun hi' => absurd hi' hi, by simp [e, hp]⟩

end TraceIndex

end Telemetry
