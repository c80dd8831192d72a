import Telemetry.Proofs.Store.Settled
import Telemetry.Store.Request

/-!
# Shelf and index agree

What can be observed of the records that shelf and index have in common.

* `SpanShelf.Agrees`: the pairs that are held are those of the index, each held record is
  the representative of its pair, and no span of another pair is in the index;
* `Store.run_agrees`: this is so after any run of a store.
-/

namespace Telemetry

namespace SpanShelf

/-- The shelf and its index tell the same of what there is. -/
structure Agrees (s : SpanShelf) : Prop where
  nodup : s.pairs.Nodup
  /-- The pairs that are held are those that have spans in the index, an error flag, and a
  representative. -/
  spans : ∀ p, (s.index.spansOfPair? p).isSome ↔ p ∈ s.pairs
  errors : ∀ p, (s.index.hasError? p).isSome ↔ p ∈ s.pairs
  representatives : ∀ p, (s.index.representative? p).isSome ↔ p ∈ s.pairs
  /-- A span that can be found, in whichever way, is of a pair that is held. -/
  ofId : ∀ i r, s.index.span? i = some r → r.pair ∈ s.pairs
  ofTrace : ∀ traceId l, s.index.spansOfTrace? traceId = some l → ∀ r ∈ l, r.pair ∈ s.pairs
  ofPair : ∀ p l, s.index.spansOfPair? p = some l → l ≠ [] ∧ ∀ r ∈ l, r.pair = p
  /-- What is held are the very representatives, -/
  held : ∀ r ∈ s.held, s.index.representative? r.pair = some r
  /-- as the numbers tell, which differ between the spans that can be found. -/
  serials : ∀ i j r r', s.index.span? i = some r → s.index.span? j = some r' →
    r.serial = r'.serial → r = r'

variable {s : SpanShelf} {rs : List SpanRecord}

theorem Keeps.filled_ofPair (h : s.Keeps rs) (p : Pair) :
    (filled ((Ledger.own rs).ofPair p)).isSome ↔ p ∈ s.pairs := by
  rw [h.mem_pairs, ← not_iff_not, ← Ledger.ofPair_own_eq_nil, Bool.not_eq_true,
    Option.isSome_eq_false_iff, Option.isNone_iff_eq_none, filled_eq_none]

theorem Keeps.mem_of_span? (h : s.Keeps rs) {i : SpanId} {r : SpanRecord}
    (hr : s.index.span? i = some r) : r ∈ rs := by
  rw [h.index.span?] at hr
  exact Ledger.exists_own.mp (Ledger.mem_of_span? hr).1

theorem Keeps.agrees (h : s.Keeps rs) : s.Agrees where
  nodup := h.nodup_pairs
  spans p := by
    rw [h.index.spansOfPair?]
    exact h.filled_ofPair p
  errors p := by
    rw [h.index.hasError?, Option.isSome_map]
    exact h.filled_ofPair p
  representatives p := by
    rw [TraceIndex.representative?, Option.isSome_map, ← h.filled_ofPair]
    by_cases hp : (Ledger.own rs).ofPair p = []
    · rw [h.index.noRoot p hp, hp]
      rfl
    · obtain ⟨root, hroot, -⟩ := h.index.root p hp
      rw [hroot, filled_of_ne_nil hp]
      exact Iff.rfl
  ofId i r hr := h.mem_pairs.mpr (List.mem_map_of_mem (h.mem_of_span? hr))
  ofTrace traceId l hl r hr := by
    rw [h.index.spansOfTrace?, Ledger.ofTrace_own] at hl
    obtain ⟨rfl, -⟩ := filled_eq_some.mp hl
    exact h.mem_pairs.mpr (List.mem_map_of_mem (List.mem_of_mem_filter hr))
  ofPair p l hl := by
    rw [h.index.spansOfPair?, Ledger.ofPair_own] at hl
    obtain ⟨rfl, hne⟩ := filled_eq_some.mp hl
    exact ⟨hne, fun r hr => of_decide_eq_true (List.mem_filter.mp hr).2⟩
  held := h.roots
  serials i j r r' hr hr' e := h.eq_of_serial (h.mem_of_span? hr) (h.mem_of_span? hr') e

end SpanShelf

namespace Store

variable {limits : StoreSettings} {s₀ : Store}

theorem settled_of_create (h : create limits = .ok s₀) : s₀.spans.Settled [] := by
  rw [eq_empty_of_create h]
  exact SpanShelf.settled_empty limits.maxServiceSpans

theorem exists_settled_run (h : create limits = .ok s₀) (actions : List Action) :
    ∃ rs, (s₀.run actions).spans.Settled rs := by
  rw [spans_run]
  exact SpanShelf.exists_settled_foldl (settled_of_create h) actions

theorem exists_settled_serveAll {s : Store} {rs : List SpanRecord} (h : s.spans.Settled rs)
    (requests : List Request) : ∃ rs', (s.serveAll requests).1.spans.Settled rs' := by
  induction requests generalizing s rs with
  | nil => exact ⟨rs, h⟩
  | cons r rest ih =>
    cases r with
    | act a =>
      obtain ⟨rs', h'⟩ := h.act a
      exact ih (spans_act s a ▸ h')
    | _ => exact ih h

theorem limit_spans_run (h : create limits = .ok s₀) (actions : List Action) :
    (s₀.run actions).spans.limit = limits.maxServiceSpans := by
  rw [eq_empty_of_create h, spans_run]
  exact SpanShelf.limit_foldl_act ..

/-- After any run of a store no more records are held than the limit allows, no two of the
same pair; the pairs are those of the index, where no span of another pair can be found;
and each record that is held is the representative of its pair in the index. -/
theorem run_agrees (h : create limits = .ok s₀) (actions : List Action) :
    (s₀.run actions).spans.held.length ≤ limits.maxServiceSpans ∧
      (s₀.run actions).spans.Agrees := by
  obtain ⟨rs, hs⟩ := exists_settled_run h actions
  exact ⟨limit_spans_run h actions ▸ hs.within, hs.agrees⟩

/-- The action that takes in one span of a service. -/
def addSpan (service : String) (traceId spanId parentSpanId : Nat) : Action :=
  let span : Span :=
    .ofName (.ofNat traceId) (.ofNat spanId) (.ofNat parentSpanId) "call" .epoch .epoch
  .addSpans [⟨.ofServiceName service, [⟨.empty, [span]⟩]⟩]

/-- A parent takes the place of its child, and another service the place of both. -/
theorem run_agrees_of_handover :
    let s := ((empty ⟨1, 1, 1⟩).run
      [addSpan "web" 1 2 1, addSpan "web" 1 1 0, addSpan "api" 1 3 1, .recalculate 0]).spans
    create ⟨1, 1, 1⟩ = .ok (empty ⟨1, 1, 1⟩) ∧ s.pairs = [⟨.ofNat 1, "api"⟩] ∧
      s.held.length ≤ 1 ∧ s.Agrees :=
  ⟨rfl, rfl, run_agrees (rfl : create ⟨1, 1, 1⟩ = .ok (empty ⟨1, 1, 1⟩)) _⟩

end Store

end Telemetry
