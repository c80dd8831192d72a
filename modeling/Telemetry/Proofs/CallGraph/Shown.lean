import Mathlib.Data.Fintype.Card
import Telemetry.Proofs.CallGraph.Record
import Telemetry.Proofs.List.Parts
import Telemetry.Proofs.Traces.Refinement

/-!
# The calls that an index of spans shows

A span shows a call if its parent is indexed, under another service.

* `callOf?_eq_some`: which call a span shows;
* `Represents.calls_perm`: the calls of an index are those of its spans, taken by their
  identifiers, whatever the order in which they came;
* `Represents.count_lt`: no count is too large for a word;
* `ofIndex_run_counts`: the graph of an index after any run has an edge for every two
  services between which a call is shown, and counts the spans that show it.
-/

namespace Telemetry

/-- What a span tells of calls: the identifier of its parent, and its own service. -/
def SpanRecord.link (r : SpanRecord) : SpanId × String := (r.parentSpanId, r.service)

/-- There are fewer identifiers of spans than words, leaving one of them out. -/
theorem length_lt_of_nodup_spanIds {ids : List SpanId} (h : ids.Nodup) {i : SpanId} (hi : i ∉ ids) :
    ids.length < 0x10000000000000000 := by
  have hinj : Function.Injective fun i : SpanId => i.value.toFin := fun i j e => by
    cases i
    cases j
    exact congrArg Id.mk (BitVec.toFin_inj.mp e)
  have hle := ((List.nodup_cons.mpr ⟨hi, h⟩).map hinj).length_le_card
  rw [Fintype.card_fin, List.length_map] at hle
  exact hle

namespace TraceIndex

variable {t t' : TraceIndex} {l l' : Ledger}

/-- The span has a parent, and the parent is indexed and belongs to a service. -/
def CalledBy (t : TraceIndex) (caller : String) (r : SpanRecord) : Prop :=
  r.parentSpanId ≠ .zero ∧ ∃ parent ∈ t.span? r.parentSpanId, parent.service = caller

instance (t : TraceIndex) (caller : String) : DecidablePred (t.CalledBy caller) := fun _ =>
  inferInstanceAs (Decidable (_ ∧ _))

theorem callOf?_eq_some {r : SpanRecord} {caller callee : String} :
    t.callOf? r = some (caller, callee) ↔
      caller ≠ callee ∧ r.service = callee ∧ t.CalledBy caller r := by
  rw [callOf?, CalledBy]
  by_cases hr : r.isRoot
  · simp [hr, SpanRecord.isRoot_iff.mp hr]
  · have hne : r.parentSpanId ≠ .zero := fun e => hr (SpanRecord.isRoot_iff.mpr e)
    simp only [if_neg hr, Option.bind_eq_some_iff, Option.mem_def, ne_eq, hne, not_false_eq_true,
      true_and]
    constructor
    · rintro ⟨parent, hp, hcall⟩
      split at hcall
      · cases hcall
      · rename_i hs
        obtain ⟨rfl, rfl⟩ := Prod.mk.inj (Option.some.inj hcall)
        exact ⟨hs, rfl, parent, hp, rfl⟩
    · rintro ⟨hs, rfl, parent, hp, rfl⟩
      exact ⟨parent, hp, if_neg hs⟩

/-- Where two indexes agree on the links of their spans, a span shows the same call. -/
theorem bind_callOf?_congr (h : ∀ i, (t.span? i).map SpanRecord.link = (t'.span? i).map SpanRecord.link)
    (i : SpanId) : (t.span? i).bind t.callOf? = (t'.span? i).bind t'.callOf? := by
  have hcalled : ∀ {t t' : TraceIndex} {r r' : SpanRecord} {caller : String},
      (∀ i, (t.span? i).map SpanRecord.link = (t'.span? i).map SpanRecord.link) → r.link = r'.link →
      t.CalledBy caller r → t'.CalledBy caller r' := by
    rintro t t' r r' caller h e ⟨hne, parent, hp, hc⟩
    obtain ⟨hparent, -⟩ := Prod.mk.inj e
    have hl := h r.parentSpanId
    rw [Option.mem_def.mp hp, hparent, Option.map_some] at hl
    obtain ⟨parent', hp', hl⟩ := Option.map_eq_some_iff.mp hl.symm
    exact ⟨hparent ▸ hne, parent', hp', (Prod.mk.inj hl).2.trans hc⟩
  have hi := h i
  cases hr : t.span? i with
  | none =>
    rw [hr, Option.map_none] at hi
    rw [Option.map_eq_none_iff.mp hi.symm]
    rfl
  | some r =>
    rw [hr, Option.map_some] at hi
    obtain ⟨r', hr', e⟩ := Option.map_eq_some_iff.mp hi.symm
    obtain ⟨-, hservice⟩ := Prod.mk.inj e
    rw [hr']
    refine Option.ext fun call => ?_
    obtain ⟨caller, callee⟩ := call
    rw [Option.bind_some, Option.bind_some, callOf?_eq_some, callOf?_eq_some, hservice]
    exact and_congr_right fun _ => and_congr_right fun _ =>
      ⟨hcalled h e.symm, hcalled (fun i => (h i).symm) e⟩

/-! ## All calls -/

theorem Represents.iter_perm (h : t.Represents l) : t.iter.Perm (l.map (·.record)) := by
  obtain ⟨traceIds, hordered, hmem, -, hiter⟩ := h.iter_eq
  have hnodup : traceIds.Nodup := hordered.imp fun hlt e => by
    rw [e] at hlt
    exact absurd (Std.ReflOrd.compare_self.symm.trans hlt) nofun
  have hkeys : ∀ f ∈ l, f.record.traceId ∈ traceIds := fun f hf =>
    (hmem _).mpr (List.ne_nil_of_mem (Ledger.mem_ofTrace.mpr ⟨f, hf, rfl, rfl⟩))
  have hparts : traceIds.flatMap l.ofTrace =
      (traceIds.flatMap fun i => l.filter fun f => f.record.traceId = i).map (·.record) :=
    List.map_flatMap.symm
  rw [hiter, hparts]
  exact (flatMap_filter_perm hnodup _ hkeys).map _

/-- The calls of an index, by the identifiers of its spans. -/
theorem Represents.calls_perm (h : t.Represents l) :
    t.calls.Perm (l.ids.filterMap fun i => (t.span? i).bind t.callOf?) := by
  have hids : (l.map (·.record)).filterMap t.callOf? =
      l.ids.filterMap fun i => (t.span? i).bind t.callOf? := by
    rw [Ledger.ids, List.filterMap_map, List.filterMap_map]
    refine List.filterMap_congr fun f hf => ?_
    rw [Function.comp_apply, Function.comp_apply, h.span?, Ledger.span?_of_mem h.nodup hf]
    rfl
  rw [← hids]
  exact h.iter_perm.filterMap t.callOf?

theorem Represents.count_calls (h : t.Represents l) {caller callee : String} (hne : caller ≠ callee) :
    t.calls.count (caller, callee) =
      (l.map (·.record)).countP fun r => r.service = callee ∧ t.CalledBy caller r := by
  rw [calls, List.count_filterMap, h.iter_perm.countP_eq]
  refine List.countP_congr fun r _ => ?_
  rw [beq_iff_eq, callOf?_eq_some, decide_eq_true_eq]
  exact and_iff_right hne

theorem Represents.mem_calls (h : t.Represents l) {caller callee : String} :
    (caller, callee) ∈ t.calls ↔
      caller ≠ callee ∧ ∃ r ∈ l.map (·.record), r.service = callee ∧ t.CalledBy caller r := by
  rw [calls, List.mem_filterMap]
  simp only [h.iter_perm.mem_iff, callOf?_eq_some]
  exact ⟨fun ⟨r, hr, hne, hc⟩ => ⟨hne, r, hr, hc⟩, fun ⟨hne, r, hr, hc⟩ => ⟨r, hr, hne, hc⟩⟩

/-- The counts of a graph are words: calls are counted by spans of the service that is
called, and the parent of one of them is a span of another service. -/
theorem Represents.count_lt (h : t.Represents l) {e : CallEdge}
    (he : e ∈ (CallGraph.ofIndex t).edges) : e.count < 0x10000000000000000 := by
  obtain ⟨hcall, hcount⟩ := CallGraph.mem_edges_ofCalls.mp he
  obtain ⟨hne, r, -, -, -, parent, hparent, hcaller⟩ := h.mem_calls.mp hcall
  rw [hcount, CallEdge.ends, h.count_calls hne, List.countP_eq_length_filter,
    ← List.length_map (f := (·.spanId))]
  refine length_lt_of_nodup_spanIds (i := r.parentSpanId) ?_ fun hi => ?_
  · have hids : l.ids = (l.map (·.record)).map (·.spanId) := by
      rw [List.map_map]
      rfl
    exact h.nodup.sublist (hids ▸ List.filter_sublist.map _)
  · obtain ⟨child, hchild, hid⟩ := List.mem_map.mp hi
    obtain ⟨hmem, hcounted⟩ := List.mem_filter.mp hchild
    obtain ⟨f, hf, rfl⟩ := List.mem_map.mp hmem
    have hsame : parent = f.record := by
      rw [Option.mem_def, h.span?, ← hid, Ledger.span?_of_mem h.nodup hf] at hparent
      exact (Option.some.inj hparent).symm
    have hcallee : f.record.service = e.callee := (of_decide_eq_true hcounted).1
    exact hne (hcaller.symm.trans ((congrArg SpanRecord.service hsame).trans hcallee))

/-- Indexes that agree on the links of their spans show the same calls. -/
theorem Represents.calls_perm_of_link (h : t.Represents l) (h' : t'.Represents l')
    (hlink : ∀ i, (t'.span? i).map SpanRecord.link = (t.span? i).map SpanRecord.link) :
    t'.calls.Perm t.calls := by
  have hids : l'.ids.Perm l.ids := by
    refine (List.perm_ext_iff_of_nodup h'.nodup h.nodup).mpr fun i => ?_
    rw [← h'.isSome_span?, ← h.isSome_span?, ← Option.isSome_map (f := SpanRecord.link), hlink i,
      Option.isSome_map]
  calc t'.calls.Perm (l'.ids.filterMap fun i => (t'.span? i).bind t'.callOf?) := h'.calls_perm
    _ = l'.ids.filterMap fun i => (t.span? i).bind t.callOf? := by
        rw [funext (bind_callOf?_congr hlink)]
    List.Perm _ (l.ids.filterMap fun i => (t.span? i).bind t.callOf?) := hids.filterMap _
    List.Perm _ t.calls := h.calls_perm.symm

end TraceIndex

namespace CallGraph

/-- The graph of an index of spans after any run of insertions, deletions, recalculations
and flushes, where the ledger of the run lists the spans that are indexed. There is an edge
from one service to another if they differ and a span of the second one has a parent that
is indexed and belongs to the first one. There is one such edge, and it counts these spans.
No edge leads from a service to itself, and no service is without an edge. The edges stand
in the order in which their calls first occur, the spans taken by ascending trace and as
they came. Any run that leaves spans with the same links under the same identifiers, in
whatever order they came, gives the same edges with the same counts. -/
theorem ofIndex_run_counts (actions : List TraceAction) :
    let t := TraceIndex.run actions
    let l := Ledger.run actions
    let spans := l.map (·.record)
    let g := ofIndex t
    (∀ caller callee, (∃ e ∈ g.edges, e.ends = (caller, callee)) ↔
      caller ≠ callee ∧ ∃ r ∈ spans, r.service = callee ∧ t.CalledBy caller r) ∧
    (g.edges.map CallEdge.ends).Nodup ∧
    (∀ e ∈ g.edges, e.count = spans.countP fun r => r.service = e.callee ∧ t.CalledBy e.caller r) ∧
    (∀ e ∈ g.edges, e.caller ≠ e.callee) ∧
    (∀ s ∈ g.services, ∃ e ∈ g.edges, e.caller = s ∨ e.callee = s) ∧
    (∃ traceIds : List TraceId, traceIds.Pairwise (compare · · = .lt) ∧
      (∀ traceId, traceId ∈ traceIds ↔ l.ofTrace traceId ≠ []) ∧
      g.edges.map CallEdge.ends =
        ((traceIds.flatMap l.ofTrace).filterMap t.callOf?).eraseDups) ∧
    (∀ actions', (∀ i, ((TraceIndex.run actions').span? i).map SpanRecord.link =
        (t.span? i).map SpanRecord.link) →
      (ofIndex (TraceIndex.run actions')).edges.Perm g.edges) := by
  intro t l spans g
  have h : t.Represents l := TraceIndex.represents_run actions
  have hends : g.edges.map CallEdge.ends = t.calls.eraseDups := ends_ofCalls t.calls
  have hcall : ∀ e ∈ g.edges, e.ends ∈ t.calls := fun e he => (mem_edges_ofCalls.mp he).1
  have hdiffer : ∀ e ∈ g.edges, e.caller ≠ e.callee := fun e he =>
    (h.mem_calls.mp (hcall e he)).1
  refine ⟨fun caller callee => ?_, nodup_ends_ofCalls t.calls, fun e he => ?_, hdiffer,
    fun s hs => exists_edge_of_mem_services hs, ?_, fun actions' hlink => ?_⟩
  · rw [← List.mem_map, hends, List.mem_eraseDups]
    exact h.mem_calls
  · rw [(mem_edges_ofCalls.mp he).2]
    exact h.count_calls (hdiffer e he)
  · obtain ⟨traceIds, hordered, hmem, -, hiter⟩ := h.iter_eq
    refine ⟨traceIds, hordered, hmem, ?_⟩
    rw [hends, TraceIndex.calls, hiter]
  · exact edges_perm (h.calls_perm_of_link (TraceIndex.represents_run actions') hlink)

end CallGraph

end Telemetry
