import Telemetry.Proofs.Store.Agreement

/-!
# Rotation of spans

What a batch of spans does to the pairs on the shelf and to the index.

* `SpanShelf.opened`: the pairs that a batch opens;
* `SpanShelf.Rotation`: the newest pairs within the limit stay, each with its former spans
  and the fresh ones, and of the other pairs nothing is left;
* `Settled.pairs_foldl_act`: the pairs after a run without a flush are the newest of those
  before and all that its batches opened, so none ever changes its place;
* `Store.run_rotates`: all of this in any state of a store.
-/

namespace Telemetry

namespace SpanShelf

/-- The pairs that a batch opens, in the order of their first spans that are taken in. -/
def opened (s : SpanShelf) (groups : List (Group Span)) : List Pair :=
  (((s.fresh groups).map (·.pair)).filter fun p => p ∉ s.pairs).eraseDups

/-- The pairs that an action opens. -/
def openedBy (s : SpanShelf) : Action → List Pair
  | .addSpans groups => s.opened groups
  | _ => []

/-- The pairs that some actions open one after the other. A pair that was dropped in
between can be opened again. -/
def openedIn (s : SpanShelf) : List Action → List Pair
  | [] => []
  | a :: rest => s.openedBy a ++ (s.act a).openedIn rest

/-- How the shelf `s'` comes from `s` by a batch, if no more pairs than `limit` are
retained. -/
structure Rotation (limit : Nat) (s : SpanShelf) (groups : List (Group Span)) (s' : SpanShelf) :
    Prop where
  pairs : s'.pairs = (s.pairs ++ s.opened groups).rtake limit
  /-- A pair that is retained has its former spans and then the fresh ones. -/
  ofPair : ∀ p ∈ s'.pairs, s'.index.spansOfPair? p =
    some ((s.index.spansOfPair? p).getD [] ++ (s.fresh groups).filter fun r => r.pair = p)
  /-- So has a trace, of the pairs that are retained. -/
  ofTrace : ∀ traceId, s'.index.spansOfTrace? traceId =
    filled (((s.index.spansOfTrace? traceId).getD [] ++
      (s.fresh groups).filter fun r => r.traceId = traceId).filter fun r => r.pair ∈ s'.pairs)
  ofId : ∀ i r, s'.index.span? i = some r ↔
    r.spanId = i ∧ r.pair ∈ s'.pairs ∧ (s.index.span? i = some r ∨ r ∈ s.fresh groups)
  /-- Of a pair that is not retained nothing is left. -/
  gone : ∀ p ∉ s'.pairs, s'.index.spansOfPair? p = none ∧ s'.index.hasError? p = none ∧
    s'.index.representative? p = none
  /-- None of its spans can be found any more, and their identifiers are free. -/
  goneSpan : ∀ r, r.pair ∉ s'.pairs →
    (∀ i, s'.index.span? i ≠ some r) ∧
    (∀ traceId l, s'.index.spansOfTrace? traceId = some l → r ∉ l) ∧
    (s.index.span? r.spanId = some r ∨ r ∈ s.fresh groups → s'.index.span? r.spanId = none)

variable {s : SpanShelf} {rs : List SpanRecord}

/-! ## What is read of the records that are kept -/

theorem Keeps.span?_eq_some (h : s.Keeps rs) {i : SpanId} {r : SpanRecord} :
    s.index.span? i = some r ↔ r.spanId = i ∧ r ∈ rs := by
  constructor
  · intro hr
    refine ⟨?_, h.mem_of_span? hr⟩
    rw [h.index.span?] at hr
    exact (Ledger.mem_of_span? hr).2
  · rintro ⟨rfl, hr⟩
    rw [h.index.span?]
    exact Ledger.span?_of_mem h.index.nodup (f := ⟨r.service, r⟩) (List.mem_map_of_mem hr)

theorem Keeps.getD_ofPair (h : s.Keeps rs) (p : Pair) :
    (s.index.spansOfPair? p).getD [] = rs.filter fun r => r.pair = p := by
  rw [h.index.spansOfPair?, getD_filled, Ledger.ofPair_own]

theorem Keeps.getD_ofTrace (h : s.Keeps rs) (traceId : TraceId) :
    (s.index.spansOfTrace? traceId).getD [] = rs.filter fun r => r.traceId = traceId := by
  rw [h.index.spansOfTrace?, getD_filled, Ledger.ofTrace_own]

/-! ## One batch -/

theorem Keeps.pairs_foldl_take (h : s.Keeps rs) (groups : List (Group Span)) :
    ((Group.flatten groups).foldl SpanShelf.take s).pairs = s.pairs ++ s.opened groups := by
  rw [(h.foldl_take groups).pairs, List.map_append, List.eraseDups_append, ← h.pairs]
  refine congrArg (fun l => s.pairs ++ List.eraseDups l) (List.filter_congr fun p _ => ?_)
  rw [List.elem_eq_mem, ← decide_not]
  exact decide_eq_decide.mpr (not_congr h.mem_pairs.symm)

/-- The records of a pair among those of some pairs. -/
theorem filter_pair_of_mem {ps : List Pair} {p : Pair} (hp : p ∈ ps) (l : List SpanRecord) :
    ((l.filter fun r => r.pair ∈ ps).filter fun r => r.pair = p) = l.filter fun r => r.pair = p := by
  rw [List.filter_filter]
  refine List.filter_congr fun r _ => ?_
  by_cases e : r.pair = p
  · simp [e, hp]
  · simp [e]

section

variable (h : s.Settled rs) (groups : List (Group Span))
include h

theorem Settled.span?_ingest (i : SpanId) (r : SpanRecord) :
    (s.ingest groups).index.span? i = some r ↔
      r.spanId = i ∧ r.pair ∈ (s.ingest groups).pairs ∧
        (s.index.span? i = some r ∨ r ∈ s.fresh groups) := by
  rw [(h.ingest groups).span?_eq_some, h.span?_eq_some, List.mem_filter, List.mem_append,
    decide_eq_true_eq]
  exact ⟨fun ⟨e, hr, hp⟩ => ⟨e, hp, hr.imp_left fun hr => ⟨e, hr⟩⟩,
    fun ⟨e, hp, hr⟩ => ⟨e, hr.imp_left And.right, hp⟩⟩

theorem Settled.ofPair_ingest {p : Pair} (hp : p ∈ (s.ingest groups).pairs) :
    (s.ingest groups).index.spansOfPair? p =
      some ((s.index.spansOfPair? p).getD [] ++ (s.fresh groups).filter fun r => r.pair = p) := by
  have h' := h.ingest groups
  have hne := (h'.filled_ofPair p).mpr hp
  rw [h'.index.spansOfPair?, h.getD_ofPair, ← List.filter_append]
  rw [Ledger.ofPair_own, filter_pair_of_mem hp] at hne ⊢
  obtain ⟨l, hl⟩ := Option.isSome_iff_exists.mp hne
  rw [hl, (filled_eq_some.mp hl).1]

theorem Settled.ofTrace_ingest (traceId : TraceId) :
    (s.ingest groups).index.spansOfTrace? traceId =
      filled (((s.index.spansOfTrace? traceId).getD [] ++
        (s.fresh groups).filter fun r => r.traceId = traceId).filter
          fun r => r.pair ∈ (s.ingest groups).pairs) := by
  rw [(h.ingest groups).index.spansOfTrace?, h.getD_ofTrace, ← List.filter_append,
    Ledger.ofTrace_own, List.filter_filter, List.filter_filter]
  refine congrArg filled (List.filter_congr fun r _ => Bool.and_comm ..)

/-- The identifiers of spans that are not retained are free again. -/
theorem Settled.span?_ingest_eq_none {r : SpanRecord} (hp : r.pair ∉ (s.ingest groups).pairs)
    (hr : s.index.span? r.spanId = some r ∨ r ∈ s.fresh groups) :
    (s.ingest groups).index.span? r.spanId = none := by
  have hall := h.foldl_take groups
  have hm : r ∈ rs ++ s.fresh groups :=
    List.mem_append.mpr (hr.imp_left fun hr => (h.span?_eq_some.mp hr).2)
  refine Option.eq_none_iff_forall_ne_some.mpr fun r' hr' => ?_
  obtain ⟨e, hp', hr'⟩ := (h.span?_ingest groups _ _).mp hr'
  have hm' : r' ∈ rs ++ s.fresh groups :=
    List.mem_append.mpr (hr'.imp_left fun hr => (h.span?_eq_some.mp hr).2)
  rw [hall.eq_of_spanId hm' hm e] at hp'
  exact hp hp'

theorem Settled.rotation : Rotation s.limit s groups (s.ingest groups) where
  pairs := by rw [pairs_ingest, h.pairs_foldl_take, retained_eq_rtake]
  ofPair _ hp := h.ofPair_ingest groups hp
  ofTrace := h.ofTrace_ingest groups
  ofId := h.span?_ingest groups
  gone p hp := by
    have ha := (h.ingest groups).agrees
    have hnone {β : Type} {o : Option β} (ho : o.isSome ↔ p ∈ (s.ingest groups).pairs) : o = none :=
      Option.not_isSome_iff_eq_none.mp fun hs => hp (ho.mp hs)
    exact ⟨hnone (ha.spans p), hnone (ha.errors p), hnone (ha.representatives p)⟩
  goneSpan r hp := by
    have ha := (h.ingest groups).agrees
    exact ⟨fun i hr => hp (ha.ofId i r hr), fun traceId l hl hr => hp (ha.ofTrace traceId l hl r hr),
      h.span?_ingest_eq_none groups hp⟩

end

/-! ## A run without a flush -/

theorem Settled.retained_pairs (h : s.Settled rs) : retained s.limit s.pairs = s.pairs :=
  retained_of_length_le ((List.length_map ..).trans_le h.within)

theorem Settled.pairs_act (h : s.Settled rs) {a : Action} (hf : a ≠ .flush) :
    (s.act a).pairs = retained s.limit (s.pairs ++ s.openedBy a) := by
  have hsame : s.pairs = retained s.limit (s.pairs ++ []) := by
    rw [List.append_nil, h.retained_pairs]
  cases a with
  | addSpans groups => exact (h.rotation groups).pairs
  | recalculate position => exact (h.pairs_recalculate position).trans hsame
  | flush => exact absurd rfl hf
  | _ => exact hsame

theorem Settled.pairs_foldl_act (h : s.Settled rs) {actions : List Action}
    (hf : Action.flush ∉ actions) :
    (actions.foldl SpanShelf.act s).pairs = retained s.limit (s.pairs ++ s.openedIn actions) := by
  induction actions generalizing s rs with
  | nil => rw [openedIn, List.append_nil, h.retained_pairs, List.foldl_nil]
  | cons a actions ih =>
    have ha : a ≠ .flush := fun e => hf (e ▸ List.mem_cons_self)
    obtain ⟨rs', h'⟩ := h.act a
    rw [List.foldl_cons, ih h' fun hm => hf (List.mem_cons_of_mem _ hm), limit_act, h.pairs_act ha,
      retained_retained_append, List.append_assoc, openedIn]

end SpanShelf

namespace Store

variable {limits : StoreSettings} {s₀ : Store}

/-- In any state of a store, a batch of spans retains the newest pairs within the limit, of
those there were and those it opens, and drops the others with all that is known of them; no
other action changes the pairs, except a flush, after which there are none. So over a run
without a flush the pairs are the newest of those there were and all that were opened. -/
theorem run_rotates (h : create limits = .ok s₀) (actions : List Action) :
    let s := s₀.run actions
    (∀ groups, SpanShelf.Rotation limits.maxServiceSpans s.spans groups
      (s.act (.addSpans groups)).1.spans) ∧
    (∀ a, (∀ groups, a ≠ .addSpans groups) → a ≠ .flush →
      (s.act a).1.spans.pairs = s.spans.pairs) ∧
    (s.act .flush).1.spans.pairs = [] ∧
    ∀ more, .flush ∉ more →
      (s.run more).spans.pairs =
        (s.spans.pairs ++ s.spans.openedIn more).rtake limits.maxServiceSpans := by
  intro s
  obtain ⟨rs, hs⟩ := exists_settled_run h actions
  have hlimit := limit_spans_run h actions
  refine ⟨fun groups => ?_, fun a ha hf => ?_, rfl, fun more hf => ?_⟩
  · exact hlimit ▸ hs.rotation groups
  · have hnone : s.spans.openedBy a = [] := by
      cases a with
      | addSpans groups => exact absurd rfl (ha groups)
      | _ => rfl
    rw [spans_act, hs.pairs_act hf, hnone, List.append_nil, hs.retained_pairs]
  · rw [spans_run, hs.pairs_foldl_act hf, hlimit, retained_eq_rtake]

/-- A batch of a second service, where there is room for one. -/
theorem run_rotates_of_handover :
    let s := (empty ⟨1, 1, 1⟩).run [addSpan "web" 1 2 1, addSpan "web" 1 1 0]
    let groups : List (Group Span) :=
      [⟨.ofServiceName "api", [⟨.empty, [.ofName (.ofNat 1) (.ofNat 3) (.ofNat 1) "call" .epoch .epoch]⟩]⟩]
    create ⟨1, 1, 1⟩ = .ok (empty ⟨1, 1, 1⟩) ∧ s.spans.pairs = [⟨.ofNat 1, "web"⟩] ∧
      s.spans.opened groups = [⟨.ofNat 1, "api"⟩] ∧
      SpanShelf.Rotation 1 s.spans groups (s.act (.addSpans groups)).1.spans :=
  ⟨rfl, rfl, rfl, (run_rotates (rfl : create ⟨1, 1, 1⟩ = .ok (empty ⟨1, 1, 1⟩)) _).1 _⟩

end Store

end Telemetry
