import Telemetry.Proofs.Store.Flush

/-!
# Spans that are delivered again

A span whose identifier is in the index is not taken in again, wherever and with whatever contents
it came first. As long as nothing is dropped the identifiers in the index only become more, so
those of a batch stay in it.

* `Store.Lossless`: requests that drop nothing, neither by a flush nor by a rotation;
* `Settled.act_of_lossless`, `exists_settled_of_lossless`: the records are then kept, with those
  that are added;
* `Settled.ingest_of_known`: a batch of known spans changes nothing but the view;
* `Store.Absorbs`, `Store.serveAll_absorbs`: spans that are delivered again after such requests.
-/

namespace Telemetry

namespace SpanShelf

variable {s : SpanShelf} {rs : List SpanRecord}

/-- The records beyond the limit at the end of a batch, whose pairs are dropped. -/
def dropped (s : SpanShelf) (groups : List (Group Span)) : List SpanRecord :=
  overflow s.limit ((Group.flatten groups).foldl take s).held

/-- Whether an action drops records. -/
def drops (s : SpanShelf) : Action → Bool
  | .addSpans groups => !(s.dropped groups).isEmpty
  | .flush => true
  | _ => false

/-! ## Nothing is dropped -/

theorem rotate_of_length_le (h : s.held.length ≤ s.limit) : s.rotate = s := by
  rw [rotate, overflow_eq_nil.mpr h, retained_of_length_le h]
  rfl

theorem Settled.ingest_of_lossless (h : s.Settled rs) {groups : List (Group Span)}
    (hnone : s.dropped groups = []) : (s.ingest groups).Settled (rs ++ s.fresh groups) := by
  have hwithin : ((Group.flatten groups).foldl SpanShelf.take s).held.length ≤
      ((Group.flatten groups).foldl SpanShelf.take s).limit :=
    (limit_foldl_take s _).symm ▸ overflow_eq_nil.mp hnone
  rw [SpanShelf.ingest, rotate_of_length_le hwithin]
  exact (h.foldl_take groups).refresh hwithin

/-- An action that drops nothing keeps all records, and may add some. -/
theorem Settled.act_of_lossless (h : s.Settled rs) {a : Action} (ha : s.drops a = false) :
    ∃ more, (s.act a).Settled (rs ++ more) := by
  have hsame {s' : SpanShelf} (h' : s'.Settled rs) : ∃ more, s'.Settled (rs ++ more) :=
    ⟨[], (List.append_nil rs).symm ▸ h'⟩
  cases a with
  | addSpans groups =>
    have hnone : s.dropped groups = [] := by simpa [drops] using ha
    exact ⟨s.fresh groups, h.ingest_of_lossless hnone⟩
  | filterSpans query order => exact hsame (h.filter query order)
  | recalculate position => exact hsame (h.recalculate position)
  | flush => cases ha
  | addLogs | addMetrics | filterLogs | filterMetrics => exact hsame h

/-! ## Known spans -/

/-- The identifiers of all spans of some groups are those of some records. -/
def Known (rs : List SpanRecord) (groups : List (Group Span)) : Prop :=
  ∀ a ∈ Group.flatten groups, a.record.spanId ∈ rs.map (·.spanId)

/-- The shelf with some more spans counted. -/
def counted (s : SpanShelf) (n : Nat) : SpanShelf := { s with nextSerial := s.nextSerial + n }

theorem Keeps.counted (h : s.Keeps rs) (n : Nat) : (s.counted n).Keeps rs :=
  ⟨h.index, h.pairs, h.roots, h.serials, fun r hr => Nat.lt_add_right n (h.serials_lt r hr)⟩

/-- A known span is counted, and nothing else. -/
theorem Keeps.take_of_known (h : s.Keeps rs) {a : Arrival Span}
    (ha : a.record.spanId ∈ rs.map (·.spanId)) : s.take a = s.counted 1 := by
  rcases h.held_take a with ⟨-, hindex, hheld⟩ | ⟨hnew, -⟩ | ⟨hnew, -⟩
  · calc s.take a
        = { s.counted 1 with index := (s.take a).index, held := (s.take a).held } := rfl
      _ = s.counted 1 := by rw [hindex, hheld, SpanShelf.counted]
  · exact absurd ha hnew
  · exact absurd ha hnew

theorem Keeps.foldl_take_of_known (h : s.Keeps rs) {arrivals : List (Arrival Span)}
    (harrivals : ∀ a ∈ arrivals, a.record.spanId ∈ rs.map (·.spanId)) :
    arrivals.foldl SpanShelf.take s = s.counted arrivals.length := by
  induction arrivals generalizing s with
  | nil => rfl
  | cons a arrivals ih =>
    obtain ⟨ha, hrest⟩ := List.forall_mem_cons.mp harrivals
    rw [List.foldl_cons, h.take_of_known ha, ih (h.counted 1) hrest, SpanShelf.counted,
      SpanShelf.counted, SpanShelf.counted, List.length_cons, Nat.add_assoc, Nat.add_comm 1]

/-- A batch of known spans changes nothing but the view, which is made anew. -/
theorem Settled.ingest_of_known (h : s.Settled rs) {groups : List (Group Span)}
    (hknown : Known rs groups) :
    ∃ n, s.ingest groups = (s.counted n).refresh ∧ (s.ingest groups).Settled rs := by
  have htake := h.foldl_take_of_known hknown
  have hingest : s.ingest groups = (s.counted (Group.flatten groups).length).refresh := by
    rw [SpanShelf.ingest, htake, rotate_of_length_le]
    exact h.within
  exact ⟨_, hingest, hingest ▸ (h.counted _).refresh h.within⟩

end SpanShelf

namespace Store

/-! ## Requests that drop nothing -/

/-- Whether a request drops spans. -/
def drops (s : Store) : Request → Bool
  | .act a => s.spans.drops a
  | _ => false

/-- No request drops spans: there is no flush, and no pair goes beyond the limit. -/
def Lossless (s : Store) : List Request → Prop
  | [] => True
  | r :: rest => s.drops r = false ∧ (s.serve r).1.Lossless rest

instance decidableLossless (s : Store) : (requests : List Request) → Decidable (s.Lossless requests)
  | [] => isTrue trivial
  | r :: rest =>
    have := decidableLossless (s.serve r).1 rest
    inferInstanceAs (Decidable (_ ∧ _))

variable {limits : StoreSettings} {s s' s'' s₀ : Store} {rs : List SpanRecord}

/-- By induction along the requests: the records before them are the oldest of those after them. -/
theorem exists_settled_of_lossless (h : s.spans.Settled rs) {requests : List Request}
    (hl : s.Lossless requests) :
    ∃ more, (s.serveAll requests).1.spans.Settled (rs ++ more) := by
  induction requests generalizing s rs with
  | nil => exact ⟨[], (List.append_nil rs).symm ▸ h⟩
  | cons r rest ih =>
    obtain ⟨hfirst, hrest⟩ := hl
    cases r with
    | act a =>
      obtain ⟨more, h'⟩ := h.act_of_lossless hfirst
      obtain ⟨more', h''⟩ := ih (spans_act s a ▸ h') hrest
      exact ⟨more ++ more', List.append_assoc .. ▸ h''⟩
    | _ => exact ih h hrest

/-! ## Deliveries -/

/-- What is left of a store after spans that were known to it: all that it had, with a view that is
made anew. -/
structure Absorbs (s s' : Store) : Prop where
  index : s'.spans.index = s.spans.index
  held : s'.spans.held = s.spans.held
  shown : s'.spans.shown = s.spans.order.sort (s.spans.held.filter (SpanShelf.isMatch s.spans.query))
  /-- Beside the view only the count of spans and the revision have changed. -/
  others : s' = { s with
    spans := { s.spans with shown := s'.spans.shown, nextSerial := s'.spans.nextSerial }
    revision := s'.revision }

theorem Absorbs.trans (h : s.Absorbs s') (h' : s'.Absorbs s'') : s.Absorbs s'' := by
  obtain ⟨-, -, -, hs⟩ := h
  obtain ⟨hindex, hheld, hshown, hs'⟩ := h'
  rw [hs] at hindex hheld hshown hs'
  exact ⟨hindex, hheld, hshown, hs'⟩

theorem absorbs_addSpans (h : s.spans.Settled rs) {groups : List (Group Span)}
    (hknown : SpanShelf.Known rs groups) :
    s.Absorbs (s.addSpans groups) ∧ (s.addSpans groups).spans.Settled rs := by
  obtain ⟨n, hingest, h'⟩ := h.ingest_of_known hknown
  refine ⟨?_, h'⟩
  rw [addSpans, hingest]
  exact ⟨rfl, rfl, rfl, rfl⟩

/-- The requests that deliver some batches. -/
def deliveries (batches : List (List (Group Span))) : List Request :=
  batches.map fun groups => .act (.addSpans groups)

theorem absorbs_deliveries (h : s.spans.Settled rs) {batches : List (List (Group Span))}
    (hne : batches ≠ []) (hknown : ∀ groups ∈ batches, SpanShelf.Known rs groups) :
    s.Absorbs (s.serveAll (deliveries batches)).1 := by
  induction batches generalizing s with
  | nil => exact absurd rfl hne
  | cons groups rest ih =>
    obtain ⟨hfirst, hrest⟩ := List.forall_mem_cons.mp hknown
    obtain ⟨habsorbs, h'⟩ := absorbs_addSpans h hfirst
    by_cases hlast : rest = []
    · rw [hlast]
      exact habsorbs
    · exact habsorbs.trans (ih h' hlast hrest)

/-- Spans that are delivered again do no harm, as long as nothing is dropped. Take any state of a
store, a batch of spans, and any requests that follow it, and let none of them flush the store or
drop a pair. Deliver then, in one batch or more, spans with identifiers of that batch only: all of
them or some, in whatever groups and order. The index and the records that are held stay exactly as
they were, and the view is made anew of what is held. -/
theorem serveAll_absorbs (h : create limits = .ok s₀) (before : List Request)
    (groups : List (Group Span)) (more : List Request) :
    let s := (s₀.serveAll before).1
    let t := (s.serveAll (.act (.addSpans groups) :: more)).1
    s.Lossless (.act (.addSpans groups) :: more) →
    ∀ batches ≠ [], (∀ groups' ∈ batches, ∀ a ∈ Group.flatten groups',
        a.record.spanId ∈ (Group.flatten groups).map (·.record.spanId)) →
      t.Absorbs (t.serveAll (deliveries batches)).1 := by
  intro s t hl batches hne hagain
  obtain ⟨rs, hs⟩ := exists_settled_serveAll (settled_of_create h) before
  obtain ⟨hfirst, hmore⟩ := hl
  have hnone : s.spans.dropped groups = [] := by
    simpa [drops, SpanShelf.drops] using hfirst
  obtain ⟨later, ht⟩ := exists_settled_of_lossless (hs.ingest_of_lossless hnone) hmore
  -- after the batch its identifiers are those of some records, and these are kept
  refine absorbs_deliveries ht hne fun groups' hgroups' a ha => ?_
  have hid := (hs.mem_ids_append_fresh groups).mpr (.inr (hagain groups' hgroups' a ha))
  rw [List.map_append]
  exact List.mem_append_left _ hid

/-- A batch with a span that is known from elsewhere, then the parent of another, which takes its
place and is chosen again. All spans of the batch come again, in two batches and in other groups. -/
theorem serveAll_absorbs_of_regrouped :
    let span (spanId parentSpanId : Nat) : Span :=
      .ofName (.ofNat 1) (.ofNat spanId) (.ofNat parentSpanId) "call" .epoch .epoch
    let group (service : String) (spans : List Span) : Group Span :=
      ⟨.ofServiceName service, [⟨.empty, spans⟩]⟩
    let groups := [group "web" [span 2 1, span 4 2], group "api" [span 3 2]]
    let more : List Request := [.act (addSpan "web" 1 1 0), .act (.filterSpans "web" .arrival),
      .act (.recalculate 0), .ask .shownSpans]
    let batches := [[group "web" [span 3 2]], [group "api" [span 4 2], group "web" [span 2 1]]]
    let s := ((empty ⟨3, 3, 3⟩).serveAll [.act (addSpan "db" 1 4 3)]).1
    let t := (s.serveAll (.act (.addSpans groups) :: more)).1
    create ⟨3, 3, 3⟩ = .ok (empty ⟨3, 3, 3⟩) ∧ s.Lossless (.act (.addSpans groups) :: more) ∧
      t.spans.held.map (·.spanId) = [.ofNat 4, .ofNat 1, .ofNat 3] ∧
      t.Absorbs (t.serveAll (deliveries batches)).1 := by
  intro span group groups more batches s t
  have hcreate : create ⟨3, 3, 3⟩ = .ok (empty ⟨3, 3, 3⟩) := rfl
  have hl : s.Lossless (.act (.addSpans groups) :: more) := by decide +kernel
  have hids : ∀ groups' ∈ batches, ∀ a ∈ Group.flatten groups',
      a.record.spanId ∈ (Group.flatten groups).map (·.record.spanId) := by decide
  have habsorbs := serveAll_absorbs hcreate [.act (addSpan "db" 1 4 3)] groups more hl batches nofun
    hids
  exact ⟨hcreate, hl, by decide +kernel, habsorbs⟩

end Store

end Telemetry
