import Telemetry.Proofs.Store.Agreement
import Telemetry.Proofs.Text.Pieces

/-!
# What is shown of what is held

The views of the three shelves are made of what is held by the query, and for spans by the
order. Those of logs and metrics are made anew whenever one of them changes. That of spans is
made anew by some actions (`Action.refilters`) and else keeps its pairs and their places,
while the records of these pairs may be exchanged for others.

* `Finds`, `matchesQuery_eq`: what it means that a record matches a query;
* `latest`: what the last action of some kind has asked for;
* `Shelf.UpToDate`, `SpanShelf.UpToDate`: the view is made of what is held; kept by every action
  on logs and metrics (`Shelf.upToDate_act`), and restored by some (`SpanShelf.upToDate_act`);
* `Shelf.shown_foldl_act`: hence what is shown of logs and metrics after a run;
* `Settled.pairs_shown_foldl`: what the view of spans keeps otherwise;
* `narrowing_filter`, `narrowing_sort`: a narrower query shows part of what a wider one shows;
* `Store.run_projects`: all this for any run of a store.
-/

namespace Telemetry

/-! ## Queries -/

/-- A query occurs in the service and text of a record, with a space in between. -/
def Finds (query service text : String) : Prop :=
  query.toList <:+: (service ++ " " ++ text).toList

instance (query service text : String) : Decidable (Finds query service text) :=
  inferInstanceAs (Decidable (_ <:+: _))

theorem matchesQuery_eq (query service text : String) :
    matchesQuery query service text = decide (Finds query service text) := by
  have htext : (service ++ " " ++ text).toList = service.toList ++ ' ' :: text.toList := by
    rw [String.toList_append, String.toList_append, List.append_assoc]
    rfl
  rw [Bool.eq_iff_iff, decide_eq_true_eq, matchesQuery, Text.occurs_iff, Finds, htext]

/-- What contains a query contains every part of it. -/
theorem Finds.of_infix {part query service text : String} (h : Finds query service text)
    (hpart : part.toList <:+: query.toList) : Finds part service text :=
  hpart.trans h

/-- Everything contains the empty query. -/
theorem finds_empty (service text : String) : Finds "" service text :=
  List.nil_infix

/-- What the last of some actions that ask for something has asked for. -/
def latest {α : Type} (asks : Action → Option α) (start : α) (actions : List Action) : α :=
  (actions.filterMap asks).getLastD start

theorem latest_concat {α : Type} (asks : Action → Option α) (start : α) (actions : List Action)
    (a : Action) :
    latest asks start (actions ++ [a]) = (asks a).getD (latest asks start actions) := by
  rw [latest, latest, List.filterMap_append]
  cases ha : asks a with
  | none => simp [ha]
  | some q => simp [ha]

/-- What every action leaves alone or sets as it asks for is what was asked for last. -/
theorem foldl_latest {σ α : Type} {step : σ → Action → σ} {f : σ → α} {asks : Action → Option α}
    (h : ∀ s a, f (step s a) = (asks a).getD (f s)) (s : σ) (actions : List Action) :
    f (actions.foldl step s) = latest asks (f s) actions := by
  induction actions using List.reverseRecOn with
  | nil => rfl
  | append_singleton actions a ih => rw [List.foldl_concat, h, ih, latest_concat]

/-! ## Logs and metrics -/

/-- The query for logs that an action asks for. -/
def Action.logQuery? : Action → Option String
  | .filterLogs query => some query
  | .flush => some ""
  | _ => none

/-- The query for metrics that an action asks for. -/
def Action.metricQuery? : Action → Option String
  | .filterMetrics query => some query
  | .flush => some ""
  | _ => none

/-- What every action keeps is so after any actions. -/
theorem foldl_keeps {σ : Type} {step : σ → Action → σ} (P : σ → Prop)
    (h : ∀ s a, P s → P (step s a)) {s : σ} (hs : P s) (actions : List Action) :
    P (actions.foldl step s) := by
  induction actions generalizing s with
  | nil => exact hs
  | cons a actions ih => exact ih (h s a hs)

/-- The query that is asked for. -/
def ShelfAction.query? {α : Type} : ShelfAction α → Option String
  | .filter query => some query
  | .flush => some ""
  | .ingest _ => none

/-- The query that an action asks for, by what it does to a shelf. -/
def asked {α : Type} (on? : Action → Option (ShelfAction α)) (a : Action) : Option String :=
  (on? a).bind ShelfAction.query?

theorem asked_onLogs? : asked Action.onLogs? = Action.logQuery? := funext fun a => by
  cases a <;> rfl

theorem asked_onMetrics? : asked Action.onMetrics? = Action.metricQuery? := funext fun a => by
  cases a <;> rfl

namespace Shelf

variable {α ρ ι : Type} {kind : Shelving α ρ ι}

/-- The records that are shown are those of the held ones that match the query. -/
def UpToDate (s : Shelf kind) : Prop :=
  s.shown = s.held.filter (kind.isMatch s.query)

theorem upToDate_act (on? : Action → Option (ShelfAction α)) {s : Shelf kind} (h : s.UpToDate)
    (a : Action) : (s.act on? a).UpToDate := by
  rw [act]
  split
  · rfl
  · rfl
  · rfl
  · exact h

theorem query_act (on? : Action → Option (ShelfAction α)) (s : Shelf kind) (a : Action) :
    (s.act on? a).query = (asked on? a).getD s.query := by
  rw [act, asked]
  cases on? a with
  | none => rfl
  | some action =>
    cases action with
    | ingest groups => exact query_foldl_take s (Group.flatten groups)
    | filter query => rfl
    | flush => rfl

/-- After a run the records are shown that match the query given last, as they are held. -/
theorem shown_foldl_act (kind : Shelving α ρ ι) (on? : Action → Option (ShelfAction α))
    (limit : Nat) (actions : List Action) :
    let s := actions.foldl (act on?) (empty limit : Shelf kind)
    s.shown = s.held.filter (kind.isMatch (latest (asked on?) "" actions)) := by
  intro s
  have hempty : (empty limit : Shelf kind).UpToDate := rfl
  have hview : s.UpToDate := foldl_keeps UpToDate (fun _ a h => upToDate_act on? h a) hempty actions
  have hquery : s.query = latest (asked on?) "" actions := foldl_latest (query_act on?) _ actions
  rw [hview, hquery]

end Shelf

/-! ## Spans -/

/-- Whether the view of spans is made anew. -/
def Action.refilters : Action → Bool
  | .addSpans _ | .filterSpans _ _ | .flush => true
  | _ => false

/-- The query and order for spans that an action asks for. -/
def Action.spanView? : Action → Option (String × SpanOrder)
  | .filterSpans query order => some (query, order)
  | .flush => some ("", .arrival)
  | _ => none

namespace SpanShelf

/-- The spans that are shown are those of the held ones that match the query, in the order. -/
def UpToDate (s : SpanShelf) : Prop :=
  s.shown = s.order.sort (s.held.filter (isMatch s.query))

theorem upToDate_act (s : SpanShelf) {a : Action} (ha : a.refilters) : (s.act a).UpToDate := by
  cases a with
  | addSpans | filterSpans | flush => rfl
  | _ => cases ha

theorem query_take (s : SpanShelf) (a : Arrival Span) :
    ((s.take a).query, (s.take a).order) = (s.query, s.order) := rfl

theorem query_recalculate (s : SpanShelf) (position : Nat) :
    ((s.recalculate position).1.query, (s.recalculate position).1.order) = (s.query, s.order) := by
  rw [recalculate]
  split
  · rfl
  · split <;> rfl

theorem query_act (s : SpanShelf) (a : Action) :
    ((s.act a).query, (s.act a).order) = a.spanView?.getD (s.query, s.order) := by
  cases a with
  | addSpans groups =>
    exact foldl_unchanged (fun s : SpanShelf => (s.query, s.order)) take query_take ..
  | recalculate position => exact query_recalculate s position
  | _ => rfl

variable {s : SpanShelf} {rs : List SpanRecord}

/-- An action that does not make the view of spans anew keeps its pairs in their places. -/
theorem Settled.pairs_shown_act (h : s.Settled rs) {a : Action} (ha : ¬a.refilters) :
    (s.act a).shown.map (·.pair) = s.shown.map (·.pair) := by
  cases a with
  | addSpans | filterSpans | flush => exact absurd rfl ha
  | recalculate position =>
    rw [SpanShelf.act]
    rcases h.recalculate_cases position with ⟨-, e⟩ | ⟨current, root, -, -, -, e⟩
    · rw [e]
    · rw [e]
      exact map_pair_reseat ..
  | _ => rfl

theorem Settled.pairs_shown_foldl (h : s.Settled rs) {actions : List Action}
    (ha : ∀ a ∈ actions, ¬a.refilters) :
    (actions.foldl SpanShelf.act s).shown.map (·.pair) = s.shown.map (·.pair) := by
  induction actions generalizing s rs with
  | nil => rfl
  | cons a actions ih =>
    obtain ⟨hfirst, hrest⟩ := List.forall_mem_cons.mp ha
    obtain ⟨rs', h'⟩ := h.act a
    exact (ih h' hrest).trans (h.pairs_shown_act hfirst)

end SpanShelf

/-! ## Narrower queries -/

section Narrowing

variable {wide narrow : String}

theorem matchesQuery_of_infix (h : wide.toList <:+: narrow.toList) {service text : String}
    (hmatch : matchesQuery narrow service text) : matchesQuery wide service text := by
  rw [matchesQuery_eq, decide_eq_true_eq] at hmatch ⊢
  exact hmatch.of_infix h

theorem matchesQuery_empty (service text : String) : matchesQuery "" service text :=
  (matchesQuery_eq ..).trans (decide_eq_true (finds_empty service text))

/-- A narrower query selects from what a wider one selects. -/
theorem narrowing_filter {α : Type} {p q : α → Bool} (h : ∀ a, q a → p a) (l : List α) :
    l.filter q = (l.filter p).filter q := by
  rw [List.filter_filter]
  refine List.filter_congr fun a _ => ?_
  cases hq : q a with
  | false => rfl
  | true => rw [h a hq, Bool.and_true]

/-- In the same order a narrower query shows part of what a wider one shows. -/
theorem narrowing_sort {p q : SpanRecord → Bool} (h : ∀ r, q r → p r) (order : SpanOrder)
    (l : List SpanRecord) : (order.sort (l.filter q)).Sublist (order.sort (l.filter p)) := by
  rw [narrowing_filter h, order.sort_filter]
  exact List.filter_sublist

end Narrowing

/-! ## Runs of a store -/

/-- What is shown after some actions, of what is held. -/
structure Store.Projects (s : Store) (actions : List Action) : Prop where
  /-- The logs and the metrics that match the query given last, as they are held. -/
  logs : s.logs.shown =
    s.logs.held.filter fun r => Finds (latest Action.logQuery? "" actions) r.service r.log.body
  metrics : s.metrics.shown =
    s.metrics.held.filter fun r => Finds (latest Action.metricQuery? "" actions) r.service r.name
  /-- After an action that makes the view of spans anew: those that match the query given
  last, in the order given last. -/
  spans : (∀ a ∈ actions.getLast?, a.refilters) →
    (latest Action.spanView? ("", .arrival) actions).2.Arranges
      (s.spans.held.filter fun r =>
        Finds (latest Action.spanView? ("", .arrival) actions).1 r.service r.span.name)
      s.spans.shown
  /-- As long as it is not made anew the same pairs stand in the same places. -/
  later : ∀ more : List Action, (∀ a ∈ more, ¬a.refilters) →
    (s.run more).spans.shown.map (·.pair) = s.spans.shown.map (·.pair)
  /-- At any time no pair is shown twice, and a record that is shown is the one that is held of
  its pair and the representative of the pair. -/
  nodup : (s.spans.shown.map (·.pair)).Nodup
  shown : ∀ r ∈ s.spans.shown, r ∈ s.spans.held ∧
    (∀ r' ∈ s.spans.held, r'.pair = r.pair → r' = r) ∧
    s.spans.index.representative? r.pair = some r
  /-- A query that contains another one shows part of what that one shows, in the same order;
  the empty query shows everything. -/
  narrower : ∀ wide narrow : String, wide.toList <:+: narrow.toList →
    (∀ order, (s.filterSpans narrow order).spans.shown.Sublist
      (s.filterSpans wide order).spans.shown) ∧
    (s.filterLogs narrow).logs.shown.Sublist (s.filterLogs wide).logs.shown ∧
    (s.filterMetrics narrow).metrics.shown.Sublist (s.filterMetrics wide).metrics.shown
  everything : (∀ order, (s.filterSpans "" order).spans.shown.Perm s.spans.held) ∧
    (s.filterLogs "").logs.shown = s.logs.held ∧
    (s.filterMetrics "").metrics.shown = s.metrics.held

namespace Store

variable {limits : StoreSettings} {s₀ : Store}

theorem logs_shown_run (h : create limits = .ok s₀) (actions : List Action) :
    (s₀.run actions).logs.shown = (s₀.run actions).logs.held.filter fun r =>
      Finds (latest Action.logQuery? "" actions) r.service r.log.body := by
  rw [eq_empty_of_create h, logs_run, ← asked_onLogs?]
  have hshown := Shelf.shown_foldl_act Shelving.logs Action.onLogs? limits.maxLogs actions
  exact hshown.trans (List.filter_congr fun r _ => matchesQuery_eq ..)

theorem metrics_shown_run (h : create limits = .ok s₀) (actions : List Action) :
    (s₀.run actions).metrics.shown = (s₀.run actions).metrics.held.filter fun r =>
      Finds (latest Action.metricQuery? "" actions) r.service r.name := by
  rw [eq_empty_of_create h, metrics_run, ← asked_onMetrics?]
  have hshown := Shelf.shown_foldl_act Shelving.metrics Action.onMetrics? limits.maxMetrics actions
  exact hshown.trans (List.filter_congr fun r _ => matchesQuery_eq ..)

theorem spans_shown_run (h : create limits = .ok s₀) {actions : List Action}
    (hlast : ∀ a ∈ actions.getLast?, a.refilters) :
    (latest Action.spanView? ("", .arrival) actions).2.Arranges
      ((s₀.run actions).spans.held.filter fun r =>
        Finds (latest Action.spanView? ("", .arrival) actions).1 r.service r.span.name)
      (s₀.run actions).spans.shown := by
  rw [eq_empty_of_create h, spans_run]
  have hview : (actions.foldl SpanShelf.act (empty limits).spans).UpToDate := by
    rcases List.eq_nil_or_concat actions with rfl | ⟨before, a, rfl⟩
    · rfl
    · rw [List.concat_eq_append] at hlast ⊢
      rw [List.foldl_concat]
      exact SpanShelf.upToDate_act _ (hlast a (by rw [List.getLast?_concat]; rfl))
  have hquery : ((actions.foldl SpanShelf.act (empty limits).spans).query,
      (actions.foldl SpanShelf.act (empty limits).spans).order) =
      latest Action.spanView? ("", .arrival) actions :=
    foldl_latest (f := fun s : SpanShelf => (s.query, s.order)) SpanShelf.query_act _ actions
  rw [hview, ← hquery]
  have hfinds : (actions.foldl SpanShelf.act (empty limits).spans).held.filter
      (SpanShelf.isMatch (actions.foldl SpanShelf.act (empty limits).spans).query) = _ :=
    List.filter_congr fun r _ => matchesQuery_eq ..
  rw [← hfinds]
  exact SpanOrder.sort_arranges ..

/-- The views after any run of a store are made of what is held, by the queries and the order
that were given last; a recalculation leaves the pairs that are shown in their places, and
narrowing a query leaves out some of what is shown. -/
theorem run_projects (h : create limits = .ok s₀) (actions : List Action) :
    (s₀.run actions).Projects actions := by
  obtain ⟨rs, hs⟩ := exists_settled_run h actions
  exact {
    logs := logs_shown_run h actions
    metrics := metrics_shown_run h actions
    spans := spans_shown_run h
    later more hmore := by
      rw [spans_run]
      exact hs.pairs_shown_foldl hmore
    nodup := hs.shown_nodup
    shown r hr :=
      have hheld := hs.shown_subset hr
      ⟨hheld, fun r' hr' e => hs.eq_of_pair hr' hheld e, hs.roots r hheld⟩
    narrower wide narrow hpart :=
      ⟨fun order => narrowing_sort (fun _ => matchesQuery_of_infix hpart) order _,
        List.monotone_filter_right _ fun _ => matchesQuery_of_infix hpart,
        List.monotone_filter_right _ fun _ => matchesQuery_of_infix hpart⟩
    everything :=
      ⟨fun order => (order.sort_perm _).trans <| .of_eq <|
          List.filter_eq_self.mpr fun _ _ => matchesQuery_empty ..,
        List.filter_eq_self.mpr fun _ _ => matchesQuery_empty ..,
        List.filter_eq_self.mpr fun _ _ => matchesQuery_empty ..⟩ }

/-- A pair whose representative is chosen anew while it is shown alone of two. -/
theorem run_projects_of_recalculation :
    let actions : List Action := [addSpan "web" 1 3 2, addSpan "web" 1 2 1, addSpan "web" 1 1 0,
      addSpan "api" 2 4 9, .filterSpans "web" .arrival]
    let s := (empty ⟨2, 2, 2⟩).run actions
    create ⟨2, 2, 2⟩ = .ok (empty ⟨2, 2, 2⟩) ∧ s.spans.held.length = 2 ∧
      s.spans.shown.map (·.spanId) = [.ofNat 2] ∧
      (s.run [.recalculate 0]).spans.shown.map (·.spanId) = [.ofNat 1] ∧
      (s.run [.recalculate 0]).spans.shown.map (·.pair) = s.spans.shown.map (·.pair) ∧
      s.Projects actions := by
  intro actions s
  have hprojects : s.Projects actions :=
    run_projects (rfl : create ⟨2, 2, 2⟩ = .ok (empty ⟨2, 2, 2⟩)) actions
  exact ⟨rfl, rfl, rfl, rfl, hprojects.later [.recalculate 0] (by decide), hprojects⟩

end Store

end Telemetry
