import Telemetry.Proofs.Index.Logs
import Telemetry.Proofs.Index.Metrics
import Telemetry.Proofs.Store.Arrivals
import Telemetry.Proofs.Store.View

/-!
# Retention of logs and metrics

Of all logs and metrics that come in, the newest are held within the limit, and what is
held is in the index. How they were divided into batches makes no difference.

* `Shelving.Indexes`: what the index of a shelf does, said by the records that are held;
* `Shelf.Retains`: shelf and index, from the records since the last flush; kept by every
  action (`Retains.act`), and no other shelf within the limit is like it (`Retains.unique`);
* `LogShelf.Newest`, `MetricShelf.Newest`: what can be read of shelf and index;
* `Store.run_retains_newest`: what can be read after any run of a store.
-/

namespace Telemetry

/-! ## Shelves -/

variable {α ρ ι : Type} {kind : Shelving α ρ ι} {indexes : ι → List ρ → Prop}

/-- An index of the records of a kind is kept by insertions and by the deletion of the oldest
ones, and is known by the records that it indexes. -/
structure Shelving.Indexes (kind : Shelving α ρ ι) (indexes : ι → List ρ → Prop) : Prop where
  empty : indexes kind.empty []
  insert {x : ι} {held : List ρ} : indexes x held → ∀ r, indexes (kind.insert x r) (held ++ [r])
  delete {x : ι} {evicted kept : List ρ} :
    indexes x (evicted ++ kept) → indexes (kind.delete x evicted) kept
  flush (x : ι) : indexes (kind.flush x) []
  unique {x y : ι} {held : List ρ} : indexes x held → indexes y held → x = y

namespace Shelf

/-- The newest of all records are held, and they are what the index is of. -/
structure Retains (indexes : ι → List ρ → Prop) (s : Shelf kind) (all : List ρ) : Prop where
  held : s.held = retained s.limit all
  index : indexes s.index s.held
  nextSerial : s.nextSerial = all.length

variable {s s' : Shelf kind} {all : List ρ}

theorem retains_empty (hkind : kind.Indexes indexes) (limit : Nat) :
    (empty limit : Shelf kind).Retains indexes [] where
  held := List.drop_nil.symm
  index := hkind.empty
  nextSerial := rfl

theorem index_foldl_take (hkind : kind.Indexes indexes) (h : indexes s.index s.held)
    (arrivals : List (Arrival α)) :
    indexes (arrivals.foldl take s).index (arrivals.foldl take s).held := by
  induction arrivals generalizing s with
  | nil => exact h
  | cons a arrivals ih => exact ih (hkind.insert h (s.record a))

/-- A rotation, after which the view is brought up to date. -/
theorem retains_rotate (hkind : kind.Indexes indexes)
    (hheld : retained s.limit s.held = retained s.limit all) (hindex : indexes s.index s.held)
    (hnext : s.nextSerial = all.length) : s.rotate.refresh.Retains indexes all where
  held := hheld
  index := by
    rw [← overflow_append_retained s.limit s.held] at hindex
    exact hkind.delete hindex
  nextSerial := hnext

theorem Retains.ingest (hkind : kind.Indexes indexes) (h : s.Retains indexes all)
    (groups : List (Group α)) :
    (s.ingest groups).Retains indexes
      (all ++ numbered kind.record all.length (Group.flatten groups)) := by
  obtain ⟨hheld, hnext⟩ := s.foldl_take (Group.flatten groups)
  rw [h.nextSerial] at hheld hnext
  refine retains_rotate hkind ?_ (index_foldl_take hkind h.index _) ?_
  · rw [limit_foldl_take, hheld, h.held, retained_retained_append]
  · rw [hnext, List.length_append, length_numbered]

theorem Retains.act (hkind : kind.Indexes indexes) {on? : Action → Option (ShelfAction α)}
    (hflush : Flushes on?) (h : s.Retains indexes all) (a : Action) :
    (s.act on? a).Retains indexes
      (if a.isFlush then [] else all ++ numbered kind.record all.length (taken on? a)) := by
  have hsame : s.Retains indexes (all ++ numbered kind.record all.length []) :=
    (List.append_nil all).symm ▸ h
  rw [hflush, taken, Shelf.act]
  cases on? a with
  | none => exact hsame
  | some action =>
    cases action with
    | ingest groups => exact h.ingest hkind groups
    | filter query => exact ⟨hsame.held, hsame.index, hsame.nextSerial⟩
    | flush => exact ⟨List.drop_nil.symm, hkind.flush s.index, rfl⟩

/-- After a run the newest records are held of all since the last flush. -/
theorem retains_foldl_act (hkind : kind.Indexes indexes)
    {on? : Action → Option (ShelfAction α)} (hflush : Flushes on?) (limit : Nat)
    (actions : List Action) :
    (actions.foldl (act on?) (empty limit : Shelf kind)).Retains indexes
      (ingested kind.record (taken on?) actions) :=
  foldl_ingested (retains_empty hkind limit) (fun _ _ a h => h.act hkind hflush a) actions

/-- The same records within the same limit are held and indexed in one way only. -/
theorem Retains.unique (hkind : kind.Indexes indexes) (h : s.Retains indexes all)
    (h' : s'.Retains indexes all) (hlimit : s.limit = s'.limit) :
    s.held = s'.held ∧ s.index = s'.index := by
  have hheld : s.held = s'.held := by rw [h.held, h'.held, hlimit]
  exact ⟨hheld, hkind.unique h.index (hheld ▸ h'.index)⟩

end Shelf

/-! ## Logs -/

/-- The index is that of the logs which belong to a trace. -/
def LogIndex.OfTraced (x : LogIndex) (held : List LogRecord) : Prop :=
  x.Represents (held.filter LogRecord.traced)

theorem Shelving.indexes_logs : Shelving.logs.Indexes LogIndex.OfTraced where
  empty := LogIndex.represents_empty
  insert h r := by
    have hinsert := LogIndex.Represents.insert h r
    rwa [← List.filter_append] at hinsert
  delete h := LogIndex.Represents.delete_append h
  flush _ := LogIndex.represents_empty
  unique h h' := LogIndex.Represents.ext h h'

namespace LogShelf

variable {s : LogShelf} {all : List LogRecord}

/-- What can be read of the logs, if `all` of them have come in: the newest within the limit,
and those of each trace, in the order of arrival. -/
structure Newest (s : LogShelf) (limit : Nat) (all : List LogRecord) : Prop where
  held : s.held = all.rtake limit
  ofTrace : ∀ traceId ≠ .zero,
    s.index.logsOfTrace? traceId = filled (s.held.filter fun r => r.traceId = traceId)
  untraced : s.index.logsOfTrace? .zero = none
  nonempty : ∀ traceId logs, s.index.logsOfTrace? traceId = some logs → logs ≠ []
  size : s.index.size = (s.held.filter fun r => r.traceId ≠ .zero).length

theorem traced_iff {r : LogRecord} : r.traced ↔ r.traceId ≠ .zero := by
  rw [LogRecord.traced, Bool.not_eq_true', ← Bool.not_eq_true, not_iff_not, Id.isZero_iff]

theorem newest_of_retains (h : s.Retains LogIndex.OfTraced all) : Newest s s.limit all := by
  have hindex : s.index.Represents (s.held.filter LogRecord.traced) := h.index
  exact {
    held := h.held
    ofTrace traceId ht := by
      rw [hindex.logsOfTrace?, List.filter_filter]
      refine congrArg filled (List.filter_congr fun r _ => ?_)
      by_cases e : r.traceId = traceId
      · rw [traced_iff.mpr (e ▸ ht), Bool.and_true]
      · rw [decide_eq_false e, Bool.false_and]
    untraced := by
      rw [hindex.logsOfTrace?, filled_eq_none]
      exact List.filter_eq_nil_iff.mpr fun r hr e =>
        traced_iff.mp (hindex.traced r hr) (of_decide_eq_true e)
    nonempty traceId logs hl := by
      rw [hindex.logsOfTrace?] at hl
      obtain ⟨rfl, hne⟩ := filled_eq_some.mp hl
      exact hne
    size := by
      rw [hindex.size]
      refine congrArg List.length (List.filter_congr fun r _ => ?_)
      rw [Bool.eq_iff_iff, decide_eq_true_eq]
      exact traced_iff }

end LogShelf

/-! ## Metrics -/

/-- The index is that of the metrics under their own services. -/
def MetricIndex.OfOwn (x : MetricIndex) (held : List MetricRecord) : Prop :=
  x.Represents (held.map MetricIndex.own)

theorem Shelving.indexes_metrics : Shelving.metrics.Indexes MetricIndex.OfOwn where
  empty := MetricIndex.represents_empty
  insert h r := by
    have hinsert := MetricIndex.Represents.insert h r.service r
    rwa [← MetricIndex.own, ← List.map_singleton, ← List.map_append] at hinsert
  delete h := MetricIndex.Represents.delete_append h
  flush _ := MetricIndex.represents_empty
  unique h h' := MetricIndex.Represents.ext h h'

namespace MetricShelf

variable {s : MetricShelf} {all : List MetricRecord}

/-- What can be read of the metrics, if `all` of them have come in: the newest within the
limit, those of each service and name, in the order of arrival, and all services and names
that they have, each once and in the order of their bytes. -/
structure Newest (s : MetricShelf) (limit : Nat) (all : List MetricRecord) : Prop where
  held : s.held = all.rtake limit
  ofName : ∀ service name, s.index.metricsOf? service name =
    filled (s.held.filter fun r => r.service = service ∧ r.name = name)
  nonempty : ∀ service name metrics, s.index.metricsOf? service name = some metrics → metrics ≠ []
  services : ∀ service, service ∈ s.index.serviceNames ↔ ∃ r ∈ s.held, r.service = service
  names : ∀ service name, name ∈ s.index.metricNames service ↔
    ∃ r ∈ s.held, r.service = service ∧ r.name = name
  servicesAscending : s.index.serviceNames.Pairwise fun a b => Text.bytes a < Text.bytes b
  namesAscending : ∀ service,
    (s.index.metricNames service).Pairwise fun a b => Text.bytes a < Text.bytes b
  size : s.index.size = s.held.length

theorem newest_of_retains (h : s.Retains MetricIndex.OfOwn all) : Newest s s.limit all := by
  have hindex : s.index.Represents (s.held.map MetricIndex.own) := h.index
  have hname : ∀ service name, s.index.metricsOf? service name =
      filled (s.held.filter fun r => r.service = service ∧ r.name = name) := by
    intro service name
    rw [hindex.metricsOf?, List.filter_map, List.map_map]
    exact congrArg filled (List.map_id' _)
  exact {
    held := h.held
    ofName := hname
    nonempty service name metrics hm := by
      rw [hname] at hm
      obtain ⟨rfl, hne⟩ := filled_eq_some.mp hm
      exact hne
    services service := by
      rw [hindex.mem_serviceNames]
      simp [MetricIndex.own]
    names service name := by
      rw [hindex.mem_metricNames]
      simp [MetricIndex.own]
    servicesAscending := s.index.serviceNames_ascending
    namesAscending := s.index.metricNames_ascending
    size := by rw [hindex.size, List.length_map] }

end MetricShelf

/-! ## Runs of the store -/

namespace Store

variable {limits : StoreSettings} {s₀ : Store}

theorem logs_retains_run (h : create limits = .ok s₀) (actions : List Action) :
    (s₀.run actions).logs.Retains LogIndex.OfTraced (ingestedLogs actions) ∧
      (s₀.run actions).logs.limit = limits.maxLogs := by
  rw [eq_empty_of_create h, logs_run, ingestedLogs, ← taken_onLogs?]
  exact ⟨Shelf.retains_foldl_act Shelving.indexes_logs flushes_onLogs? limits.maxLogs actions,
    foldl_unchanged Shelf.limit LogShelf.act (Shelf.limit_act Action.onLogs?) actions _⟩

theorem metrics_retains_run (h : create limits = .ok s₀) (actions : List Action) :
    (s₀.run actions).metrics.Retains MetricIndex.OfOwn (ingestedMetrics actions) ∧
      (s₀.run actions).metrics.limit = limits.maxMetrics := by
  rw [eq_empty_of_create h, metrics_run, ingestedMetrics, ← taken_onMetrics?]
  exact ⟨Shelf.retains_foldl_act Shelving.indexes_metrics flushes_onMetrics? limits.maxMetrics
      actions,
    foldl_unchanged Shelf.limit MetricShelf.act (Shelf.limit_act Action.onMetrics?) actions _⟩

/-- After any run of a store the logs and the metrics that can be read are the newest of all
that came in since the last flush. Of any other run that took in the same ones since its last
flush, however divided into batches and groups and whatever came in between, the same can be
read. -/
theorem run_retains_newest (h : create limits = .ok s₀) (actions : List Action) :
    let s := s₀.run actions
    s.logs.Newest limits.maxLogs (ingestedLogs actions) ∧
    s.metrics.Newest limits.maxMetrics (ingestedMetrics actions) ∧
    (∀ actions', arrived Action.logs actions' = arrived Action.logs actions →
      (s₀.run actions').logs.held = s.logs.held ∧ (s₀.run actions').logs.index = s.logs.index) ∧
    (∀ actions', arrived Action.metrics actions' = arrived Action.metrics actions →
      (s₀.run actions').metrics.held = s.metrics.held ∧
        (s₀.run actions').metrics.index = s.metrics.index) := by
  intro s
  obtain ⟨hlogs, hmaxLogs⟩ := logs_retains_run h actions
  obtain ⟨hmetrics, hmaxMetrics⟩ := metrics_retains_run h actions
  refine ⟨hmaxLogs ▸ LogShelf.newest_of_retains hlogs,
    hmaxMetrics ▸ MetricShelf.newest_of_retains hmetrics, fun actions' e => ?_, fun actions' e => ?_⟩
  · obtain ⟨hother, hmax⟩ := logs_retains_run h actions'
    have hall : ingestedLogs actions' = ingestedLogs actions := congrArg (numbered _ 0) e
    rw [hall] at hother
    exact hother.unique Shelving.indexes_logs hlogs (hmax.trans hmaxLogs.symm)
  · obtain ⟨hother, hmax⟩ := metrics_retains_run h actions'
    have hall : ingestedMetrics actions' = ingestedMetrics actions := congrArg (numbered _ 0) e
    rw [hall] at hother
    exact hother.unique Shelving.indexes_metrics hmetrics (hmax.trans hmaxMetrics.symm)

/-- The groups of one service that come with some logs. -/
def logsOf (service : String) (logs : List Log) : List (Group Log) :=
  [⟨.ofServiceName service, [⟨.empty, logs⟩]⟩]

/-- Two logs in one batch and in two, with something in between, where one can be held. -/
theorem run_retains_newest_of_split :
    let s₀ := empty ⟨1, 1, 1⟩
    let first := (Log.ofBody "started" .epoch).withTrace (.ofNat 1) .zero
    let second := (Log.ofBody "stopped" .epoch).withTrace (.ofNat 1) .zero
    let whole : List Action := [.flush, .addLogs (logsOf "api" [first, second])]
    let split : List Action :=
      [.addLogs (logsOf "api" [first]), .filterLogs "api", .addLogs (logsOf "api" [second])]
    create ⟨1, 1, 1⟩ = .ok s₀ ∧ arrived Action.logs split = arrived Action.logs whole ∧
      (s₀.run whole).logs.Newest 1 (ingestedLogs whole) ∧
      (s₀.run split).logs.held = (s₀.run whole).logs.held ∧ (s₀.run whole).logs.index.size = 1 := by
  intro s₀ first second whole split
  have hcreate : create ⟨1, 1, 1⟩ = .ok s₀ := rfl
  obtain ⟨hnewest, -, hsplit, -⟩ := run_retains_newest hcreate whole
  exact ⟨hcreate, rfl, hnewest, (hsplit split rfl).1, rfl⟩

end Store

end Telemetry
