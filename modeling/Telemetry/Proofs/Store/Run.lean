import Mathlib.Data.List.DropRight
import Telemetry.Store.Basic

/-!
# Runs of a store

A store does one action after the other. What an action does to a shelf depends on
nothing but that shelf, so the shelves of a run can be followed one by one.

* `SpanShelf.act`, `Shelf.act`: a shelf after an action;
* `Store.run`: the store after some actions;
* `Store.spans_run`, `Store.logs_run`, `Store.metrics_run`: the shelves after a run, by
  what the actions do to each of them;
* `Store.applyAll_eq_run`: batches that are taken in one after the other are a run;
* `sinceFlush`: what a run has done since everything was dropped for the last time.
-/

namespace Telemetry

/-- What no step changes is the same after all of them. -/
theorem foldl_unchanged {σ α τ : Type} (f : σ → τ) (step : σ → α → σ)
    (h : ∀ s a, f (step s a) = f s) (steps : List α) (s : σ) : f (steps.foldl step s) = f s := by
  induction steps generalizing s with
  | nil => rfl
  | cons a steps ih => exact (ih (step s a)).trans (h s a)

/-- Whether an action drops everything. -/
def Action.isFlush : Action → Bool
  | .flush => true
  | _ => false

/-- The actions after the last flush. -/
def sinceFlush (actions : List Action) : List Action :=
  actions.rtakeWhile fun a => !a.isFlush

theorem sinceFlush_concat (actions : List Action) (a : Action) :
    sinceFlush (actions ++ [a]) = if a.isFlush then [] else sinceFlush actions ++ [a] := by
  rw [sinceFlush, List.rtakeWhile_concat]
  cases a.isFlush <;> rfl

/-! ## One action -/

/-- The shelf of spans after an action. -/
def SpanShelf.act (s : SpanShelf) : Action → SpanShelf
  | .addSpans groups => s.ingest groups
  | .filterSpans query order => s.filter query order
  | .recalculate position => (s.recalculate position).1
  | .flush => s.flush
  | .addLogs _ | .addMetrics _ | .filterLogs _ | .filterMetrics _ => s

/-- What is done to a shelf of logs or of metrics. -/
inductive ShelfAction (α : Type) where
  | ingest (groups : List (Group α))
  | filter (query : String)
  | flush

/-- What an action does to the shelf of logs, if anything. -/
def Action.onLogs? : Action → Option (ShelfAction Log)
  | .addLogs groups => some (.ingest groups)
  | .filterLogs query => some (.filter query)
  | .flush => some .flush
  | .addSpans _ | .addMetrics _ | .filterSpans _ _ | .filterMetrics _ | .recalculate _ => none

/-- What an action does to the shelf of metrics, if anything. -/
def Action.onMetrics? : Action → Option (ShelfAction Metric)
  | .addMetrics groups => some (.ingest groups)
  | .filterMetrics query => some (.filter query)
  | .flush => some .flush
  | .addSpans _ | .addLogs _ | .filterSpans _ _ | .filterLogs _ | .recalculate _ => none

/-- A shelf after an action, by what the action does to it. -/
def Shelf.act {α ρ ι : Type} {kind : Shelving α ρ ι} (on? : Action → Option (ShelfAction α))
    (s : Shelf kind) (a : Action) : Shelf kind :=
  match on? a with
  | some (.ingest groups) => s.ingest groups
  | some (.filter query) => s.filter query
  | some .flush => s.flush
  | none => s

/-- The shelf of logs after an action. -/
def LogShelf.act : LogShelf → Action → LogShelf := Shelf.act Action.onLogs?

/-- The shelf of metrics after an action. -/
def MetricShelf.act : MetricShelf → Action → MetricShelf := Shelf.act Action.onMetrics?

/-- A recalculation that finds nothing to choose from changes nothing. -/
theorem SpanShelf.recalculate_of_none {s : SpanShelf} {position : Nat}
    (h : (s.recalculate position).2 = none) : s.recalculate position = (s, none) := by
  unfold recalculate at h ⊢
  split
  · rfl
  · rename_i current hc
    simp only [hc] at h
    split
    · rfl
    · rename_i hr
      simp only [hr] at h
      cases h

namespace Store

theorem recalculate_eq (s : Store) (position : Nat) :
    (s.recalculate position).1.spans = (s.spans.recalculate position).1 ∧
      (s.recalculate position).1.logs = s.logs ∧
      (s.recalculate position).1.metrics = s.metrics := by
  unfold recalculate
  split
  · rename_i hr
    rw [SpanShelf.recalculate_of_none (by rw [hr])]
    exact ⟨rfl, rfl, rfl⟩
  · rename_i hr
    rw [hr]
    exact ⟨rfl, rfl, rfl⟩

theorem spans_act (s : Store) (a : Action) : (s.act a).1.spans = s.spans.act a := by
  cases a with
  | recalculate position => exact (recalculate_eq s position).1
  | _ => rfl

theorem logs_act (s : Store) (a : Action) : (s.act a).1.logs = s.logs.act a := by
  cases a with
  | recalculate position => exact (recalculate_eq s position).2.1
  | _ => rfl

theorem metrics_act (s : Store) (a : Action) : (s.act a).1.metrics = s.metrics.act a := by
  cases a with
  | recalculate position => exact (recalculate_eq s position).2.2
  | _ => rfl

/-! ## One action after the other -/

/-- The store after some actions. -/
def run (s : Store) (actions : List Action) : Store :=
  actions.foldl (fun s a => (s.act a).1) s

theorem spans_run (s : Store) (actions : List Action) :
    (s.run actions).spans = actions.foldl SpanShelf.act s.spans :=
  (List.foldl_hom Store.spans fun s a => (spans_act s a).symm).symm

theorem logs_run (s : Store) (actions : List Action) :
    (s.run actions).logs = actions.foldl LogShelf.act s.logs :=
  (List.foldl_hom Store.logs fun s a => (logs_act s a).symm).symm

theorem metrics_run (s : Store) (actions : List Action) :
    (s.run actions).metrics = actions.foldl MetricShelf.act s.metrics :=
  (List.foldl_hom Store.metrics fun s a => (metrics_act s a).symm).symm

theorem applyAll_eq_run (s : Store) (batches : List Batch) :
    (s.applyAll batches).1 = s.run (batches.map Batch.action) := by
  induction batches generalizing s with
  | nil => rfl
  | cons b rest ih => exact ih (s.apply b).1

/-- A store that could be created is the empty one. -/
theorem eq_empty_of_create {limits : StoreSettings} {s : Store} (h : create limits = .ok s) :
    s = empty limits := by
  unfold create at h
  split at h
  · exact (Except.ok.inj h).symm
  · cases h

end Store

end Telemetry
