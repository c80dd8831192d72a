import Telemetry.CallGraph.Chains
import Telemetry.Diagram.Renderer
import Telemetry.Number.Decimal
import Telemetry.Settings.Basic
import Telemetry.Store.Logs
import Telemetry.Store.Metrics
import Telemetry.Store.Spans

/-!
# The store

Spans, logs and metrics on a shelf each, those who wait for news of them, and the
renderer that draws the graph of calls.

* `Store.create`: an empty store within limits that make sense;
* `Action`, `Store.act`: everything that changes a store, the value it gives back,
  and the news of it;
* `Store.diagram`: the graph of calls, drawn.
-/

namespace Telemetry

/-- News of a change, under the label that it was asked for with. -/
inductive Notice where
  /-- Records of a kind have been taken in. -/
  | added (label : String) (kind : TelemetryKind)
  /-- Everything has been dropped. -/
  | flushed (label : String)
  deriving DecidableEq

/-- Spans, logs and metrics, and who wants to hear of them. -/
structure Store where
  spans : SpanShelf
  logs : LogShelf
  metrics : MetricShelf
  /-- How often the contents have changed. -/
  revision : Nat
  /-- Who hears of records that are taken in. -/
  onAdded : Option String
  /-- Who hears of a flush, in this order. -/
  onFlushed : List String
  renderer : Renderer

/-- Why there is no store. -/
structure StoreError where
  fault : SettingsFault
  deriving DecidableEq

/-- The wording of the error. -/
def StoreError.message (e : StoreError) : String :=
  "Invalid store configuration: " ++ e.fault.message

/-- What changes a store. -/
inductive Action where
  | addSpans (groups : List (Group Span))
  | addLogs (groups : List (Group Log))
  | addMetrics (groups : List (Group Metric))
  | filterSpans (query : String) (order : SpanOrder)
  | filterLogs (query : String)
  | filterMetrics (query : String)
  | recalculate (position : Nat)
  | flush

/-- The action that takes in a batch. -/
def Batch.action : Batch → Action
  | .spans groups => .addSpans groups
  | .logs groups => .addLogs groups
  | .metrics groups => .addMetrics groups

namespace Store

/-- The store without records, subscribers and a renderer of its own. -/
def empty (limits : StoreSettings) : Store where
  spans := .empty limits.maxServiceSpans
  logs := .empty limits.maxLogs
  metrics := .empty limits.maxMetrics
  revision := 0
  onAdded := none
  onFlushed := []
  renderer := .lines

/-- An empty store within the given limits. -/
def create (limits : StoreSettings) : Except StoreError Store :=
  match limits.validate with
  | .ok _ => .ok (empty limits)
  | .error e => .error ⟨e⟩

/-! ## Changes -/

/-- The store with its contents marked as changed. -/
def touch (s : Store) : Store := { s with revision := s.revision + 1 }

/-- Takes in groups of spans. -/
def addSpans (s : Store) (groups : List (Group Span)) : Store :=
  { s with spans := s.spans.ingest groups }.touch

/-- Takes in groups of logs. -/
def addLogs (s : Store) (groups : List (Group Log)) : Store :=
  { s with logs := s.logs.ingest groups }.touch

/-- Takes in groups of metrics. -/
def addMetrics (s : Store) (groups : List (Group Metric)) : Store :=
  { s with metrics := s.metrics.ingest groups }.touch

/-- Shows the spans that match a query, in an order. -/
def filterSpans (s : Store) (query : String) (order : SpanOrder) : Store :=
  { s with spans := s.spans.filter query order }

/-- Shows the logs that match a query. -/
def filterLogs (s : Store) (query : String) : Store :=
  { s with logs := s.logs.filter query }

/-- Shows the metrics that match a query. -/
def filterMetrics (s : Store) (query : String) : Store :=
  { s with metrics := s.metrics.filter query }

/-- Chooses the representative of the pair shown at a position anew. -/
def recalculate (s : Store) (position : Nat) : Store × Option SpanRecord :=
  match s.spans.recalculate position with
  | (_, none) => (s, none)
  | (spans, some root) => ({ s with spans }.touch, some root)

/-- Drops all records, queries and orders. -/
def flush (s : Store) : Store :=
  { s with spans := s.spans.flush, logs := s.logs.flush, metrics := s.metrics.flush }.touch

/-- The news of records that are taken in. -/
def addedNotices (s : Store) (kind : TelemetryKind) : List Notice :=
  s.onAdded.toList.map (.added · kind)

/-- The news of a flush. -/
def flushedNotices (s : Store) : List Notice :=
  s.onFlushed.map .flushed

/-- Does an action: the store afterwards, the span that it gives back, and the news. -/
def act (s : Store) : Action → Store × Option SpanRecord × List Notice
  | .addSpans groups => (s.addSpans groups, none, s.addedNotices .spans)
  | .addLogs groups => (s.addLogs groups, none, s.addedNotices .logs)
  | .addMetrics groups => (s.addMetrics groups, none, s.addedNotices .metrics)
  | .filterSpans query order => (s.filterSpans query order, none, [])
  | .filterLogs query => (s.filterLogs query, none, [])
  | .filterMetrics query => (s.filterMetrics query, none, [])
  | .recalculate position =>
    let (s, root) := s.recalculate position
    (s, root, [])
  | .flush => (s.flush, none, s.flushedNotices)

/-- Takes in a batch: the store afterwards, and the news. -/
def apply (s : Store) (b : Batch) : Store × List Notice :=
  let (s, _, notices) := s.act b.action
  (s, notices)

/-- Takes in batches one after the other: the store afterwards, and the news. -/
def applyAll (s : Store) : List Batch → Store × List Notice
  | [] => (s, [])
  | b :: rest =>
    let (s, notices) := s.apply b
    let (s, later) := applyAll s rest
    (s, notices ++ later)

/-! ## Subscriptions -/

/-- Who hears of records that are taken in from now on, in place of all before. -/
def subscribeAdded (s : Store) (label : String) : Store := { s with onAdded := some label }

/-- One more who hears of every flush. -/
def subscribeFlushed (s : Store) (label : String) : Store :=
  { s with onFlushed := s.onFlushed ++ [label] }

/-- The store with another renderer. -/
def setRenderer (s : Store) (renderer : Renderer) : Store := { s with renderer }

/-! ## Reading -/

/-- The graph of calls that the spans show. -/
def callGraph (s : Store) : CallGraph := .ofIndex s.spans.index

/-- The graph of calls, drawn by the renderer. -/
def diagram (s : Store) : Except RenderError String :=
  s.renderer (String.ofList s.callGraph.description)

/-- The counts of the store for people. -/
def summary (s : Store) : String :=
  "Store \x7b service_spans: " ++ Number.decimal s.spans.held.length ++
    ", logs: " ++ Number.decimal s.logs.held.length ++
    ", metrics: " ++ Number.decimal s.metrics.held.length

end Store

end Telemetry
