import Telemetry.Span
import Telemetry.Log
import Telemetry.Metric

/-!
# Batches

Records arrive in batches of one kind, grouped by resource and, within a
resource, by scope.

* `Group`: the records of one resource, scope by scope;
* `Group.flatten`: the records of some groups in the order of arrival, each
  with its resource and scope;
* `SpanRecord.ofArrival`, `LogRecord.ofArrival`, `MetricRecord.ofArrival`: the
  records that are kept of them;
* `Batch`: groups of spans, logs or metrics.
-/

namespace Telemetry

/-- The records of one scope. -/
structure ScopeGroup (α : Type) where
  scope : Scope
  records : List α

/-- The records of one resource, scope by scope. -/
structure Group (α : Type) where
  resource : Resource
  scopes : List (ScopeGroup α)

/-- A record together with the resource and scope it came with. -/
structure Arrival (α : Type) where
  record : α
  resource : Resource
  scope : Scope

/-- The record with a number that is made of a span. -/
def SpanRecord.ofArrival (serial : Nat) (a : Arrival Span) : SpanRecord :=
  ⟨serial, a.record, a.resource, a.scope⟩

/-- The record with a number that is made of a log. -/
def LogRecord.ofArrival (serial : Nat) (a : Arrival Log) : LogRecord :=
  ⟨serial, a.record, a.resource, a.scope⟩

/-- The record with a number that is made of a metric. -/
def MetricRecord.ofArrival (serial : Nat) (a : Arrival Metric) : MetricRecord :=
  ⟨serial, a.record, a.resource, a.scope⟩

/-- The records of some groups in the order of arrival. -/
def Group.flatten {α : Type} (groups : List (Group α)) : List (Arrival α) :=
  groups.flatMap fun g => g.scopes.flatMap fun s => s.records.map (⟨·, g.resource, s.scope⟩)

/-- The three kinds of records. -/
inductive TelemetryKind where
  | spans
  | logs
  | metrics
  deriving DecidableEq

/-- The name of a kind of records. -/
def TelemetryKind.name : TelemetryKind → String
  | .spans => "Spans"
  | .logs => "Logs"
  | .metrics => "Metrics"

/-- Records of one kind that arrive together. -/
inductive Batch where
  | spans (groups : List (Group Span))
  | logs (groups : List (Group Log))
  | metrics (groups : List (Group Metric))

namespace Batch

/-- The kind of the records. -/
def kind : Batch → TelemetryKind
  | .spans _ => .spans
  | .logs _ => .logs
  | .metrics _ => .metrics

/-- How many records the batch holds. -/
def recordCount : Batch → Nat
  | .spans groups => (Group.flatten groups).length
  | .logs groups => (Group.flatten groups).length
  | .metrics groups => (Group.flatten groups).length

end Batch

end Telemetry
