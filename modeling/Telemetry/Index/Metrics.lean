import Std.Data.ExtTreeMap
import Telemetry.Metric

/-!
# The index of metrics

Metrics are found by service and then by name. A name without metrics and a
service without names have no entry.

* `MetricIndex.insert`, `MetricIndex.delete`: deletion is of the very record,
  under the service that its own resource names.
-/

namespace Telemetry

/-- The metrics of one service by name, in the order of arrival. -/
abbrev MetricNames := Std.ExtTreeMap String (List MetricRecord)

/-- Metrics by service and name. -/
structure MetricIndex where
  byService : Std.ExtTreeMap String MetricNames

namespace MetricIndex

/-- The index without metrics. -/
def empty : MetricIndex := ⟨∅⟩

instance : Inhabited MetricIndex := ⟨empty⟩

/-- Adds a metric under a service. -/
def insert (x : MetricIndex) (service : String) (r : MetricRecord) : MetricIndex :=
  let names := x.byService.getD service ∅
  ⟨x.byService.insert service (names.insert r.name ((names.getD r.name []) ++ [r]))⟩

/-- The metrics of a service without the first occurrence of a record, and without
its name if that was the last one. -/
def eraseName (names : MetricNames) (r : MetricRecord) : MetricNames :=
  match names[r.name]? with
  | none => names
  | some metrics =>
    let kept := metrics.eraseP (·.serial == r.serial)
    if kept.isEmpty then names.erase r.name else names.insert r.name kept

/-- Drops the first occurrence of a record under its own service, and the service
if that was the last one. -/
def erase (x : MetricIndex) (r : MetricRecord) : MetricIndex :=
  match x.byService[r.service]? with
  | none => x
  | some names =>
    let kept := eraseName names r
    ⟨if kept.isEmpty then x.byService.erase r.service else x.byService.insert r.service kept⟩

/-- Drops some records one after the other. -/
def delete (x : MetricIndex) (records : List MetricRecord) : MetricIndex :=
  records.foldl erase x

/-- Drops all metrics. -/
def flush (x : MetricIndex) : MetricIndex := { x with byService := ∅ }

/-- The metrics of a service and name in the order of arrival. -/
def metricsOf? (x : MetricIndex) (service name : String) : Option (List MetricRecord) :=
  x.byService[service]?.bind fun names => names[name]?

/-- The services that have metrics, in ascending order. -/
def serviceNames (x : MetricIndex) : List String := x.byService.keys

/-- The names of the metrics of a service, in ascending order. -/
def metricNames (x : MetricIndex) (service : String) : List String :=
  (x.byService.getD service ∅).keys

/-- All metrics, by ascending service and name and then by arrival. -/
def iter (x : MetricIndex) : List MetricRecord :=
  x.byService.toList.flatMap fun entry => entry.2.toList.flatMap (·.2)

/-- How many metrics there are. -/
def size (x : MetricIndex) : Nat := x.iter.length

/-- Whether there is no metric. -/
def isEmpty (x : MetricIndex) : Bool := x.byService.isEmpty

end MetricIndex

end Telemetry
