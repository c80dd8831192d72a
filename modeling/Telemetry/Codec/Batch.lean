import Telemetry.Batch
import Telemetry.Codec.Log
import Telemetry.Codec.Metric
import Telemetry.Codec.Span

/-!
# Batches as JSON

A batch is an object with its kind as the only key. Groups of the three kinds
have the same form, apart from the names of the fields that hold their parts.

* `GroupKeys`: those names;
* `Group.decoder`, `Group.toJson`: a group of any kind;
* `Batch.decoder`, `Batch.toJson`.
-/

namespace Telemetry

open Json

/-- The names of the fields of a group: the one that holds its scopes, and the one
that holds the records of a scope. -/
structure GroupKeys where
  scopes : String
  records : String

/-- The field names of groups of spans. -/
def GroupKeys.spans : GroupKeys := ⟨"scope_spans", "spans"⟩

/-- The field names of groups of logs. -/
def GroupKeys.logs : GroupKeys := ⟨"scope_logs", "logs"⟩

/-- The field names of groups of metrics. -/
def GroupKeys.metrics : GroupKeys := ⟨"scope_metrics", "metrics"⟩

variable {α : Type}

/-- Reads the records of one scope. -/
def ScopeGroup.decoder (keys : GroupKeys) (decode : Decoder α) : Decoder (ScopeGroup α) :=
  .record ["scope", keys.records] fun fields =>
    ScopeGroup.mk <$> fields.optional "scope" Scope.decoder .empty
      <*> fields.optional keys.records (.list decode) []

/-- The JSON value of the records of one scope. -/
def ScopeGroup.toJson (keys : GroupKeys) (encode : α → Json) (g : ScopeGroup α) : Json :=
  .obj (put keys.records (Json.ofList encode g.records) [("scope", g.scope.toJson)])

/-- Reads a group. -/
def Group.decoder (keys : GroupKeys) (decode : Decoder α) : Decoder (Group α) :=
  .record ["resource", keys.scopes] fun fields =>
    Group.mk <$> fields.optional "resource" Resource.decoder .empty
      <*> fields.optional keys.scopes (.list (ScopeGroup.decoder keys decode)) []

/-- The JSON value of a group. -/
def Group.toJson (keys : GroupKeys) (encode : α → Json) (g : Group α) : Json :=
  .obj (put keys.scopes (Json.ofList (ScopeGroup.toJson keys encode) g.scopes)
    [("resource", g.resource.toJson)])

/-- Reads a group of spans. -/
def Group.spansDecoder : Decoder (Group Span) := Group.decoder .spans Span.decoder

/-- Reads a group of logs. -/
def Group.logsDecoder : Decoder (Group Log) := Group.decoder .logs Log.decoder

/-- Reads a group of metrics. -/
def Group.metricsDecoder : Decoder (Group Metric) := Group.decoder .metrics Metric.decoder

/-- The kind with a given name. -/
def TelemetryKind.decoder : Decoder TelemetryKind :=
  .variants ([.spans, .logs, .metrics].map fun k => .unit k.name k)

/-- Reads a batch. -/
def Batch.decoder : Decoder Batch :=
  .variants
    [.content "Spans" fun src d => (Decoder.list Group.spansDecoder src d).map .spans,
      .content "Logs" fun src d => (Decoder.list Group.logsDecoder src d).map .logs,
      .content "Metrics" fun src d => (Decoder.list Group.metricsDecoder src d).map .metrics]

/-- The JSON value of a batch. -/
def Batch.toJson : Batch → Json
  | .spans groups => .obj [("Spans", Json.ofList (Group.toJson .spans Span.toJson) groups)]
  | .logs groups => .obj [("Logs", Json.ofList (Group.toJson .logs Log.toJson) groups)]
  | .metrics groups => .obj [("Metrics", Json.ofList (Group.toJson .metrics Metric.toJson) groups)]

end Telemetry
