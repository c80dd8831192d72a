import Telemetry.Codec.Resource
import Telemetry.Span

/-!
# Spans as JSON
-/

namespace Telemetry

open Json

/-- The name of a span kind. -/
def SpanKind.name : SpanKind → String
  | .unspecified => "Unspecified"
  | .internal => "Internal"
  | .server => "Server"
  | .client => "Client"
  | .producer => "Producer"
  | .consumer => "Consumer"

/-- All span kinds. -/
def SpanKind.all : List SpanKind :=
  [.unspecified, .internal, .server, .client, .producer, .consumer]

/-- Reads a span kind. -/
def SpanKind.decoder : Decoder SpanKind :=
  .variants (all.map fun k => .unit k.name k)

/-- The name of a status code. -/
def StatusCode.name : StatusCode → String
  | .unset => "Unset"
  | .ok => "Ok"
  | .error => "Error"

/-- All status codes. -/
def StatusCode.all : List StatusCode := [.unset, .ok, .error]

/-- Reads a status code. -/
def StatusCode.decoder : Decoder StatusCode :=
  .variants (all.map fun c => .unit c.name c)

/-- Reads a status. -/
def Status.decoder : Decoder Status :=
  .record ["code", "message"] fun fields =>
    Status.mk <$> fields.optional "code" StatusCode.decoder .unset
      <*> fields.optional "message" .string ""

/-- The JSON value of a status. -/
def Status.toJson (s : Status) : Json :=
  .obj [("code", .str s.code.name), ("message", .str s.message)]

/-- Reads an event of a span. -/
def SpanEvent.decoder : Decoder SpanEvent :=
  .record ["name", "time", "attributes"] fun fields =>
    SpanEvent.mk <$> fields.required "name" .string
      <*> fields.required "time" .instant
      <*> fields.optional "attributes" .object .empty

/-- The JSON value of an event of a span. -/
def SpanEvent.toJson (e : SpanEvent) : Json :=
  .obj [("attributes", ofObject e.attributes), ("name", .str e.name), ("time", ofInstant e.time)]

/-- Reads a span. -/
def Span.decoder : Decoder Span :=
  .record ["trace_id", "span_id", "parent_span_id", "trace_state", "name", "kind", "start_time",
      "end_time", "attributes", "events", "status"] fun fields =>
    Span.mk <$> fields.required "trace_id" .id
      <*> fields.required "span_id" .id
      <*> fields.optional "parent_span_id" .id .zero
      <*> fields.optional "trace_state" .string ""
      <*> fields.required "name" .string
      <*> fields.optional "kind" SpanKind.decoder .unspecified
      <*> fields.required "start_time" .instant
      <*> fields.required "end_time" .instant
      <*> fields.optional "attributes" .object .empty
      <*> fields.optional "events" (.list SpanEvent.decoder) []
      <*> fields.optional "status" Status.decoder .unset

/-- The JSON value of a span. -/
def Span.toJson (s : Span) : Json :=
  .obj [("attributes", ofObject s.attributes),
    ("end_time", ofInstant s.endTime),
    ("events", Json.ofList SpanEvent.toJson s.events),
    ("kind", .str s.kind.name),
    ("name", .str s.name),
    ("parent_span_id", ofId s.parentSpanId),
    ("span_id", ofId s.spanId),
    ("start_time", ofInstant s.startTime),
    ("status", s.status.toJson),
    ("trace_id", ofId s.traceId),
    ("trace_state", .str s.traceState)]

/-- The JSON value of a span as it is kept. -/
def SpanRecord.toJson (r : SpanRecord) : Json :=
  .obj [("resource", r.resource.toJson), ("scope", r.scope.toJson), ("span", r.span.toJson)]

end Telemetry
