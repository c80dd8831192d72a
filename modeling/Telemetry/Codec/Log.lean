import Telemetry.Codec.Resource
import Telemetry.Log

/-!
# Logs as JSON
-/

namespace Telemetry

open Json

/-- Reads a log. -/
def Log.decoder : Decoder Log :=
  .record ["time", "observed_time", "severity_number", "severity_text", "body", "attributes",
      "trace_id", "span_id", "flags"] fun fields =>
    Log.mk <$> fields.required "time" .instant
      <*> fields.optional "observed_time" (.option .instant) none
      <*> fields.optional "severity_number" .int32 0
      <*> fields.optional "severity_text" .string ""
      <*> fields.optional "body" .string ""
      <*> fields.optional "attributes" .object .empty
      <*> fields.optional "trace_id" .id .zero
      <*> fields.optional "span_id" .id .zero
      <*> fields.optional "flags" .uint32 0

/-- The JSON value of a log. -/
def Log.toJson (l : Log) : Json :=
  .obj [("attributes", ofObject l.attributes),
    ("body", .str l.body),
    ("flags", ofUInt32 l.flags),
    ("observed_time", ofOption ofInstant l.observedTime),
    ("severity_number", ofInt32 l.severityNumber),
    ("severity_text", .str l.severityText),
    ("span_id", ofId l.spanId),
    ("time", ofInstant l.time),
    ("trace_id", ofId l.traceId)]

/-- The JSON value of a log as it is kept. -/
def LogRecord.toJson (r : LogRecord) : Json :=
  .obj [("log", r.log.toJson), ("resource", r.resource.toJson), ("scope", r.scope.toJson)]

end Telemetry
