import Telemetry.Id
import Telemetry.Resource
import Telemetry.Time.Instant

/-!
# Logs

A log is one message of a service, emitted under a span or outside of any
trace. A log record is a log as it is kept.
-/

namespace Telemetry

/-- One message. -/
structure Log where
  time : Instant
  observedTime : Option Instant
  severityNumber : Int32
  severityText : String
  body : String
  attributes : Attributes
  traceId : TraceId
  spanId : SpanId
  flags : UInt32

namespace Log

/-- A message with a time and nothing else. -/
def ofBody (body : String) (time : Instant) : Log :=
  { time, observedTime := none, severityNumber := 0, severityText := "", body,
    attributes := .empty, traceId := .zero, spanId := .zero, flags := 0 }

/-- The message under a span of a trace. -/
def withTrace (l : Log) (traceId : TraceId) (spanId : SpanId) : Log :=
  { l with traceId, spanId }

/-- The message with a severity. -/
def withSeverity (l : Log) (number : Int32) (text : String) : Log :=
  { l with severityNumber := number, severityText := text }

end Log

/-- A log as it is kept; `serial` tells records apart that agree otherwise. -/
structure LogRecord where
  serial : Nat
  log : Log
  resource : Resource
  scope : Scope

namespace LogRecord

/-- The service that emitted the log. -/
def service (r : LogRecord) : String := r.resource.serviceName

/-- The trace that the log was emitted under. -/
def traceId (r : LogRecord) : TraceId := r.log.traceId

/-- The span that the log was emitted under, if any. -/
def spanId? (r : LogRecord) : Option SpanId :=
  if r.log.spanId.isZero then none else some r.log.spanId

end LogRecord

end Telemetry
