import Telemetry.Id
import Telemetry.Resource
import Telemetry.Time.Instant

/-!
# Spans

A span is one timed operation within a trace. A span record is a span as it is
kept, with the resource and scope it came with.

* `Span.duration`: the time a span took, never negative (`Span.duration_eq`);
* `SpanRecord`: the record; `serial` tells records apart that agree otherwise.
-/

namespace Telemetry

/-- The role of a span in a call. -/
inductive SpanKind where
  | unspecified
  | internal
  | server
  | client
  | producer
  | consumer
  deriving DecidableEq

/-- How an operation ended. -/
inductive StatusCode where
  | unset
  | ok
  | error
  deriving DecidableEq

/-- How an operation ended, with an explanation. -/
structure Status where
  code : StatusCode
  message : String

/-- Nothing is known of how the operation ended. -/
def Status.unset : Status := ⟨.unset, ""⟩

/-- Something that happened during a span. -/
structure SpanEvent where
  name : String
  time : Instant
  attributes : Attributes

/-- One timed operation within a trace. -/
structure Span where
  traceId : TraceId
  spanId : SpanId
  parentSpanId : SpanId
  traceState : String
  name : String
  kind : SpanKind
  startTime : Instant
  endTime : Instant
  attributes : Attributes
  events : List SpanEvent
  status : Status

namespace Span

/-- A span with a name and times and nothing else. -/
def ofName (traceId : TraceId) (spanId parentSpanId : SpanId) (name : String)
    (startTime endTime : Instant) : Span :=
  { traceId, spanId, parentSpanId, traceState := "", name, kind := .unspecified, startTime,
    endTime, attributes := .empty, events := [], status := .unset }

/-- The span with another status code. -/
def withStatus (s : Span) (code : StatusCode) : Span :=
  { s with status := { s.status with code } }

/-- Whether no span called this one. -/
def isRoot (s : Span) : Bool :=
  s.parentSpanId.isZero

/-- Whether the operation failed. -/
def hasError (s : Span) : Bool :=
  s.status.code == .error

/-- The time from start to end in nanoseconds, zero when the clocks were
inverted. -/
def duration (s : Span) : Nat :=
  (s.startTime.elapsed s.endTime).toNat

/-- The duration is the time between the two instants, a leap second that it runs across
included, or zero when the end comes before the start. -/
theorem duration_eq (s : Span) :
    let elapsed := s.endTime.total - s.startTime.total +
      s.startTime.leapAdjustment s.endTime * secondNanos
    (s.duration : Int) = if elapsed < 0 then 0 else elapsed := by
  intro elapsed
  have helapsed : s.startTime.elapsed s.endTime = elapsed := Instant.elapsed_eq ..
  rw [duration, helapsed]
  split
  · next h => rw [Int.toNat_of_nonpos (Int.le_of_lt h), Int.ofNat_zero]
  · next h => exact Int.toNat_of_nonneg (Int.not_lt.mp h)

end Span

/-- A span as it is kept. -/
structure SpanRecord where
  serial : Nat
  span : Span
  resource : Resource
  scope : Scope

namespace SpanRecord

/-- The service that the span belongs to. -/
def service (r : SpanRecord) : String := r.resource.serviceName

/-- The trace that the span belongs to. -/
def traceId (r : SpanRecord) : TraceId := r.span.traceId

/-- The identifier of the span. -/
def spanId (r : SpanRecord) : SpanId := r.span.spanId

/-- The identifier of the span that called this one. -/
def parentSpanId (r : SpanRecord) : SpanId := r.span.parentSpanId

/-- Whether no span called this one. -/
def isRoot (r : SpanRecord) : Bool := r.span.isRoot

theorem isRoot_iff {r : SpanRecord} : r.isRoot ↔ r.parentSpanId = .zero := Id.isZero_iff

/-- Whether the operation failed. -/
def hasError (r : SpanRecord) : Bool := r.span.hasError

/-- The time that the operation took, in nanoseconds. -/
def latency (r : SpanRecord) : Nat := r.span.duration

end SpanRecord

end Telemetry
