import Std.Data.ExtTreeMap
import Telemetry.Log

/-!
# The index of logs

Logs are found by the trace they were emitted under; logs outside of any trace
are not indexed. A trace without logs has no entry.

* `LogIndex.insert`, `LogIndex.delete`: deletion is of the very record, not of
  one that looks like it.
-/

namespace Telemetry

/-- Logs by trace, in the order of arrival. -/
structure LogIndex where
  byTrace : Std.ExtTreeMap TraceId (List LogRecord)

namespace LogIndex

/-- The index without logs. -/
def empty : LogIndex := ⟨∅⟩

instance : Inhabited LogIndex := ⟨empty⟩

/-- Adds a log, unless it belongs to no trace. -/
def insert (x : LogIndex) (r : LogRecord) : LogIndex :=
  if r.traceId.isZero then x
  else ⟨x.byTrace.insert r.traceId ((x.byTrace.getD r.traceId []) ++ [r])⟩

/-- Drops the first occurrence of a record, and its trace if that was the last
one. -/
def erase (x : LogIndex) (r : LogRecord) : LogIndex :=
  match x.byTrace[r.traceId]? with
  | none => x
  | some logs =>
    let kept := logs.eraseP (·.serial == r.serial)
    ⟨if kept.isEmpty then x.byTrace.erase r.traceId else x.byTrace.insert r.traceId kept⟩

/-- Drops some records one after the other. -/
def delete (x : LogIndex) (records : List LogRecord) : LogIndex :=
  records.foldl erase x

/-- Drops all logs. -/
def flush (x : LogIndex) : LogIndex := { x with byTrace := ∅ }

/-- The logs of a trace in the order of arrival. -/
def logsOfTrace? (x : LogIndex) (traceId : TraceId) : Option (List LogRecord) :=
  x.byTrace[traceId]?

/-- The logs emitted under a span of a trace, in the order of arrival. -/
def logsOfSpan (x : LogIndex) (traceId : TraceId) (spanId : SpanId) : List LogRecord :=
  ((x.logsOfTrace? traceId).getD []).filter fun r => r.spanId? == some spanId

/-- How many traces have logs. -/
def traceCount (x : LogIndex) : Nat := x.byTrace.size

/-- All logs, by ascending trace identifier and then by arrival. -/
def iter (x : LogIndex) : List LogRecord :=
  x.byTrace.toList.flatMap (·.2)

/-- How many logs there are. -/
def size (x : LogIndex) : Nat := x.iter.length

/-- Whether there is no log. -/
def isEmpty (x : LogIndex) : Bool := x.byTrace.isEmpty

end LogIndex

end Telemetry
