import Telemetry.Index.Nested
import Telemetry.Span

/-!
# The index of spans

Spans are found by their own identifier, by their trace, and by the pair of
trace and service. Every pair has a representative, the span that stands for
the service within the trace: the first span of the pair at first, and later
the span that the first one names as its parent, if that one arrives.

* `TraceIndex.insert`: adds a span unless its identifier is taken;
* `TraceIndex.delete`: drops the whole pairs of some records;
* `TraceIndex.recalculate`: chooses the representative of a pair anew, as the
  first span of the pair that no other span of the pair has called;
* `TraceIndex.iter`: all spans, by trace and then by arrival.
-/

namespace Telemetry

/-- A service within a trace. -/
structure Pair where
  traceId : TraceId
  service : String
  deriving DecidableEq

/-- The pair that a span record belongs to by its own resource. -/
def SpanRecord.pair (r : SpanRecord) : Pair := ⟨r.traceId, r.service⟩

/-- The representative of a pair, with the identifier of the span that may take
its place: the parent of the span that was chosen last. -/
structure Representative where
  span : SpanRecord
  expectedParent : SpanId

namespace Representative

/-- A span that has been chosen as representative. -/
def choose (r : SpanRecord) : Representative := ⟨r, r.parentSpanId⟩

/-- Whether a span that arrives takes the place of the representative. -/
def yieldsTo (root : Representative) (r : SpanRecord) : Bool :=
  !r.spanId.isZero && root.expectedParent == r.spanId

end Representative

/-- The first of some spans whose parent is not among them; the first span of all if
there is none. -/
def entryOf? (spans : List SpanRecord) : Option SpanRecord :=
  let ids := spans.map (·.spanId)
  (spans.find? fun r => !ids.contains r.parentSpanId).or spans.head?

/-- What the insertion of a span did. -/
structure InsertOutcome where
  /-- The span is the first one of its pair. -/
  isNewPair : Bool
  /-- The representative whose place the span took. -/
  replaced : Option SpanId
  deriving DecidableEq

/-- The outcome of an insertion that changes no representative. -/
def InsertOutcome.unchanged : InsertOutcome := ⟨false, none⟩

/-- Spans by identifier, by trace, and by trace and service; and for each trace and
service whether one of its spans has failed, and its representative. -/
structure TraceIndex where
  byId : Std.ExtTreeMap SpanId SpanRecord
  byTrace : Std.ExtTreeMap TraceId (List SpanRecord)
  byService : Nested TraceId String (List SpanRecord)
  errors : Nested TraceId String Bool
  representatives : Nested TraceId String Representative

namespace TraceIndex

/-- The index without spans. -/
def empty : TraceIndex := ⟨∅, ∅, ∅, ∅, ∅⟩

instance : Inhabited TraceIndex := ⟨empty⟩

/-! ## Reading -/

/-- The spans of a trace in the order of arrival. -/
def spansOfTrace? (t : TraceIndex) (traceId : TraceId) : Option (List SpanRecord) :=
  t.byTrace[traceId]?

/-- The spans of a pair in the order of arrival. -/
def spansOfPair? (t : TraceIndex) (p : Pair) : Option (List SpanRecord) :=
  t.byService.at? p.traceId p.service

/-- Whether a span of the pair has ever failed. -/
def hasError? (t : TraceIndex) (p : Pair) : Option Bool :=
  t.errors.at? p.traceId p.service

/-- The span with an identifier. -/
def span? (t : TraceIndex) (spanId : SpanId) : Option SpanRecord :=
  t.byId[spanId]?

/-- What is known of the representative of a pair. -/
def root? (t : TraceIndex) (p : Pair) : Option Representative :=
  t.representatives.at? p.traceId p.service

/-- The representative of a pair. -/
def representative? (t : TraceIndex) (p : Pair) : Option SpanRecord :=
  (t.root? p).map (·.span)

/-- All spans, by ascending trace identifier and then by arrival. -/
def iter (t : TraceIndex) : List SpanRecord :=
  t.byTrace.toList.flatMap (·.2)

/-- How many spans there are. -/
def spanCount (t : TraceIndex) : Nat := t.byId.size

/-- How many traces there are. -/
def traceCount (t : TraceIndex) : Nat := t.byTrace.size

/-- Whether there is no span. -/
def isEmpty (t : TraceIndex) : Bool := t.byId.isEmpty

/-! ## Writing -/

/-- Adds a span under its identifier and its trace. -/
def enter (t : TraceIndex) (r : SpanRecord) : TraceIndex :=
  { t with
    byId := t.byId.insert r.spanId r
    byTrace := t.byTrace.insert r.traceId (t.byTrace.getD r.traceId [] ++ [r]) }

/-- Adds a span as the first one of its pair. -/
def openPair (t : TraceIndex) (service : String) (r : SpanRecord) : TraceIndex :=
  { t with
    byService := t.byService.put r.traceId service [r]
    errors := t.errors.put r.traceId service r.hasError
    representatives := t.representatives.put r.traceId service (.choose r) }

/-- Adds a span to the earlier ones of its pair. -/
def joinPair (t : TraceIndex) (service : String) (spans : List SpanRecord) (r : SpanRecord) :
    TraceIndex :=
  { t with
    byService := t.byService.put r.traceId service (spans ++ [r])
    errors := if r.hasError then t.errors.put r.traceId service true else t.errors }

/-- The index with another representative of a pair. -/
def setRoot (t : TraceIndex) (p : Pair) (root : Representative) : TraceIndex :=
  { t with representatives := t.representatives.put p.traceId p.service root }

/-- Puts a span in the place of the representative, if that one waits for it or if there
is none. -/
def promote (t : TraceIndex) (service : String) (r : SpanRecord) : TraceIndex × InsertOutcome :=
  let p : Pair := ⟨r.traceId, service⟩
  match t.root? p with
  | none => (t.setRoot p (.choose r), .unchanged)
  | some root =>
    if root.yieldsTo r then
      (t.setRoot p { root with span := r }, ⟨false, some root.span.spanId⟩)
    else (t, .unchanged)

/-- Adds a span under a service, unless its identifier is taken. -/
def insert (t : TraceIndex) (service : String) (r : SpanRecord) : TraceIndex × InsertOutcome :=
  if (t.span? r.spanId).isSome then (t, .unchanged)
  else
    match t.spansOfPair? ⟨r.traceId, service⟩ with
    | none => ((t.enter r).openPair service r, ⟨true, none⟩)
    | some spans => ((t.enter r).joinPair service spans r).promote service r

/-- Drops some spans of a pair, which are all that it has. -/
def removePair (t : TraceIndex) (p : Pair) (spans : List SpanRecord) : TraceIndex :=
  let ids := spans.map (·.spanId)
  { byId := ids.foldl (fun m i => m.erase i) t.byId
    byTrace := t.byTrace.modify p.traceId fun rs => rs.filter fun r => !ids.contains r.spanId
    byService := t.byService.drop p.traceId p.service
    errors := t.errors.drop p.traceId p.service
    representatives := t.representatives.drop p.traceId p.service }

/-- Drops what there is under a trace. -/
def removeTrace (t : TraceIndex) (traceId : TraceId) : TraceIndex :=
  { t with
    byTrace := t.byTrace.erase traceId
    byService := t.byService.erase traceId
    errors := t.errors.erase traceId
    representatives := t.representatives.erase traceId }

/-- Drops all spans of a pair, and the trace if that was its last service. -/
def evict (t : TraceIndex) (p : Pair) : TraceIndex :=
  match t.spansOfPair? p with
  | none => t
  | some spans =>
    let rest := t.removePair p spans
    if (rest.byService.getD p.traceId ∅).isEmpty then rest.removeTrace p.traceId else rest

/-- Drops the pairs that some records belong to by their own resources. -/
def delete (t : TraceIndex) (records : List SpanRecord) : TraceIndex :=
  records.foldl (fun t r => t.evict r.pair) t

/-- Chooses the representative of a pair anew. -/
def recalculate (t : TraceIndex) (p : Pair) : TraceIndex × Option SpanRecord :=
  match (t.spansOfPair? p).bind entryOf? with
  | none => (t, none)
  | some r => (t.setRoot p (.choose r), some r)

/-- Drops all spans. -/
def flush (t : TraceIndex) : TraceIndex :=
  { t with byId := ∅, byTrace := ∅, byService := ∅, errors := ∅, representatives := ∅ }

end TraceIndex

end Telemetry
