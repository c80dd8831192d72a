import Telemetry.Batch
import Telemetry.Index.Traces
import Telemetry.SpanOrder
import Telemetry.Store.View

/-!
# The shelf of spans

All spans are in the index; what is held on the shelf, counted and limited, is
one record for each pair of trace and service, the representative of the pair.
When the oldest pairs are dropped, all their spans leave the index.

* `SpanShelf.ingest`: takes in groups of spans;
* `SpanShelf.filter`: shows what matches a query, in an order;
* `SpanShelf.recalculate`: corrects the record of the pair at a position;
* `SpanShelf.flush`: drops everything.
-/

namespace Telemetry

/-- The spans of the store. -/
structure SpanShelf where
  limit : Nat
  index : TraceIndex
  /-- One record for each pair, in the order in which the pairs came up. -/
  held : List SpanRecord
  /-- The records that match the query, in the order that was asked for. -/
  shown : List SpanRecord
  query : String
  order : SpanOrder
  /-- The serial number of the next record. No record survives a flush, so numbers
  begin anew after one. -/
  nextSerial : Nat

namespace SpanShelf

/-- The shelf without spans. -/
def empty (limit : Nat) : SpanShelf :=
  { limit, index := .empty, held := [], shown := [], query := "", order := .arrival,
    nextSerial := 0 }

/-- The record that is made of a span on its arrival. -/
def record (s : SpanShelf) (a : Arrival Span) : SpanRecord :=
  .ofArrival s.nextSerial a

/-- The records of a list with `r` in the place of the span that it replaced. -/
def replaceIn (held : List SpanRecord) (r : SpanRecord) (replaced : SpanId) : List SpanRecord :=
  replaceFirst (fun s => s.spanId == replaced && s.traceId == r.traceId) r held

/-- Takes in one span: it is held if it is the first of its pair, or in the place of
the representative that it replaces. -/
def take (s : SpanShelf) (a : Arrival Span) : SpanShelf :=
  let r := s.record a
  let (index, outcome) := s.index.insert r.service r
  { s with
    index
    nextSerial := s.nextSerial + 1
    held :=
      if outcome.isNewPair then s.held ++ [r]
      else match outcome.replaced with
        | some replaced => replaceIn s.held r replaced
        | none => s.held }

/-- Drops the oldest pairs beyond the limit. -/
def rotate (s : SpanShelf) : SpanShelf :=
  { s with
    index := s.index.delete (overflow s.limit s.held)
    held := retained s.limit s.held }

/-- Whether a record matches the query. -/
def isMatch (query : String) (r : SpanRecord) : Bool :=
  matchesQuery query r.service r.span.name

/-- Brings the view up to date. -/
def refresh (s : SpanShelf) : SpanShelf :=
  { s with shown := s.order.sort (s.held.filter (isMatch s.query)) }

/-- Takes in groups of spans: all spans, then one rotation. -/
def ingest (s : SpanShelf) (groups : List (Group Span)) : SpanShelf :=
  ((Group.flatten groups).foldl take s).rotate.refresh

/-- Shows the records that match a query, in an order. -/
def filter (s : SpanShelf) (query : String) (order : SpanOrder) : SpanShelf :=
  refresh { s with query, order }

/-- Chooses the representative of the pair shown at a position anew, and puts it into
the pair's places on the shelf and in the view, which keeps its order. -/
def recalculate (s : SpanShelf) (position : Nat) : SpanShelf × Option SpanRecord :=
  match s.shown[position]? with
  | none => (s, none)
  | some current =>
    match s.index.recalculate current.pair with
    | (_, none) => (s, none)
    | (index, some root) =>
      ({ s with
          index
          held := replaceFirst (·.serial == current.serial) root s.held
          shown := s.shown.set position root },
        some root)

/-- Drops everything, the query and the order included. -/
def flush (s : SpanShelf) : SpanShelf :=
  { s with
    index := s.index.flush
    held := []
    shown := []
    query := ""
    order := .arrival
    nextSerial := 0 }

end SpanShelf

end Telemetry
