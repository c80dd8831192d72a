import Telemetry.Span

/-!
# Orders of spans

The orders in which span records can be shown: as they came, or by latency.
Records of equal rank stay as they came.

* `SpanOrder.compare`: how an order ranks two records;
* `SpanOrder.sort`: the records in that order.
-/

namespace Telemetry

/-- An order in which span records are shown. -/
inductive SpanOrder where
  | arrival
  | latencyDesc
  | latencyAsc
  deriving DecidableEq

namespace SpanOrder

/-- All orders, each followed by the next one. -/
def all : List SpanOrder := [.arrival, .latencyDesc, .latencyAsc]

instance : Inhabited SpanOrder := ⟨.arrival⟩

/-- The name of an order in payloads. -/
def name : SpanOrder → String
  | .arrival => "none"
  | .latencyDesc => "latency_desc"
  | .latencyAsc => "latency_asc"

/-- The name of an order for people. -/
def label : SpanOrder → String
  | .arrival => "none"
  | .latencyDesc => "latency (desc)"
  | .latencyAsc => "latency (asc)"

/-- The order that follows when one goes through all of them. -/
def next : SpanOrder → SpanOrder
  | .arrival => .latencyDesc
  | .latencyDesc => .latencyAsc
  | .latencyAsc => .arrival

/-- How an order ranks two records. -/
def compare (order : SpanOrder) (a b : SpanRecord) : Ordering :=
  match order with
  | .arrival => .eq
  | .latencyDesc => Ord.compare b.latency a.latency
  | .latencyAsc => Ord.compare a.latency b.latency

/-- The records in the given order; equal ones keep their places to each other. -/
def sort (order : SpanOrder) (records : List SpanRecord) : List SpanRecord :=
  match order with
  | .arrival => records
  | _ => records.mergeSort fun a b => (order.compare a b).isLE

end SpanOrder

end Telemetry
