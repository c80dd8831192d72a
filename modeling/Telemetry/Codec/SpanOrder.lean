import Telemetry.Json.Decoder
import Telemetry.SpanOrder

/-!
# Orders of spans as JSON
-/

namespace Telemetry

/-- Reads an order by its name. -/
def SpanOrder.decoder : Decoder SpanOrder :=
  .variants (all.map fun order => .unit order.name order)

/-- The JSON value of an order. -/
def SpanOrder.toJson (order : SpanOrder) : Json := .str order.name

end Telemetry
