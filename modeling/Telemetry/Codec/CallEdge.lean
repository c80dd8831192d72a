import Telemetry.CallGraph.Basic
import Telemetry.Json.Decoder
import Telemetry.Json.Encoder

/-!
# Edges of the graph of calls as JSON
-/

namespace Telemetry

open Json

/-- Reads an edge. -/
def CallEdge.decoder : Decoder CallEdge :=
  .record ["parent", "child", "call_count"] fun fields =>
    CallEdge.mk <$> fields.required "parent" .string
      <*> fields.required "child" .string
      <*> fields.required "call_count" .count

/-- The JSON value of an edge. -/
def CallEdge.toJson (e : CallEdge) : Json :=
  .obj [("call_count", ofCount e.count), ("child", .str e.callee), ("parent", .str e.caller)]

end Telemetry
