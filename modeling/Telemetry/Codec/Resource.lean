import Telemetry.Json.Decoder
import Telemetry.Json.Encoder
import Telemetry.Resource

/-!
# Resources and scopes as JSON
-/

namespace Telemetry

open Json

/-- Reads an instant from its stamp. -/
def Decoder.instant : Decoder Instant
  | _, .str s =>
    match Instant.ofStamp? s with
    | some t => .ok t
    | none => .error .badTime
  | _, d => .error d.mismatch

/-- Reads a resource. -/
def Resource.decoder : Decoder Resource :=
  .record ["attributes", "dropped_attributes_count"] fun fields =>
    Resource.mk <$> fields.optional "attributes" .object .empty
      <*> fields.optional "dropped_attributes_count" .uint32 0

/-- The JSON value of a resource. -/
def Resource.toJson (r : Resource) : Json :=
  .obj [("attributes", ofObject r.attributes),
    ("dropped_attributes_count", ofUInt32 r.droppedAttributesCount)]

/-- Reads a scope. -/
def Scope.decoder : Decoder Scope :=
  .record ["name", "version", "attributes"] fun fields =>
    Scope.mk <$> fields.optional "name" .string ""
      <*> fields.optional "version" .string ""
      <*> fields.optional "attributes" .object .empty

/-- The JSON value of a scope. -/
def Scope.toJson (s : Scope) : Json :=
  .obj [("attributes", ofObject s.attributes), ("name", .str s.name), ("version", .str s.version)]

end Telemetry
