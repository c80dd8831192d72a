import Telemetry.Id
import Telemetry.Json.Value
import Telemetry.Time.Stamp

/-!
# Encoding

The JSON values of the scalars and containers that records are made of. Each
one is what the decoder of the same name reads back.
-/

namespace Telemetry.Json

/-- A signed integer of 32 bits. -/
def ofInt32 (n : Int32) : Json :=
  .int ⟨n.toInt, by have := n.le_toInt; have := n.toInt_lt; omega⟩

/-- A signed integer of 64 bits. -/
def ofInt64 (n : Int64) : Json :=
  .int ⟨n.toInt, by have := n.le_toInt; have := n.toInt_lt; omega⟩

/-- An unsigned integer of 32 bits. -/
def ofUInt32 (n : UInt32) : Json :=
  .int ⟨n.toNat, by have := n.toNat_lt; omega⟩

/-- An unsigned integer of 64 bits. -/
def ofUInt64 (n : UInt64) : Json :=
  .int ⟨n.toNat, by have := n.toNat_lt; omega⟩

/-- A count; one that does not fit into 64 bits has no JSON value but null. -/
def ofCount (n : Nat) : Json :=
  if h : n < 0x10000000000000000 then .int ⟨n, by omega⟩ else .null

/-- A double; infinities and NaN have no JSON value but null. -/
def ofDouble (x : Binary64) : Json :=
  if h : x.isFinite = true then .float ⟨x, h⟩ else .null

/-- An identifier by its text. -/
def ofId {kind : IdKind} (i : Id kind) : Json := .str i.text

/-- An instant by its stamp. -/
def ofInstant (t : Instant) : Json := .str t.stamp

/-- A value that may be absent, which is null. -/
def ofOption {α : Type} (encode : α → Json) : Option α → Json
  | none => .null
  | some a => encode a

/-- The array of the values of a list. -/
def ofList {α : Type} (encode : α → Json) (as : List α) : Json :=
  .arr (as.map encode)

/-- The object with the given members. -/
def ofObject (o : Object) : Json := .obj o.1

end Telemetry.Json
