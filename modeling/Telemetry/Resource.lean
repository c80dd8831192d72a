import Telemetry.Json.Writer

/-!
# Resources and scopes

What a group of records has in common: the resource that emitted them and the
instrumentation scope within it.

* `Resource.serviceName`: the name under which a resource's records are kept.
-/

namespace Telemetry

/-- Named values that describe a resource, a scope or a record. -/
abbrev Attributes := Json.Object

/-- The attribute that holds the name of the service. -/
def serviceNameKey : String := "service.name"

/-- The name of a service that does not name itself. -/
def unknownService : String := "unknown"

/-- The process or service that records come from. -/
structure Resource where
  attributes : Attributes
  droppedAttributesCount : UInt32

namespace Resource

/-- The resource without attributes. -/
def empty : Resource := ⟨.empty, 0⟩

instance : Inhabited Resource := ⟨empty⟩

/-- A resource whose only attribute is the name of its service. -/
def ofServiceName (name : String) : Resource :=
  ⟨Json.Object.empty.put serviceNameKey ⟨.str name, trivial⟩, 0⟩

/-- The name of the service: a text that is not empty as it stands, and any other
value but null as JSON text. -/
def serviceName (r : Resource) : String :=
  match r.attributes.get? serviceNameKey with
  | some (.str name) => if name.isEmpty then unknownService else name
  | some .null | none => unknownService
  | some value => value.text

end Resource

/-- The instrumentation within a resource that records come from. -/
structure Scope where
  name : String
  version : String
  attributes : Attributes

namespace Scope

/-- The scope without a name. -/
def empty : Scope := ⟨"", "", .empty⟩

instance : Inhabited Scope := ⟨empty⟩

/-- A scope with a name and a version. -/
def ofName (name version : String) : Scope := ⟨name, version, .empty⟩

end Scope

end Telemetry
