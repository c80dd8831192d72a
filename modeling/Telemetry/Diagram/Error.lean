import Telemetry.Number.Decimal
import Telemetry.Text.Quoted

/-!
# Why a description cannot be drawn
-/

namespace Telemetry

/-- What is wrong with a line that should be a chain of calls. -/
inductive ChainFault where
  /-- Nothing stands before the first arrow. -/
  | missingSource
  /-- A count has no end. -/
  | unterminatedCount
  /-- What stands where a count should stand is no count. -/
  | invalidCount (text : String)
  /-- Nothing stands after a count. -/
  | missingTarget
  /-- The line has no arrow. -/
  | noArrow (line : String)
  deriving DecidableEq

/-- The wording of a fault of a line. -/
def ChainFault.message : ChainFault → String
  | .missingSource => "missing source service"
  | .unterminatedCount => "unterminated call count"
  | .invalidCount text => "invalid call count " ++ Text.quoted text
  | .missingTarget => "missing target service"
  | .noArrow line => "expected `-->` in " ++ Text.quoted line

/-- Why a description cannot be drawn. -/
inductive RenderError where
  /-- The first line is no header. -/
  | missingHeader
  /-- A line is no chain of calls; lines count from 1. -/
  | malformedEdge (line : Nat) (fault : ChainFault)
  /-- The renderer itself failed. -/
  | backend (reason : String)
  deriving DecidableEq

/-- The wording of an error. -/
def RenderError.message : RenderError → String
  | .missingHeader => "diagram description must start with a `graph` header"
  | .malformedEdge line fault =>
    "malformed edge on line " ++ Number.decimal line ++ ": " ++ fault.message
  | .backend reason => "diagram backend failed: " ++ reason

end Telemetry
