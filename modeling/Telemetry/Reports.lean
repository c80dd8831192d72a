import Telemetry.Settings.Basic

/-!
# Reports

Where reports on the work of the store go. There is one subscriber to them, which
is installed once and shows the reports of its level and of the more important
ones.

* `Subscriber.install`: refuses a second subscriber;
* `Subscriber.shows`: whether a report is shown.
-/

namespace Telemetry

/-- Takes the reports of a level and of the more important ones. -/
structure Subscriber where
  level : Level
  includeModules : Bool
  deriving DecidableEq

/-- There is a subscriber already. -/
inductive InstallError where
  | alreadyInstalled
  deriving DecidableEq

/-- The wording of the error. -/
def InstallError.message : InstallError → String
  | .alreadyInstalled =>
    "Failed to install tracing subscriber: a global default trace dispatcher has already been set"

namespace Subscriber

/-- The subscriber that settings ask for, unless there is one already. -/
def install (present : Option Subscriber) (s : LoggingSettings) :
    Except InstallError Subscriber :=
  match present with
  | some _ => .error .alreadyInstalled
  | none => .ok ⟨Level.ofName s.level, s.includeModules⟩

/-- Whether a report of a level is shown. -/
def shows (s : Subscriber) (level : Level) : Bool :=
  s.level.rank ≤ level.rank

end Subscriber

end Telemetry
