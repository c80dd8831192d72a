import Telemetry.Text.LowerCase

/-!
# Settings

How much is kept, how records are taken in, and what is reported.

* `StoreSettings`, `EngineSettings`, `LoggingSettings`, `Settings`;
* `Settings.validate`: the first setting that makes no sense.
-/

namespace Telemetry

/-- A setting that makes no sense. -/
inductive SettingsFault where
  /-- A number that has to be positive is zero. -/
  | zero (setting : String)
  /-- There is no level of this name, which is given in lower case. -/
  | unknownLevel (name : String)
  deriving DecidableEq

/-- The wording of a fault. -/
def SettingsFault.message : SettingsFault → String
  | .zero setting => setting ++ " must be greater than 0"
  | .unknownLevel name => "Invalid log level: " ++ name

/-- How many service spans, logs and metrics are kept. -/
structure StoreSettings where
  maxServiceSpans : Nat
  maxLogs : Nat
  maxMetrics : Nat
  deriving DecidableEq

namespace StoreSettings

/-- The limits where none are given. -/
def default : StoreSettings := ⟨1000, 1000, 3000⟩

instance : Inhabited StoreSettings := ⟨default⟩

/-- Refuses a limit of zero. -/
def validate (s : StoreSettings) : Except SettingsFault Unit :=
  if s.maxServiceSpans = 0 then .error (.zero "max_service_span_count")
  else if s.maxLogs = 0 then .error (.zero "max_log_count")
  else if s.maxMetrics = 0 then .error (.zero "max_metric_count")
  else .ok ()

end StoreSettings

/-- How batches are taken in: how many can wait, how many are applied at a time, and
how long to pause in between. -/
structure EngineSettings where
  bufferSize : Nat
  batchSize : Nat
  flushIntervalMs : Nat
  deriving DecidableEq

namespace EngineSettings

/-- The engine where nothing is set. -/
def default : EngineSettings := ⟨1024, 64, 50⟩

instance : Inhabited EngineSettings := ⟨default⟩

/-- Refuses a buffer or a batch of size zero. -/
def validate (s : EngineSettings) : Except SettingsFault Unit :=
  if s.bufferSize = 0 then .error (.zero "engine buffer_size")
  else if s.batchSize = 0 then .error (.zero "engine batch_size")
  else .ok ()

end EngineSettings

/-- How important a report is. -/
inductive Level where
  | trace
  | debug
  | info
  | warn
  | error
  deriving DecidableEq

namespace Level

/-- All levels, the least important first. -/
def all : List Level := [.trace, .debug, .info, .warn, .error]

/-- The name of a level. -/
def name : Level → String
  | .trace => "trace"
  | .debug => "debug"
  | .info => "info"
  | .warn => "warn"
  | .error => "error"

/-- The name of a level in capitals. -/
def label : Level → String
  | .trace => "TRACE"
  | .debug => "DEBUG"
  | .info => "INFO"
  | .warn => "WARN"
  | .error => "ERROR"

/-- How important the level is, as a number. -/
def rank : Level → Nat
  | .trace => 0
  | .debug => 1
  | .info => 2
  | .warn => 3
  | .error => 4

/-- A text in lower case. -/
def lowered (s : String) : String :=
  String.ofList (Text.lower s.toList)

/-- The level of a name in either case. -/
def ofName? (s : String) : Option Level :=
  all.find? (·.name == lowered s)

/-- The level of a name in either case, `info` if there is none. -/
def ofName (s : String) : Level :=
  (ofName? s).getD .info

end Level

/-- What is reported: the least important level that is, and whether reports name
the module that they come from. -/
structure LoggingSettings where
  level : String
  includeModules : Bool
  deriving DecidableEq

namespace LoggingSettings

/-- The reports where nothing is set. -/
def default : LoggingSettings := ⟨"info", false⟩

instance : Inhabited LoggingSettings := ⟨default⟩

/-- Refuses a name that no level has. -/
def validate (s : LoggingSettings) : Except SettingsFault Unit :=
  if (Level.ofName? s.level).isSome then .ok ()
  else .error (.unknownLevel (Level.lowered s.level))

end LoggingSettings

/-- All settings. -/
structure Settings where
  store : StoreSettings
  engine : EngineSettings
  logging : LoggingSettings
  deriving DecidableEq

namespace Settings

/-- The settings where none are given. -/
def default : Settings := ⟨.default, .default, .default⟩

instance : Inhabited Settings := ⟨default⟩

/-- The first setting that makes no sense: of the store, then of the engine, then of
the reports. -/
def validate (s : Settings) : Except SettingsFault Unit := do
  s.store.validate
  s.engine.validate
  s.logging.validate

end Settings

end Telemetry
