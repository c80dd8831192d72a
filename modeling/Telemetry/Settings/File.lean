import Telemetry.Json.Writer
import Telemetry.Number.Decimal
import Telemetry.Settings.Codec
import Telemetry.Toml.Reader

/-!
# Settings files

Settings are kept in TOML.

* `Settings.ofToml?`: the settings of a text;
* `Settings.load`: the settings of a file that may be missing;
* `Settings.toToml`: the text of settings.
-/

namespace Telemetry

/-- Why there are no settings. -/
inductive LoadError where
  /-- A text does not hold settings. -/
  | unreadableText
  /-- A file does not hold settings. -/
  | unreadableFile
  /-- There is no file. -/
  | missingFile
  deriving DecidableEq

/-- The wording of an error. -/
def LoadError.message : LoadError → String
  | .unreadableText => "Failed to parse config"
  | .unreadableFile => "Failed to parse config file"
  | .missingFile => "Failed to read config file"

namespace Settings

/-- The settings that a TOML text holds. -/
def ofToml? (text : String) : Option Settings := do
  let document ← Toml.document? text
  (decoder .settings document.toDraft).toOption

/-- The settings of a text. -/
def ofText (text : String) : Except LoadError Settings :=
  match ofToml? text with
  | some s => .ok s
  | none => .error .unreadableText

/-- The settings of a file, given what it holds if it is there. -/
def load (contents : Option String) : Except LoadError Settings :=
  match contents with
  | none => .error .missingFile
  | some text =>
    match ofToml? text with
    | some s => .ok s
    | none => .error .unreadableFile

/-- The settings of a file, and the default ones if there are none in it. -/
def loadOrDefault (contents : Option String) : Settings :=
  (load contents).toOption.getD default

/-- A line of a settings file. -/
def tomlLine (key value : String) : String := key ++ " = " ++ value ++ "\n"

/-- The text of settings, one table for each part. -/
def toToml (s : Settings) : String :=
  "[store]\n" ++
    tomlLine "max_service_span_count" (Number.decimal s.store.maxServiceSpans) ++
    tomlLine "max_log_count" (Number.decimal s.store.maxLogs) ++
    tomlLine "max_metric_count" (Number.decimal s.store.maxMetrics) ++
    "\n[engine]\n" ++
    tomlLine "buffer_size" (Number.decimal s.engine.bufferSize) ++
    tomlLine "batch_size" (Number.decimal s.engine.batchSize) ++
    tomlLine "flush_interval_ms" (Number.decimal s.engine.flushIntervalMs) ++
    "\n[logging]\n" ++
    tomlLine "level" (Json.stringText s.logging.level) ++
    tomlLine "include_modules" (if s.logging.includeModules then "true" else "false")

end Settings

end Telemetry
