import Telemetry.Json.Decoder
import Telemetry.Json.Encoder
import Telemetry.Settings.Basic

/-!
# Settings as JSON

Every setting that is not given has its default.
-/

namespace Telemetry

open Json

/-- Reads the settings of the store. -/
def StoreSettings.decoder : Decoder StoreSettings :=
  .record ["max_service_span_count", "max_log_count", "max_metric_count"] fun fields =>
    StoreSettings.mk
      <$> fields.optional "max_service_span_count" .count StoreSettings.default.maxServiceSpans
      <*> fields.optional "max_log_count" .count StoreSettings.default.maxLogs
      <*> fields.optional "max_metric_count" .count StoreSettings.default.maxMetrics

/-- The JSON value of the settings of the store. -/
def StoreSettings.toJson (s : StoreSettings) : Json :=
  .obj [("max_log_count", ofCount s.maxLogs), ("max_metric_count", ofCount s.maxMetrics),
    ("max_service_span_count", ofCount s.maxServiceSpans)]

/-- Reads the settings of the engine. -/
def EngineSettings.decoder : Decoder EngineSettings :=
  .record ["buffer_size", "batch_size", "flush_interval_ms"] fun fields =>
    EngineSettings.mk <$> fields.optional "buffer_size" .count EngineSettings.default.bufferSize
      <*> fields.optional "batch_size" .count EngineSettings.default.batchSize
      <*> fields.optional "flush_interval_ms" .count EngineSettings.default.flushIntervalMs

/-- The JSON value of the settings of the engine. -/
def EngineSettings.toJson (s : EngineSettings) : Json :=
  .obj [("batch_size", ofCount s.batchSize), ("buffer_size", ofCount s.bufferSize),
    ("flush_interval_ms", ofCount s.flushIntervalMs)]

/-- Reads the settings of the reports. -/
def LoggingSettings.decoder : Decoder LoggingSettings :=
  .record ["level", "include_modules"] fun fields =>
    LoggingSettings.mk <$> fields.optional "level" .string LoggingSettings.default.level
      <*> fields.optional "include_modules" .bool LoggingSettings.default.includeModules

/-- The JSON value of the settings of the reports. -/
def LoggingSettings.toJson (s : LoggingSettings) : Json :=
  .obj [("include_modules", .bool s.includeModules), ("level", .str s.level)]

/-- Reads all settings. -/
def Settings.decoder : Decoder Settings :=
  .record ["store", "engine", "logging"] fun fields =>
    Settings.mk <$> fields.optional "store" StoreSettings.decoder .default
      <*> fields.optional "engine" EngineSettings.decoder .default
      <*> fields.optional "logging" LoggingSettings.decoder .default

/-- The JSON value of all settings. -/
def Settings.toJson (s : Settings) : Json :=
  .obj [("engine", s.engine.toJson), ("logging", s.logging.toJson), ("store", s.store.toJson)]

end Telemetry
