import Telemetry.Codec.Resource
import Telemetry.Metric

/-!
# Metrics as JSON

The data of a metric is one object (or array) with the name of its shape among
its fields (or in front of them). The name may come last, so the other fields
are held back until it is known.

* `MetricData.decoder`: finds the name, then reads the fields of that shape;
* `NumberValue.decoder`: an integer if the value is one, and a double otherwise.
-/

namespace Telemetry

open Json

/-- The name of a temporality. -/
def AggregationTemporality.name : AggregationTemporality → String
  | .unspecified => "Unspecified"
  | .delta => "Delta"
  | .cumulative => "Cumulative"

/-- All temporalities. -/
def AggregationTemporality.all : List AggregationTemporality := [.unspecified, .delta, .cumulative]

/-- Reads a temporality. -/
def AggregationTemporality.decoder : Decoder AggregationTemporality :=
  .variants (all.map fun t => .unit t.name t)

/-- Reads a measured number. -/
def NumberValue.decoder : Decoder NumberValue := fun _ d =>
  if d.usable then
    match Decoder.int64 .held d, Decoder.double .held d with
    | .ok n, _ => .ok (.int n)
    | _, .ok x => .ok (.double x)
    | _, _ => .error (.noVariant "NumberValue")
  else .error .malformed

/-- The JSON value of a measured number. -/
def NumberValue.toJson : NumberValue → Json
  | .int n => ofInt64 n
  | .double x => ofDouble x

/-- Reads a number measured at a time. -/
def NumberDataPoint.decoder : Decoder NumberDataPoint :=
  .record ["time", "start_time", "value", "attributes"] fun fields =>
    NumberDataPoint.mk <$> fields.required "time" .instant
      <*> fields.optional "start_time" (.option .instant) none
      <*> fields.required "value" NumberValue.decoder
      <*> fields.optional "attributes" .object .empty

/-- The JSON value of a number measured at a time. -/
def NumberDataPoint.toJson (p : NumberDataPoint) : Json :=
  .obj [("attributes", ofObject p.attributes),
    ("start_time", ofOption ofInstant p.startTime),
    ("time", ofInstant p.time),
    ("value", p.value.toJson)]

/-- Reads measurements counted in buckets. -/
def HistogramDataPoint.decoder : Decoder HistogramDataPoint :=
  .record ["time", "start_time", "count", "sum", "bucket_counts", "explicit_bounds", "min", "max",
      "attributes"] fun fields =>
    HistogramDataPoint.mk <$> fields.required "time" .instant
      <*> fields.optional "start_time" (.option .instant) none
      <*> fields.required "count" .uint64
      <*> fields.optional "sum" (.option .double) none
      <*> fields.optional "bucket_counts" (.list .uint64) []
      <*> fields.optional "explicit_bounds" (.list .double) []
      <*> fields.optional "min" (.option .double) none
      <*> fields.optional "max" (.option .double) none
      <*> fields.optional "attributes" .object .empty

/-- The JSON value of measurements counted in buckets. -/
def HistogramDataPoint.toJson (p : HistogramDataPoint) : Json :=
  .obj [("attributes", ofObject p.attributes),
    ("bucket_counts", Json.ofList ofUInt64 p.bucketCounts),
    ("count", ofUInt64 p.count),
    ("explicit_bounds", Json.ofList ofDouble p.explicitBounds),
    ("max", ofOption ofDouble p.max),
    ("min", ofOption ofDouble p.min),
    ("start_time", ofOption ofInstant p.startTime),
    ("sum", ofOption ofDouble p.sum),
    ("time", ofInstant p.time)]

/-- Reads a row of exponential buckets. -/
def ExponentialBuckets.decoder : Decoder ExponentialBuckets :=
  .record ["offset", "bucket_counts"] fun fields =>
    ExponentialBuckets.mk <$> fields.optional "offset" .int32 0
      <*> fields.optional "bucket_counts" (.list .uint64) []

/-- The JSON value of a row of exponential buckets. -/
def ExponentialBuckets.toJson (b : ExponentialBuckets) : Json :=
  .obj [("bucket_counts", Json.ofList ofUInt64 b.bucketCounts), ("offset", ofInt32 b.offset)]

/-- Reads measurements counted in exponential buckets. -/
def ExponentialHistogramDataPoint.decoder : Decoder ExponentialHistogramDataPoint :=
  .record ["time", "start_time", "count", "sum", "scale", "zero_count", "positive", "negative",
      "attributes"] fun fields =>
    ExponentialHistogramDataPoint.mk <$> fields.required "time" .instant
      <*> fields.optional "start_time" (.option .instant) none
      <*> fields.required "count" .uint64
      <*> fields.optional "sum" (.option .double) none
      <*> fields.optional "scale" .int32 0
      <*> fields.optional "zero_count" .uint64 0
      <*> fields.optional "positive" ExponentialBuckets.decoder .empty
      <*> fields.optional "negative" ExponentialBuckets.decoder .empty
      <*> fields.optional "attributes" .object .empty

/-- The JSON value of measurements counted in exponential buckets. -/
def ExponentialHistogramDataPoint.toJson (p : ExponentialHistogramDataPoint) : Json :=
  .obj [("attributes", ofObject p.attributes),
    ("count", ofUInt64 p.count),
    ("negative", p.negative.toJson),
    ("positive", p.positive.toJson),
    ("scale", ofInt32 p.scale),
    ("start_time", ofOption ofInstant p.startTime),
    ("sum", ofOption ofDouble p.sum),
    ("time", ofInstant p.time),
    ("zero_count", ofUInt64 p.zeroCount)]

/-- Reads a quantile. -/
def ValueAtQuantile.decoder : Decoder ValueAtQuantile :=
  .record ["quantile", "value"] fun fields =>
    ValueAtQuantile.mk <$> fields.required "quantile" .double
      <*> fields.required "value" .double

/-- The JSON value of a quantile. -/
def ValueAtQuantile.toJson (q : ValueAtQuantile) : Json :=
  .obj [("quantile", ofDouble q.quantile), ("value", ofDouble q.value)]

/-- Reads measurements summed up by quantiles. -/
def SummaryDataPoint.decoder : Decoder SummaryDataPoint :=
  .record ["time", "start_time", "count", "sum", "quantile_values", "attributes"] fun fields =>
    SummaryDataPoint.mk <$> fields.required "time" .instant
      <*> fields.optional "start_time" (.option .instant) none
      <*> fields.required "count" .uint64
      <*> fields.required "sum" .double
      <*> fields.optional "quantile_values" (.list ValueAtQuantile.decoder) []
      <*> fields.optional "attributes" .object .empty

/-- The JSON value of measurements summed up by quantiles. -/
def SummaryDataPoint.toJson (p : SummaryDataPoint) : Json :=
  .obj [("attributes", ofObject p.attributes),
    ("count", ofUInt64 p.count),
    ("quantile_values", Json.ofList ValueAtQuantile.toJson p.quantileValues),
    ("start_time", ofOption ofInstant p.startTime),
    ("sum", ofDouble p.sum),
    ("time", ofInstant p.time)]

namespace MetricData

/-- The names of the shapes. -/
inductive Shape where
  | gauge
  | sum
  | histogram
  | exponentialHistogram
  | summary

/-- The field that holds the name of the shape. -/
def shapeKey : String := "type"

/-- Reads the name of a shape. -/
def Shape.decoder : Decoder Shape
  | _, .str "Gauge" => .ok .gauge
  | _, .str "Sum" => .ok .sum
  | _, .str "Histogram" => .ok .histogram
  | _, .str "ExponentialHistogram" => .ok .exponentialHistogram
  | _, .str "Summary" => .ok .summary
  | _, .str name => .error (.unknownVariant name)
  | _, d => .error d.mismatch

/-- Reads the data of a given shape. -/
def Shape.dataDecoder : Shape → Decoder MetricData
  | .gauge =>
    .record ["data_points"] fun fields =>
      MetricData.gauge <$> fields.required "data_points" (.list NumberDataPoint.decoder)
  | .sum =>
    .record ["data_points", "is_monotonic", "temporality"] fun fields =>
      MetricData.sum <$> fields.required "data_points" (.list NumberDataPoint.decoder)
        <*> fields.optional "is_monotonic" .bool false
        <*> fields.optional "temporality" AggregationTemporality.decoder .unspecified
  | .histogram =>
    .record ["data_points", "temporality"] fun fields =>
      MetricData.histogram <$> fields.required "data_points" (.list HistogramDataPoint.decoder)
        <*> fields.optional "temporality" AggregationTemporality.decoder .unspecified
  | .exponentialHistogram =>
    .record ["data_points", "temporality"] fun fields =>
      MetricData.exponentialHistogram
        <$> fields.required "data_points" (.list ExponentialHistogramDataPoint.decoder)
        <*> fields.optional "temporality" AggregationTemporality.decoder .unspecified
  | .summary =>
    .record ["data_points"] fun fields =>
      MetricData.summary <$> fields.required "data_points" (.list SummaryDataPoint.decoder)

/-- An object taken apart: the shape that it names, if it does, and its other
members, which have to be usable since they are held back. -/
def splitMembers (src : Source) (shape : Option Shape) :
    List (Option String × Draft) →
      Except DecodeError (Option Shape × List (Option String × Draft))
  | [] => .ok (shape, [])
  | (none, _) :: _ => .error .malformed
  | (some key, d) :: rest =>
    if key = shapeKey then
      if shape.isSome then .error (.duplicate shapeKey)
      else match Shape.decoder src d with
        | .ok s => splitMembers src (some s) rest
        | .error e => .error e
    else if d.usable then
      (splitMembers src shape rest).map fun (s, others) => (s, (some key, d) :: others)
    else .error .malformed

/-- Reads the data of a metric. -/
def decoder : Decoder MetricData
  | src, .obj members ending => do
    let (shape, others) ← splitMembers src none members
    match shape with
    | some shape =>
      if ending = .closed then shape.dataDecoder .held (.obj others .closed) else .error .malformed
    | none => .error (if ending = .closed then .missing shapeKey else .malformed)
  | src, .arr (d :: items) ending => do
    let shape ← Shape.decoder src d
    if Draft.usableItems items && ending == .closed then
      shape.dataDecoder .held (.arr items .closed)
    else .error .malformed
  | _, .arr [] ending => .error (if ending = .closed then .missing shapeKey else .malformed)
  | _, d => .error d.mismatch

/-- The JSON value of the data of a metric. -/
def toJson : MetricData → Json
  | .gauge points =>
    .obj [("data_points", Json.ofList NumberDataPoint.toJson points), (shapeKey, .str "Gauge")]
  | .sum points isMonotonic temporality =>
    .obj [("data_points", Json.ofList NumberDataPoint.toJson points),
      ("is_monotonic", .bool isMonotonic),
      ("temporality", .str temporality.name), (shapeKey, .str "Sum")]
  | .histogram points temporality =>
    .obj [("data_points", Json.ofList HistogramDataPoint.toJson points),
      ("temporality", .str temporality.name), (shapeKey, .str "Histogram")]
  | .exponentialHistogram points temporality =>
    .obj [("data_points", Json.ofList ExponentialHistogramDataPoint.toJson points),
      ("temporality", .str temporality.name), (shapeKey, .str "ExponentialHistogram")]
  | .summary points =>
    .obj [("data_points", Json.ofList SummaryDataPoint.toJson points), (shapeKey, .str "Summary")]

end MetricData

/-- Reads a metric. -/
def Metric.decoder : Decoder Metric :=
  .record ["name", "description", "unit", "data"] fun fields =>
    Metric.mk <$> fields.required "name" .string
      <*> fields.optional "description" .string ""
      <*> fields.optional "unit" .string ""
      <*> fields.required "data" MetricData.decoder

/-- The JSON value of a metric. -/
def Metric.toJson (m : Metric) : Json :=
  .obj [("data", m.data.toJson), ("description", .str m.description), ("name", .str m.name),
    ("unit", .str m.unit)]

/-- The JSON value of a metric as it is kept. -/
def MetricRecord.toJson (r : MetricRecord) : Json :=
  .obj [("metric", r.metric.toJson), ("resource", r.resource.toJson), ("scope", r.scope.toJson)]

end Telemetry
