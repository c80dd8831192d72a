import Telemetry.Id
import Telemetry.Resource
import Telemetry.Time.Instant

/-!
# Metrics

A metric is a named series of measurements of one of five shapes. A metric
record is a metric as it is kept.

* `MetricData`: the shapes; `MetricData.typeName`, `MetricData.pointCount`;
* `NumberValue.toBinary64`: a measured number as a double.
-/

namespace Telemetry

/-- Whether each measurement starts anew or adds to the ones before. -/
inductive AggregationTemporality where
  | unspecified
  | delta
  | cumulative
  deriving DecidableEq

/-- A measured number. -/
inductive NumberValue where
  | int (n : Int64)
  | double (x : Binary64)

/-- The number as a double, rounded to the nearest one. -/
def NumberValue.toBinary64 : NumberValue → Binary64
  | .int n => Binary64.ofInt n.toInt
  | .double x => x

/-- A number measured at a time. -/
structure NumberDataPoint where
  time : Instant
  startTime : Option Instant
  value : NumberValue
  attributes : Attributes

/-- Measurements counted in buckets with given bounds. -/
structure HistogramDataPoint where
  time : Instant
  startTime : Option Instant
  count : UInt64
  sum : Option Binary64
  bucketCounts : List UInt64
  explicitBounds : List Binary64
  min : Option Binary64
  max : Option Binary64
  attributes : Attributes

/-- A row of buckets of a histogram with exponential bounds. -/
structure ExponentialBuckets where
  offset : Int32
  bucketCounts : List UInt64

/-- No buckets. -/
def ExponentialBuckets.empty : ExponentialBuckets := ⟨0, []⟩

/-- Measurements counted in buckets with exponential bounds. -/
structure ExponentialHistogramDataPoint where
  time : Instant
  startTime : Option Instant
  count : UInt64
  sum : Option Binary64
  scale : Int32
  zeroCount : UInt64
  positive : ExponentialBuckets
  negative : ExponentialBuckets
  attributes : Attributes

/-- The measurement below which a share of all measurements lies. -/
structure ValueAtQuantile where
  quantile : Binary64
  value : Binary64

/-- Measurements summed up by their quantiles. -/
structure SummaryDataPoint where
  time : Instant
  startTime : Option Instant
  count : UInt64
  sum : Binary64
  quantileValues : List ValueAtQuantile
  attributes : Attributes

/-- The measurements of a metric. -/
inductive MetricData where
  | gauge (points : List NumberDataPoint)
  | sum (points : List NumberDataPoint) (isMonotonic : Bool) (temporality : AggregationTemporality)
  | histogram (points : List HistogramDataPoint) (temporality : AggregationTemporality)
  | exponentialHistogram (points : List ExponentialHistogramDataPoint)
      (temporality : AggregationTemporality)
  | summary (points : List SummaryDataPoint)

namespace MetricData

/-- The name of the shape. -/
def typeName : MetricData → String
  | .gauge _ => "Gauge"
  | .sum .. => "Sum"
  | .histogram .. => "Histogram"
  | .exponentialHistogram .. => "ExponentialHistogram"
  | .summary _ => "Summary"

/-- How many measurements there are. -/
def pointCount : MetricData → Nat
  | .gauge points | .sum points .. => points.length
  | .histogram points _ => points.length
  | .exponentialHistogram points _ => points.length
  | .summary points => points.length

/-- The measured numbers of the two shapes that hold plain numbers. -/
def numbers : MetricData → List NumberValue
  | .gauge points | .sum points .. => points.map (·.value)
  | _ => []

end MetricData

/-- A named series of measurements. -/
structure Metric where
  name : String
  description : String
  unit : String
  data : MetricData

/-- A metric with a name and data and nothing else. -/
def Metric.ofName (name : String) (data : MetricData) : Metric :=
  ⟨name, "", "", data⟩

/-- A metric as it is kept; `serial` tells records apart that agree otherwise. -/
structure MetricRecord where
  serial : Nat
  metric : Metric
  resource : Resource
  scope : Scope

namespace MetricRecord

/-- The service that measured the metric. -/
def service (r : MetricRecord) : String := r.resource.serviceName

/-- The name of the metric. -/
def name (r : MetricRecord) : String := r.metric.name

end MetricRecord

end Telemetry
