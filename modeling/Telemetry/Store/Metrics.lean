import Telemetry.Index.Metrics
import Telemetry.Store.Shelf

/-!
# The shelf of metrics

All metrics within the limit are held and in the index, under their own services.
-/

namespace Telemetry

/-- Metrics are searched by service and name. -/
def Shelving.metrics : Shelving Metric MetricRecord MetricIndex where
  record := .ofArrival
  isMatch query r := matchesQuery query r.service r.name
  empty := .empty
  insert x r := x.insert r.service r
  delete := .delete
  flush := .flush

/-- The metrics of the store. -/
abbrev MetricShelf := Shelf Shelving.metrics

end Telemetry
