import Telemetry.Index.Logs
import Telemetry.Store.Shelf

/-!
# The shelf of logs

All logs within the limit are held; those that belong to a trace are in the index
too.
-/

namespace Telemetry

/-- Logs are searched by service and body. -/
def Shelving.logs : Shelving Log LogRecord LogIndex where
  record := .ofArrival
  isMatch query r := matchesQuery query r.service r.log.body
  empty := .empty
  insert := .insert
  delete := .delete
  flush := .flush

/-- The logs of the store. -/
abbrev LogShelf := Shelf Shelving.logs

end Telemetry
