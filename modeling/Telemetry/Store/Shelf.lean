import Telemetry.Batch
import Telemetry.Store.View

/-!
# Shelves of records

Logs and metrics are held alike: the newest ones within a limit, with an index of them and a
view that shows what matches a query. They differ in how their records are made, searched and
indexed.

* `Shelving`: what the kinds of records differ in;
* `Shelf kind`: the records of a kind;
* `Shelf.ingest`, `Shelf.filter`, `Shelf.flush`: what is done to a shelf.
-/

namespace Telemetry

/-- How records of a kind, which are made of what arrives, are searched and indexed. -/
structure Shelving (α ρ ι : Type) where
  /-- The record with a number that is made of an arrival. -/
  record : Nat → Arrival α → ρ
  /-- Whether a record matches a query. -/
  isMatch : String → ρ → Bool
  /-- The index without records. -/
  empty : ι
  /-- Adds a record to the index. -/
  insert : ι → ρ → ι
  /-- Drops some records from the index, one after the other. -/
  delete : ι → List ρ → ι
  /-- Drops all records from the index. -/
  flush : ι → ι

/-- The records of a kind. -/
structure Shelf {α ρ ι : Type} (kind : Shelving α ρ ι) where
  limit : Nat
  index : ι
  /-- The newest records, in the order of arrival. -/
  held : List ρ
  /-- The records that match the query. -/
  shown : List ρ
  query : String
  /-- The serial number of the next record. No record survives a flush, so numbers
  begin anew after one. -/
  nextSerial : Nat

namespace Shelf

variable {α ρ ι : Type} {kind : Shelving α ρ ι}

/-- The shelf without records. -/
def empty (limit : Nat) : Shelf kind :=
  { limit, index := kind.empty, held := [], shown := [], query := "", nextSerial := 0 }

/-- The record that is made of what arrives. -/
def record (s : Shelf kind) (a : Arrival α) : ρ := kind.record s.nextSerial a

/-- Takes in one record. -/
def take (s : Shelf kind) (a : Arrival α) : Shelf kind :=
  let r := s.record a
  { s with
    index := kind.insert s.index r
    held := s.held ++ [r]
    nextSerial := s.nextSerial + 1 }

/-- Drops the oldest records beyond the limit. -/
def rotate (s : Shelf kind) : Shelf kind :=
  { s with
    index := kind.delete s.index (overflow s.limit s.held)
    held := retained s.limit s.held }

/-- Brings the view up to date. -/
def refresh (s : Shelf kind) : Shelf kind :=
  { s with shown := s.held.filter (kind.isMatch s.query) }

/-- Takes in groups of records: all records, then one rotation. -/
def ingest (s : Shelf kind) (groups : List (Group α)) : Shelf kind :=
  ((Group.flatten groups).foldl take s).rotate.refresh

/-- Shows the records that match a query. -/
def filter (s : Shelf kind) (query : String) : Shelf kind :=
  refresh { s with query }

/-- Drops everything, the query included. -/
def flush (s : Shelf kind) : Shelf kind :=
  { s with index := kind.flush s.index, held := [], shown := [], query := "", nextSerial := 0 }

end Shelf

end Telemetry
