import Telemetry.Text.Search

/-!
# Views

What the shelves of the store have in common: a list of what is held, of which
the oldest part is dropped when it grows beyond a limit, and a view of it that
shows what matches a query.

* `matchesQuery`: whether a record is shown;
* `overflow`, `retained`: the part of a list that is dropped, and the rest;
* `replaceFirst`: a list with its first element of some kind replaced.
-/

namespace Telemetry

/-- Whether the service and text of a record, with a space in between, contain the
query; the empty query matches everything. -/
def matchesQuery (query service text : String) : Bool :=
  Text.occurs query.toList (service.toList ++ ' ' :: text.toList)

variable {α : Type}

/-- The oldest elements of a list, which exceed the limit. -/
def overflow (limit : Nat) (held : List α) : List α :=
  held.take (held.length - limit)

/-- The newest elements of a list, within the limit. -/
def retained (limit : Nat) (held : List α) : List α :=
  held.drop (held.length - limit)

theorem overflow_append_retained (limit : Nat) (held : List α) :
    overflow limit held ++ retained limit held = held :=
  List.take_append_drop ..

theorem length_retained (limit : Nat) (held : List α) :
    (retained limit held).length = min held.length limit := by
  simp only [retained, List.length_drop]
  omega

/-- The list with the first element that satisfies `p` replaced by `a`. -/
def replaceFirst (p : α → Bool) (a : α) : List α → List α
  | [] => []
  | b :: rest => if p b then a :: rest else b :: replaceFirst p a rest

end Telemetry
