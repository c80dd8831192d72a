/-!
# Classes of characters

A class of characters is given by its edges: the code points, ascending, at
which membership changes. A code point belongs to the class when an odd number
of edges lie at or below it.
-/

namespace Telemetry.Text

/-- Membership in the class with these edges. -/
def inClass (edges : List Nat) (c : Char) : Bool :=
  (edges.takeWhile (· ≤ c.toNat)).length % 2 == 1

end Telemetry.Text
