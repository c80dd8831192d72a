import Telemetry.CallGraph.Basic

/-!
# Depth

The depth of a service is the length of the longest chain of calls below it,
itself included. The graph is descended from the service, the edge counted
last being followed first; services on the path are not entered again, and a
depth once found is kept and reused. On a graph with cycles a depth thus
depends on the path on which it was found.

* `CallGraph.depthFrom`, `deepestOf`: the descent, with the depths found so far;
* `CallGraph.depth?`: the depth of a service.
-/

namespace Telemetry.CallGraph

/-- Depths that have been found. -/
abbrev Depths := List (String × Nat)

mutual

/-- The depth of a service below a path that does not hold it, and the depths
found by then. -/
def depthFrom (g : CallGraph) (known : Depths) (path : List String) (s : String) : Nat × Depths :=
  match known.lookup s with
  | some d => (d, known)
  | none =>
    let (deepest, known) := deepestOf g known (s :: path) (g.callees s).reverse
    (deepest + 1, (s, deepest + 1) :: known)
termination_by (g.openCount (s :: path), 2 * (g.callsOf s).length + 1)
decreasing_by
  apply Prod.Lex.right
  simp [callees]

/-- The largest depth of some services that are not on the path, and the depths
found by then. -/
def deepestOf (g : CallGraph) (known : Depths) (path : List String) :
    List String → Nat × Depths
  | [] => (0, known)
  | s :: rest =>
    if s ∈ path then deepestOf g known path rest
    else
      let (d, known) := depthFrom g known path s
      let (deepest, known) := deepestOf g known path rest
      (max d deepest, known)
termination_by services => (g.openCount path, 2 * services.length)
decreasing_by
  · apply Prod.Lex.right
    simp
  · by_cases hc : g.callsOf s = []
    · rcases Nat.lt_or_eq_of_le (g.openCount_cons_le path s) with hlt | heq
      · exact Prod.Lex.left _ _ hlt
      · rw [heq]
        apply Prod.Lex.right
        simp only [hc, List.length_nil, List.length_cons]
        omega
    · exact Prod.Lex.left _ _ (g.openCount_cons_lt (by assumption) hc)
  · apply Prod.Lex.right
    simp

end

/-- The depth of a service: 1 if it calls nothing. -/
def depth? (g : CallGraph) (s : String) : Option Nat :=
  if s ∈ g.services then some (g.depthFrom [] [] s).1 else none

end Telemetry.CallGraph
