import Telemetry.CallGraph.Depth

/-!
# Roots

Where to start so as to reach every service: the services without callers, and
then, for what they do not reach, the first service that is not reached yet,
until all are. Roots with a deeper graph below them come first.

* `CallGraph.reach`: what can be reached by calls;
* `CallGraph.starts`: the starting points in the order in which they are found;
* `CallGraph.roots`: the same by descending depth.
-/

namespace Telemetry.CallGraph

/-- The services reached so far, and all that can be reached from `todo` without
passing through one of them. -/
def reach (g : CallGraph) (reached : List String) : List String → List String
  | [] => reached
  | s :: todo =>
    if s ∈ reached then reach g reached todo
    else reach g (s :: reached) (g.callees s ++ todo)
termination_by todo => (g.openCount reached, todo.length)
decreasing_by
  · apply Prod.Lex.right
    simp
  · by_cases hc : g.callsOf s = []
    · rcases Nat.lt_or_eq_of_le (g.openCount_cons_le reached s) with hlt | heq
      · exact Prod.Lex.left _ _ hlt
      · rw [heq]
        apply Prod.Lex.right
        simp [callees, hc]
    · exact Prod.Lex.left _ _ (g.openCount_cons_lt (by assumption) hc)

/-- The services that are called by none, in their order. -/
def callerless (g : CallGraph) : List String :=
  g.services.filter fun s => (g.callers s).isEmpty

/-- The starting points for those of some services that are not reached yet: each
one that is not reached when its turn comes. -/
def furtherStarts (g : CallGraph) (reached : List String) : List String → List String
  | [] => []
  | s :: rest =>
    if s ∈ reached then furtherStarts g reached rest
    else s :: furtherStarts g (reach g reached [s]) rest

/-- The starting points: the services without callers, and one for every part of
the graph that they do not reach. -/
def starts (g : CallGraph) : List String :=
  g.callerless ++ furtherStarts g (reach g [] g.callerless) g.services

/-- Some services with their depths, found one after the other. -/
def withDepths (g : CallGraph) (known : Depths) : List String → List (String × Nat)
  | [] => []
  | s :: rest =>
    let (d, known) := g.depthFrom known [] s
    (s, d) :: withDepths g known rest

/-- The starting points by descending depth; equally deep ones keep their order. -/
def roots (g : CallGraph) : List String :=
  ((withDepths g [] g.starts).mergeSort fun a b => b.2 ≤ a.2).map (·.1)

end Telemetry.CallGraph
