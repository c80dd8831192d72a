import Telemetry.CallGraph.Roots
import Telemetry.Number.Decimal
import Telemetry.Text.Search

/-!
# Chains of calls

The graph as a list of chains of calls that covers every edge once at the end
of a chain. Each root is followed downwards; a chain goes on through edges that
no chain has used yet, and ends where there is none or where a service of the
chain comes up again.

* `CallGraph.chainsFrom`, `chainsThrough`: the descent, with the edges used so
  far;
* `CallGraph.chains`: the chains of all roots;
* `CallGraph.chainText`, `CallGraph.describe`: their texts, those with more
  arrows first;
* `CallGraph.description`: the text that a renderer is given.
-/

namespace Telemetry.CallGraph

/-- An edge by its two services. -/
abbrev Ends := String × String

/-- The edges of a service that have not been used. -/
def unused (g : CallGraph) (used : List Ends) (s : String) : List CallEdge :=
  (g.callsOf s).filter fun e => e.ends ∉ used

theorem length_unused_le (g : CallGraph) (used : List Ends) (s : String) :
    (g.unused used s).length ≤ (g.callsOf s).length :=
  List.length_filter_le ..

mutual

/-- The chains that continue `path`, given backwards, with the service `s`, which
is not on it; and the edges used by then. -/
def chainsFrom (g : CallGraph) (used : List Ends) (path : List String) (s : String) :
    List (List String) × List Ends :=
  let fresh := g.unused used s
  if fresh.isEmpty then (if path.isEmpty then [] else [(s :: path).reverse], used)
  else chainsThrough g used (s :: path) fresh
termination_by (g.openCount (s :: path), 2 * (g.callsOf s).length + 1)
decreasing_by
  apply Prod.Lex.right
  have := g.length_unused_le used s
  omega

/-- The chains that continue `path`, given backwards, through some edges that begin
at its head; and the edges used by then. -/
def chainsThrough (g : CallGraph) (used : List Ends) (path : List String) :
    List CallEdge → List (List String) × List Ends
  | [] => ([], used)
  | e :: rest =>
    if e.ends ∈ used then chainsThrough g used path rest
    else if e.callee ∈ path then
      let (others, used) := chainsThrough g (e.ends :: used) path rest
      ((e.callee :: path).reverse :: others, used)
    else
      let (below, used) := chainsFrom g (e.ends :: used) path e.callee
      let (others, used) := chainsThrough g used path rest
      (below ++ others, used)
termination_by edges => (g.openCount path, 2 * edges.length)
decreasing_by
  · apply Prod.Lex.right
    simp
  · apply Prod.Lex.right
    simp
  · by_cases hc : g.callsOf e.callee = []
    · rcases Nat.lt_or_eq_of_le (g.openCount_cons_le path e.callee) with hlt | heq
      · exact Prod.Lex.left _ _ hlt
      · rw [heq]
        apply Prod.Lex.right
        simp only [hc, List.length_nil, List.length_cons]
        omega
    · exact Prod.Lex.left _ _ (g.openCount_cons_lt (by assumption) hc)
  · apply Prod.Lex.right
    simp

end

/-- The chains of some roots, one root after the other. -/
def chainsOf (g : CallGraph) (used : List Ends) : List String → List (List String)
  | [] => []
  | root :: rest =>
    let (chains, used) := chainsFrom g used [] root
    chains ++ chainsOf g used rest

/-- The chains of the graph in the order of the descent. -/
def chains (g : CallGraph) : List (List String) :=
  chainsOf g [] g.roots

/-! ## Text -/

/-- The arrow between two services. -/
def arrow : List Char := ['-', '-', '>']

/-- The text of a chain from its second service on. -/
def hopsText (g : CallGraph) (caller : String) : List String → List Char
  | [] => []
  | callee :: rest =>
    ' ' :: arrow ++ '|' :: Number.digits (g.callCount caller callee) ++
      '|' :: ' ' :: callee.toList ++ hopsText g callee rest

/-- The text of a chain: its services with an arrow and a count between each two. -/
def chainText (g : CallGraph) : List String → List Char
  | [] => []
  | s :: rest => s.toList ++ hopsText g s rest

/-- Lines by descending number of arrows in them; equal ones keep their order. -/
def sortLines (lines : List (List Char)) : List (List Char) :=
  ((lines.map fun l => (l, Text.occurrences arrow l)).mergeSort fun a b => b.2 ≤ a.2).map (·.1)

/-- The lines that describe the graph. -/
def describe (g : CallGraph) : List (List Char) :=
  sortLines (g.chains.map g.chainText)

/-- The first line of a description. -/
def descriptionHeader : List Char := ['g', 'r', 'a', 'p', 'h', ' ', 'L', 'R']

/-- The description of the graph: the header, and the lines with four spaces in
front of each. -/
def description (g : CallGraph) : List Char :=
  descriptionHeader ++ '\n' ::
    g.describe.flatMap fun line => [' ', ' ', ' ', ' '] ++ line ++ ['\n']

end Telemetry.CallGraph
