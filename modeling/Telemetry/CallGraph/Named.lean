import Std.Data.ExtTreeMap
import Telemetry.CallGraph.Basic
import Telemetry.CallGraph.Digraph

/-!
# Graphs of calls by name

A graph of calls as it is kept: services are the nodes of a directed graph, and are addressed by
their names through an index. A link counts the calls of one service to another.

* `NamedGraph.node`: the node of a service, which is added when it is first mentioned;
* `NamedGraph.record`, `NamedGraph.ofCalls`: counts one call, or many;
* `NamedGraph.edges?`, `callees?`, `callers?`: what is read of it. They have no result only if a
  link leads to a node that is not there.
-/

namespace Telemetry

/-- A directed graph with an index of its nodes by name. -/
structure NamedGraph (γ : Type) where
  graph : γ
  index : Std.ExtTreeMap String Nat

namespace NamedGraph

variable {γ : Type} (lib : Digraphs γ)

/-- The graph without services. -/
def empty : NamedGraph γ := ⟨lib.empty, ∅⟩

/-- The number of the node of a service, and the graph with that node in it. -/
def node (a : NamedGraph γ) (service : String) : Nat × NamedGraph γ :=
  match a.index[service]? with
  | some i => (i, a)
  | none =>
    let (i, graph) := lib.addNode a.graph service
    (i, ⟨graph, a.index.insert service i⟩)

/-- Counts one call between two nodes: on the link that there is, or on a new one. -/
def countLink (a : NamedGraph γ) (source target : Nat) : NamedGraph γ :=
  match lib.findLink? a.graph source target with
  | some k => { a with graph := lib.bump a.graph k }
  | none => { a with graph := lib.addLink a.graph ⟨source, target, 1⟩ }

/-- Counts one call. -/
def record (a : NamedGraph γ) (caller callee : String) : NamedGraph γ :=
  let (source, a) := node lib a caller
  let (target, a) := node lib a callee
  countLink lib a source target

/-- The graph of some calls, counted one after the other. -/
def ofCalls (calls : List (String × String)) : NamedGraph γ :=
  calls.foldl (fun a call => record lib a call.1 call.2) (empty lib)

/-- The edge that a link stands for, if its nodes are there. -/
def edgeOf? (names : List String) (l : Link) : Option CallEdge := do
  return ⟨← names[l.source]?, ← names[l.target]?, l.weight⟩

/-- All edges, in the order of the links. -/
def edges? (a : NamedGraph γ) : Option (List CallEdge) :=
  (lib.links a.graph).mapM (edgeOf? (lib.names a.graph))

/-- The services at the other ends of the links of a service on one side, in the order of the
links, whatever the order in which these are listed. -/
def neighbours? (a : NamedGraph γ) (side : Side) (service : String) : Option (List String) :=
  match a.index[service]? with
  | none => some []
  | some i => do
    let found ← (lib.linksAt a.graph side i).mapM fun e =>
      (lib.names a.graph)[side.far e.1]?.map (e.2, ·)
    return (found.mergeSort fun a b => a.1 ≤ b.1).map (·.2)

/-- The services that a service calls. -/
def callees? (a : NamedGraph γ) (service : String) : Option (List String) :=
  neighbours? lib a .outgoing service

/-- The services that call a service. -/
def callers? (a : NamedGraph γ) (service : String) : Option (List String) :=
  neighbours? lib a .incoming service

end NamedGraph

end Telemetry
