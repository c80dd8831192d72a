import Telemetry.Index.Traces

/-!
# The graph of calls between services

Which services call which others, and how often. Services stand in the order
in which they were first mentioned, the caller of a call before the one it
calls, and edges in the order of their first calls.

* `CallGraph.record`, `CallGraph.ofCalls`: counts one call, or many;
* `TraceIndex.callOf?`, `TraceIndex.calls`: the calls that the indexed spans show: a span
  whose parent is indexed too, under another service;
* `CallGraph.callsOf`, `callees`, `callers`: the edges of a service.
-/

namespace Telemetry

/-- The calls of one service to another. -/
structure CallEdge where
  caller : String
  callee : String
  count : Nat
  deriving DecidableEq

/-- The two services of an edge. -/
def CallEdge.ends (e : CallEdge) : String × String := (e.caller, e.callee)

/-- Services and the calls between them. -/
structure CallGraph where
  services : List String
  edges : List CallEdge

namespace CallGraph

/-- The graph without services. -/
def empty : CallGraph := ⟨[], []⟩

instance : Inhabited CallGraph := ⟨empty⟩

/-- A list of services with one more at its end, unless it is there already. -/
def mention (services : List String) (service : String) : List String :=
  if service ∈ services then services else services ++ [service]

/-- A list of edges with one more call counted: on the edge between the two
services, or on a new edge at the end. -/
def countCall (caller callee : String) : List CallEdge → List CallEdge
  | [] => [⟨caller, callee, 1⟩]
  | e :: rest =>
    if e.caller = caller ∧ e.callee = callee then { e with count := e.count + 1 } :: rest
    else e :: countCall caller callee rest

/-- Counts one call. -/
def record (g : CallGraph) (caller callee : String) : CallGraph where
  services := mention (mention g.services caller) callee
  edges := countCall caller callee g.edges

/-- The graph of some calls, counted one after the other. -/
def ofCalls (calls : List (String × String)) : CallGraph :=
  calls.foldl (fun g call => g.record call.1 call.2) empty

/-- Whether no call has been counted. -/
def isEmpty (g : CallGraph) : Bool := g.edges.isEmpty

/-- How many services there are. -/
def serviceCount (g : CallGraph) : Nat := g.services.length

/-- The edges that begin at a service. -/
def callsOf (g : CallGraph) (service : String) : List CallEdge :=
  g.edges.filter (·.caller = service)

/-- The services that a service calls, in the order of the edges. -/
def callees (g : CallGraph) (service : String) : List String :=
  (g.callsOf service).map (·.callee)

/-- The services that call a service, in the order of the edges. -/
def callers (g : CallGraph) (service : String) : List String :=
  (g.edges.filter (·.callee = service)).map (·.caller)

/-- How often one service calls another. -/
def callCount (g : CallGraph) (caller callee : String) : Nat :=
  ((g.edges.find? fun e => e.caller = caller ∧ e.callee = callee).map (·.count)).getD 0

/-! ## Edges off a path

A descent through the graph never visits a service twice on one path, so the
edges that begin at no service of the path become fewer on the way down. -/

/-- How many edges begin at no service of the path. -/
def openCount (g : CallGraph) (path : List String) : Nat :=
  g.edges.countP fun e => !path.contains e.caller

theorem openCount_cons_le (g : CallGraph) (path : List String) (s : String) :
    g.openCount (s :: path) ≤ g.openCount path := by
  apply List.countP_mono_left
  intro e _ h
  simp_all

theorem openCount_cons_lt (g : CallGraph) {path : List String} {s : String} (hs : s ∉ path)
    (hc : g.callsOf s ≠ []) : g.openCount (s :: path) < g.openCount path := by
  obtain ⟨e, he⟩ := List.exists_mem_of_ne_nil _ hc
  simp only [callsOf, List.mem_filter, decide_eq_true_eq] at he
  obtain ⟨a, b, hab⟩ := List.append_of_mem he.1
  have ha := List.countP_mono_left (l := a) (p := fun e => !(s :: path).contains e.caller)
    (q := fun e => !path.contains e.caller) (by intro e _ h; simp_all)
  have hb := List.countP_mono_left (l := b) (p := fun e => !(s :: path).contains e.caller)
    (q := fun e => !path.contains e.caller) (by intro e _ h; simp_all)
  have hm : e.caller ∉ path := he.2 ▸ hs
  simp only [openCount, hab, List.countP_append, List.countP_cons, he.2] at ha hb ⊢
  simp [hs] at ha hb ⊢
  omega

end CallGraph

/-- The call that a span shows: of the service of its parent, if that one is indexed, to
its own, if that is another service. -/
def TraceIndex.callOf? (t : TraceIndex) (r : SpanRecord) : Option (String × String) :=
  if r.isRoot then none
  else
    (t.span? r.parentSpanId).bind fun parent =>
      if parent.service = r.service then none else some (parent.service, r.service)

/-- The calls between different services that the indexed spans show, by ascending
trace identifier and then by arrival of the called span. -/
def TraceIndex.calls (t : TraceIndex) : List (String × String) :=
  t.iter.filterMap t.callOf?

/-- The graph of the calls that the indexed spans show. -/
def CallGraph.ofIndex (t : TraceIndex) : CallGraph := ofCalls t.calls

end Telemetry
