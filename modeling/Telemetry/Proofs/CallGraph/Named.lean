import Mathlib.Algebra.GroupWithZero.Nat
import Telemetry.CallGraph.Named
import Telemetry.Proofs.CallGraph.Depth
import Telemetry.Proofs.CallGraph.Roots
import Telemetry.Proofs.List.Sorting
import Telemetry.Proofs.List.Traversal

/-!
# The graph of calls as it is kept

Nodes, their index by name, and links between them represent a graph of calls: every service has
one node, found by its name, and every edge one link.

* `sum_count_ofCalls`: the counts of a graph are all of its calls;
* `Represents lib a g`: the kept graph `a` is the graph of calls `g`;
* `Represents.node`, `Represents.countLink`, `Represents.record`: what mentioning a service does,
  and counting a call;
* `represents_ofCalls`: so every graph of some calls is kept;
* `mergeSort_linksAt`: the links of a node, sorted by their numbers;
* `Represents.edges?_eq`, `Represents.neighbours?_eq`: reading the kept graph never meets a node
  that is not there, and gives the edges and the neighbours of a service in the order of the edges;
* `ofCalls_keeps_index`: what is kept of any calls, and read of it.
-/

namespace Telemetry

namespace CallGraph

variable {caller callee : String} {edges : List CallEdge}

theorem countCall_of_not_mem (h : (caller, callee) ∉ edges.map CallEdge.ends) :
    countCall caller callee edges = edges ++ [⟨caller, callee, 1⟩] := by
  induction edges with
  | nil => rfl
  | cons e edges ih =>
    rw [List.map_cons, List.mem_cons, not_or] at h
    have hne : ¬(e.caller = caller ∧ e.callee = callee) := fun he =>
      h.1 (Prod.ext he.1.symm he.2.symm)
    rw [countCall, if_neg hne, ih h.2, List.cons_append]

/-- A call is counted on the edge between its services, wherever that is. -/
theorem countCall_of_getElem? (hn : (edges.map CallEdge.ends).Nodup) {k : Nat} {e : CallEdge}
    (hk : edges[k]? = some e) :
    countCall e.caller e.callee edges = edges.set k { e with count := e.count + 1 } := by
  induction edges generalizing k with
  | nil => cases hk
  | cons e' edges ih =>
    obtain ⟨hnot, hn⟩ := List.nodup_cons.mp hn
    cases k with
    | zero =>
      obtain rfl := Option.some.inj hk
      rw [countCall, if_pos ⟨rfl, rfl⟩, List.set_cons_zero]
    | succ k =>
      have hk : edges[k]? = some e := hk
      have hne : ¬(e'.caller = e.caller ∧ e'.callee = e.callee) := fun he =>
        hnot (List.mem_map.mpr ⟨e, List.mem_of_getElem? hk, Prod.ext he.1.symm he.2.symm⟩)
      rw [countCall, if_neg hne, ih hn hk, List.set_cons_succ]

theorem sum_count_countCall (caller callee : String) (edges : List CallEdge) :
    ((countCall caller callee edges).map (·.count)).sum = (edges.map (·.count)).sum + 1 := by
  induction edges with
  | nil => rfl
  | cons e edges ih =>
    rw [countCall]
    split
    · exact Nat.add_right_comm e.count 1 _
    · rw [List.map_cons, List.map_cons, List.sum_cons, List.sum_cons, ih, Nat.add_assoc]

/-- The counts of the edges add up to the number of calls. -/
theorem sum_count_ofCalls (calls : List (String × String)) :
    ((ofCalls calls).edges.map (·.count)).sum = calls.length := by
  induction calls using List.reverseRecOn with
  | nil => rfl
  | append_singleton calls call ih =>
    rw [ofCalls_concat, record, sum_count_countCall, ih, List.length_append, List.length_singleton]

theorem getElem?_concat_eq_some {services : List String} {s t : String} {i : Nat} :
    (services ++ [s])[i]? = some t ↔ services[i]? = some t ∨ i = services.length ∧ s = t := by
  rcases Nat.lt_trichotomy i services.length with hlt | rfl | hgt
  · rw [List.getElem?_append_left hlt]
    simp [Nat.ne_of_lt hlt]
  · simp
  · rw [List.getElem?_eq_none (by simp; omega), List.getElem?_eq_none (Nat.le_of_lt hgt)]
    simp [Nat.ne_of_gt hgt]

theorem getElem?_mention {services : List String} {i : Nat} {s : String}
    (h : services[i]? = some s) (t : String) : (mention services t)[i]? = some s := by
  rw [mention]
  split
  · exact h
  · rw [List.getElem?_append_left (List.getElem?_eq_some_iff.mp h).1, h]

end CallGraph

/-- The service of an edge that it is listed at. -/
def Side.nearService : Side → CallEdge → String
  | .outgoing, e => e.caller
  | .incoming, e => e.callee

/-- The other service of an edge. -/
def Side.farService : Side → CallEdge → String
  | .outgoing, e => e.callee
  | .incoming, e => e.caller

namespace NamedGraph

open CallGraph

/-- The edge that a link stands for, where its nodes are known to be there. -/
def edgeAt (services : List String) (l : Link) : CallEdge :=
  ⟨services[l.source]?.getD "", services[l.target]?.getD "", l.weight⟩

variable {γ : Type} {lib : Digraphs γ} {a : NamedGraph γ} {g : CallGraph}

/-- A graph of calls as it is kept: the names of the nodes are the services, the index gives
the nodes by their names, and the links join two nodes each and stand for the edges. -/
structure Represents (lib : Digraphs γ) (a : NamedGraph γ) (g : CallGraph) : Prop where
  names : lib.names a.graph = g.services
  index (service : String) (i : Nat) : a.index[service]? = some i ↔ g.services[i]? = some service
  joined : ∀ l ∈ lib.links a.graph, l.source < g.services.length ∧ l.target < g.services.length
  edges : (lib.links a.graph).map (edgeAt g.services) = g.edges

theorem represents_empty (hlib : lib.Lawful) : Represents lib (empty lib) .empty where
  names := hlib.names_empty
  index service i := by
    rw [empty, Std.ExtTreeMap.getElem?_empty, CallGraph.empty, List.getElem?_nil]
    exact ⟨nofun, nofun⟩
  joined l hl := by
    rw [empty, hlib.links_empty] at hl
    cases hl
  edges := by
    rw [empty, hlib.links_empty]
    rfl

/-! ## Counting calls -/

theorem edgeAt_append {services : List String} {l : Link} (h : l.source < services.length ∧
    l.target < services.length) (s : String) : edgeAt (services ++ [s]) l = edgeAt services l := by
  rw [edgeAt, edgeAt, List.getElem?_append_left h.1, List.getElem?_append_left h.2]

namespace Represents

theorem not_mem_services (h : Represents lib a g) {s : String} (hs : a.index[s]? = none) :
    s ∉ g.services := by
  intro hmem
  obtain ⟨i, hi⟩ := List.getElem?_of_mem hmem
  rw [(h.index s i).mpr hi] at hs
  cases hs

/-- A name is that of one node only. -/
theorem name_eq_iff (h : Represents lib a g) {s : String} {i j : Nat}
    (hi : g.services[i]? = some s) (hj : j < g.services.length) :
    g.services[j]?.getD "" = s ↔ j = i := by
  rw [List.getElem?_eq_getElem hj, Option.getD_some]
  constructor
  · intro e
    have hindex := (h.index s j).mpr (List.getElem?_eq_some_iff.mpr ⟨hj, e⟩)
    rw [(h.index s i).mpr hi] at hindex
    exact (Option.some.inj hindex).symm
  · rintro rfl
    exact (List.getElem?_eq_some_iff.mp hi).2

/-- A service that is new has its node at the end. -/
theorem addNode (hlib : lib.Lawful) (h : Represents lib a g) {s : String} (hs : s ∉ g.services) :
    Represents lib
      ⟨(lib.addNode a.graph s).2, a.index.insert s (lib.addNode a.graph s).1⟩
      { g with services := g.services ++ [s] } := by
  have hnumber : (lib.addNode a.graph s).1 = g.services.length := by
    rw [hlib.number_addNode, h.names]
  refine ⟨?_, fun service i => ?_, fun l hl => ?_, ?_⟩
  · rw [hlib.names_addNode, h.names]
  · rw [hnumber, Std.ExtTreeMap.getElem?_insert, getElem?_concat_eq_some]
    by_cases e : s = service
    · subst e
      have hnot : ¬g.services[i]? = some s := fun hi => hs (List.mem_of_getElem? hi)
      rw [if_pos Std.ReflOrd.compare_self, Option.some.injEq, eq_comm]
      exact ⟨fun hi => .inr ⟨hi, rfl⟩, fun hi => (hi.resolve_left hnot).1⟩
    · rw [if_neg (e ∘ Std.LawfulEqOrd.eq_of_compare), h.index]
      exact ⟨.inl, fun hi => hi.resolve_right fun he => e he.2⟩
  · rw [hlib.links_addNode] at hl
    have := h.joined l hl
    rw [List.length_append]
    omega
  · rw [hlib.links_addNode, ← h.edges]
    exact List.map_congr_left fun l hl => edgeAt_append (h.joined l hl) s

/-- When a service is mentioned its node is the one that there is, or a new one at the end. -/
theorem node (hlib : lib.Lawful) (h : Represents lib a g) (s : String) :
    Represents lib (node lib a s).2 { g with services := mention g.services s } ∧
      (mention g.services s)[(node lib a s).1]? = some s := by
  rw [NamedGraph.node]
  split
  · rename_i i hi
    have hs := (h.index s i).mp hi
    rw [mention, if_pos (List.mem_of_getElem? hs)]
    exact ⟨h, hs⟩
  · rename_i hi
    have hs := h.not_mem_services hi
    rw [mention, if_neg hs]
    refine ⟨h.addNode hlib hs, ?_⟩
    show (g.services ++ [s])[(lib.addNode a.graph s).1]? = some s
    rw [hlib.number_addNode, h.names, List.getElem?_concat_length]

/-- One call more on the link that there is. -/
theorem bump (hlib : lib.Lawful) (h : Represents lib a g) (hn : (g.edges.map CallEdge.ends).Nodup)
    {k : Nat} {l : Link} (hl : (lib.links a.graph)[k]? = some l) :
    Represents lib { a with graph := lib.bump a.graph k } { g with
      edges := countCall (edgeAt g.services l).caller (edgeAt g.services l).callee g.edges } := by
  have hedge : g.edges[k]? = some (edgeAt g.services l) := by
    rw [← h.edges, List.getElem?_map, hl, Option.map_some]
  rw [countCall_of_getElem? hn hedge]
  refine ⟨?_, h.index, fun l' hl' => ?_, ?_⟩
  · rw [hlib.names_bump hl, h.names]
  · rw [hlib.links_bump hl] at hl'
    rcases List.mem_or_eq_of_mem_set hl' with hmem | rfl
    · exact h.joined l' hmem
    · exact h.joined l (List.mem_of_getElem? hl)
  · rw [hlib.links_bump hl, List.map_set, h.edges]
    rfl

/-- The first call between two nodes. -/
theorem addLink (hlib : lib.Lawful) (h : Represents lib a g) {l : Link}
    (hl : l.source < g.services.length ∧ l.target < g.services.length) :
    Represents lib { a with graph := lib.addLink a.graph l }
      { g with edges := g.edges ++ [edgeAt g.services l] } := by
  have hfits : l.source < (lib.names a.graph).length ∧ l.target < (lib.names a.graph).length := by
    rw [h.names]
    exact hl
  refine ⟨?_, h.index, fun l' hl' => ?_, ?_⟩
  · rw [hlib.names_addLink hfits.1 hfits.2, h.names]
  · rw [hlib.links_addLink hfits.1 hfits.2] at hl'
    rcases List.mem_append.mp hl' with hmem | hmem
    · exact h.joined l' hmem
    · rw [List.mem_singleton.mp hmem]
      exact hl
  · rw [hlib.links_addLink hfits.1 hfits.2, List.map_append, h.edges, List.map_singleton]

/-- Services whose nodes are not linked have no edge. -/
theorem not_mem_ends (h : Represents lib a g) {source target : Nat} {caller callee : String}
    (hs : g.services[source]? = some caller) (ht : g.services[target]? = some callee)
    (hnone : ∀ l ∈ lib.links a.graph, l.ends ≠ (source, target)) :
    (caller, callee) ∉ g.edges.map CallEdge.ends := by
  intro hmem
  rw [← h.edges, List.map_map] at hmem
  obtain ⟨l, hl, hends⟩ := List.mem_map.mp hmem
  obtain ⟨hcaller, hcallee⟩ := Prod.mk.inj hends
  obtain ⟨hsource, htarget⟩ := h.joined l hl
  exact hnone l hl (Prod.ext ((h.name_eq_iff hs hsource).mp hcaller)
    ((h.name_eq_iff ht htarget).mp hcallee))

theorem countLink (hlib : lib.Lawful) (h : Represents lib a g)
    (hn : (g.edges.map CallEdge.ends).Nodup) {source target : Nat} {caller callee : String}
    (hs : g.services[source]? = some caller) (ht : g.services[target]? = some callee) :
    Represents lib (countLink lib a source target)
      { g with edges := countCall caller callee g.edges } := by
  have hcall (weight : Nat) : edgeAt g.services ⟨source, target, weight⟩ =
      ⟨caller, callee, weight⟩ := by
    simp only [edgeAt, hs, ht, Option.getD_some]
  rw [NamedGraph.countLink]
  split
  · rename_i k hk
    obtain ⟨⟨i, j, weight⟩, hl, hends⟩ := hlib.findLink?_eq_some hk
    obtain ⟨rfl, rfl⟩ := Prod.mk.inj hends
    have hbump := h.bump hlib hn hl
    rw [hcall] at hbump
    exact hbump
  · rename_i hk
    have hadd := h.addLink hlib (l := ⟨source, target, 1⟩)
      ⟨(List.getElem?_eq_some_iff.mp hs).1, (List.getElem?_eq_some_iff.mp ht).1⟩
    rw [hcall] at hadd
    rw [countCall_of_not_mem (h.not_mem_ends hs ht (hlib.findLink?_eq_none hk))]
    exact hadd

/-- One call is counted between the nodes of its services, which may be one node. -/
theorem record (hlib : lib.Lawful) (h : Represents lib a g)
    (hn : (g.edges.map CallEdge.ends).Nodup) (caller callee : String) :
    Represents lib (record lib a caller callee) (g.record caller callee) := by
  obtain ⟨hcaller, hsource⟩ := h.node hlib caller
  obtain ⟨hcallee, htarget⟩ := hcaller.node hlib callee
  exact hcallee.countLink hlib hn (getElem?_mention hsource callee) htarget

end Represents

/-- The graph of some calls is kept as it is counted. -/
theorem represents_ofCalls (hlib : lib.Lawful) (calls : List (String × String)) :
    Represents lib (ofCalls lib calls) (CallGraph.ofCalls calls) := by
  induction calls using List.reverseRecOn with
  | nil => exact represents_empty hlib
  | append_singleton calls call ih =>
    rw [ofCalls_concat, ofCalls, List.foldl_append]
    exact ih.record hlib (nodup_ends_ofCalls calls) call.1 call.2

/-! ## Reading -/

/-- On either side a service has each of its neighbours once. -/
theorem nodup_neighbours {edges : List CallEdge} (hn : (edges.map CallEdge.ends).Nodup)
    (side : Side) (service : String) :
    ((edges.filter (side.nearService · = service)).map side.farService).Nodup := by
  refine List.Nodup.map_on (fun e he e' he' hfar => ?_) (hn.of_map.filter _)
  obtain ⟨he, hnear⟩ := List.mem_filter.mp he
  obtain ⟨he', hnear'⟩ := List.mem_filter.mp he'
  have hnear : side.nearService e = side.nearService e' :=
    (of_decide_eq_true hnear).trans (of_decide_eq_true hnear').symm
  refine List.inj_on_of_nodup_map hn he he' ?_
  cases side with
  | outgoing => exact Prod.ext hnear hfar
  | incoming => exact Prod.ext hfar hnear

theorem pairwise_zipIdx (links : List Link) : links.zipIdx.Pairwise fun e e' => e.2 < e'.2 := by
  rw [← List.pairwise_map (f := Prod.snd) (R := (· < ·)), List.zipIdx_map_snd]
  exact List.pairwise_lt_range'

theorem filter_eq_map_zipIdx (p : Link → Bool) (links : List Link) :
    links.filter p = (links.zipIdx.filter fun e => p e.1).map Prod.fst :=
  calc links.filter p = (links.zipIdx.map Prod.fst).filter p := by rw [List.zipIdx_map_fst]
    _ = (links.zipIdx.filter fun e => p e.1).map Prod.fst := List.filter_map

/-- In whatever order the links of a node are listed, sorting by their numbers brings them into
the order in which they were added. -/
theorem mergeSort_linksAt (hlib : lib.Lawful) (graph : γ) (side : Side) (i : Nat)
    (name : Link → String) :
    (((lib.linksAt graph side i).map fun e => (e.2, name e.1)).mergeSort fun x y =>
      x.1 ≤ y.1).map (·.2) = ((lib.links graph).filter (side.near · = i)).map name := by
  have hperm := (hlib.linksAt_perm graph side i).map fun e => (e.2, name e.1)
  have hascending : (((lib.links graph).zipIdx.filter fun e => side.near e.1 = i).map
      fun e => (e.2, name e.1)).Pairwise fun x y => x.1 < y.1 :=
    List.pairwise_map.mpr ((pairwise_zipIdx _).filter _)
  rw [mergeSort_of_perm Prod.fst hperm hascending, filter_eq_map_zipIdx, List.map_map,
    List.map_map]
  rfl

namespace Represents

/-- There is at most one link from one node to another. -/
theorem nodup_ends (h : Represents lib a g) (hn : (g.edges.map CallEdge.ends).Nodup) :
    ((lib.links a.graph).map Link.ends).Nodup := by
  have hends : g.edges.map CallEdge.ends = ((lib.links a.graph).map Link.ends).map fun e =>
      (g.services[e.1]?.getD "", g.services[e.2]?.getD "") := by
    rw [← h.edges, List.map_map, List.map_map]
    rfl
  rw [hends] at hn
  exact hn.of_map

/-- The nodes at both ends of a link are there. -/
theorem getElem?_ends (h : Represents lib a g) {l : Link} (hl : l ∈ lib.links a.graph)
    (side : Side) :
    g.services[side.near l]? = some (side.nearService (edgeAt g.services l)) ∧
      g.services[side.far l]? = some (side.farService (edgeAt g.services l)) := by
  have hsome {i : Nat} (hi : i < g.services.length) :
      g.services[i]? = some (g.services[i]?.getD "") := by
    rw [List.getElem?_eq_getElem hi, Option.getD_some]
  obtain ⟨hsource, htarget⟩ := h.joined l hl
  cases side with
  | outgoing => exact ⟨hsome hsource, hsome htarget⟩
  | incoming => exact ⟨hsome htarget, hsome hsource⟩

theorem nearService_eq_iff (h : Represents lib a g) {l : Link} (hl : l ∈ lib.links a.graph)
    {service : String} {i : Nat} (hi : g.services[i]? = some service) (side : Side) :
    side.nearService (edgeAt g.services l) = service ↔ side.near l = i := by
  obtain ⟨hsource, htarget⟩ := h.joined l hl
  cases side with
  | outgoing => exact h.name_eq_iff hi hsource
  | incoming => exact h.name_eq_iff hi htarget

theorem edges?_eq (h : Represents lib a g) : edges? lib a = some g.edges := by
  have hedge : ∀ l ∈ lib.links a.graph,
      edgeOf? (lib.names a.graph) l = some (edgeAt g.services l) := fun l hl => by
    obtain ⟨hsource, htarget⟩ := h.getElem?_ends hl .outgoing
    have hsource : g.services[l.source]? = _ := hsource
    have htarget : g.services[l.target]? = _ := htarget
    rw [h.names, edgeOf?, hsource, htarget]
    rfl
  rw [edges?, mapM_eq_some hedge, h.edges]

/-- On either side the neighbours of a service are listed in the order of the edges. -/
theorem neighbours?_eq (hlib : lib.Lawful) (h : Represents lib a g) (side : Side)
    (service : String) : neighbours? lib a side service =
      some ((g.edges.filter (side.nearService · = service)).map side.farService) := by
  rw [← h.edges, List.filter_map, List.map_map, neighbours?]
  split
  · rename_i hi
    have hnone : (lib.links a.graph).filter
        ((fun e => decide (side.nearService e = service)) ∘ edgeAt g.services) = [] := by
      refine List.filter_eq_nil_iff.mpr fun l hl e => h.not_mem_services hi ?_
      rw [← of_decide_eq_true e]
      exact List.mem_of_getElem? (h.getElem?_ends hl side).1
    rw [hnone]
    rfl
  · rename_i i hi
    have hs := (h.index service i).mp hi
    have hfound : ∀ e ∈ lib.linksAt a.graph side i,
        (lib.names a.graph)[side.far e.1]?.map (e.2, ·) =
          some (e.2, side.farService (edgeAt g.services e.1)) := fun e he => by
      have hmem := (List.mem_filter.mp ((hlib.linksAt_perm a.graph side i).mem_iff.mp he)).1
      rw [h.names, (h.getElem?_ends (List.fst_mem_of_mem_zipIdx hmem) side).2, Option.map_some]
    have hnear : (lib.links a.graph).filter (fun l => side.near l = i) =
        (lib.links a.graph).filter
          ((fun e => decide (side.nearService e = service)) ∘ edgeAt g.services) :=
      List.filter_congr fun l hl => decide_eq_decide.mpr (h.nearService_eq_iff hl hs side).symm
    rw [mapM_eq_some hfound, ← hnear]
    exact congrArg some
      (mergeSort_linksAt hlib a.graph side i (side.farService ∘ edgeAt g.services))

end Represents

/-- After any calls, the index and the nodes correspond one to one, there is one node for each
name in the order in which the calls mention them, and one link at most from one node to another.
The edges are the different calls in the order of the first of each, with their numbers, and the
callees and callers of a service are those of its edges, each once and in their order. -/
theorem ofCalls_keeps_index {γ : Type} {lib : Digraphs γ} (hlib : lib.Lawful)
    (calls : List (String × String)) :
    let a := ofCalls lib calls
    let names := lib.names a.graph
    let links := lib.links a.graph
    ((∀ (name : String) (i : Nat), a.index[name]? = some i ↔ names[i]? = some name) ∧ names.Nodup ∧
      names = (calls.flatMap fun c => [c.1, c.2]).eraseDups) ∧
    ((∀ l ∈ links, l.source < names.length ∧ l.target < names.length) ∧
      (links.map Link.ends).Nodup) ∧
    ∃ edges, edges? lib a = some edges ∧ edges.map CallEdge.ends = calls.eraseDups ∧
      (∀ e ∈ edges, e.count = calls.count e.ends) ∧
      (edges.map (·.count)).sum = calls.length ∧
      ∃ children parents : String → List String,
        (∀ s, callees? lib a s = some (children s) ∧ callers? lib a s = some (parents s)) ∧
        (∀ p c, (c ∈ children p ↔ p ∈ parents c) ∧
          (p ∈ parents c ↔ (p, c) ∈ edges.map CallEdge.ends)) ∧
        (∀ s, (children s).Nodup ∧ (parents s).Nodup) ∧
        (∀ s, children s = (edges.filter (·.caller = s)).map (·.callee) ∧
          parents s = (edges.filter (·.callee = s)).map (·.caller)) ∧
        ∀ s ∉ names, children s = [] ∧ parents s = [] := by
  intro a names links
  have h : Represents lib a (CallGraph.ofCalls calls) := represents_ofCalls hlib calls
  have hn := nodup_ends_ofCalls calls
  have hnames : names = (CallGraph.ofCalls calls).services := h.names
  have hmem (p c : String) : (p, c) ∈ (CallGraph.ofCalls calls).edges.map CallEdge.ends ↔
      (CallGraph.ofCalls calls).Calls p c := List.mem_map
  rw [hnames]
  refine ⟨⟨h.index, nodup_services_ofCalls calls, services_ofCalls calls⟩,
    ⟨h.joined, h.nodup_ends hn⟩, (CallGraph.ofCalls calls).edges, h.edges?_eq, ends_ofCalls calls,
    fun e he => (mem_edges_ofCalls.mp he).2, sum_count_ofCalls calls,
    (CallGraph.ofCalls calls).callees, (CallGraph.ofCalls calls).callers, fun s => ?_,
    fun p c => ?_, fun s => ?_, fun s => ⟨rfl, rfl⟩, fun s hs => ?_⟩
  · exact ⟨h.neighbours?_eq hlib .outgoing s, h.neighbours?_eq hlib .incoming s⟩
  · rw [hmem, mem_callees, mem_callers]
    exact ⟨Iff.rfl, Iff.rfl⟩
  · exact ⟨nodup_neighbours hn .outgoing s, nodup_neighbours hn .incoming s⟩
  · exact ⟨List.eq_nil_iff_forall_not_mem.mpr fun c hc =>
        hs (mem_callees.mp hc).caller_mem_services,
      List.eq_nil_iff_forall_not_mem.mpr fun p hp =>
        hs (mem_callers.mp hp).callee_mem_services⟩

/-- Two services call each other, and one of them itself too: its newest link is listed first, but
read last. -/
theorem ofCalls_keeps_index_of_loop :
    let calls := [("web", "api"), ("api", "api"), ("web", "api"), ("api", "web")]
    let a := ofCalls .listed calls
    Digraphs.listed.Lawful ∧ Digraphs.listed.names a.graph = ["web", "api"] ∧
      edges? .listed a = some [⟨"web", "api", 2⟩, ⟨"api", "api", 1⟩, ⟨"api", "web", 1⟩] ∧
      (Digraphs.listed.linksAt a.graph .outgoing 1).map (·.2) = [2, 1] ∧
      callees? .listed a "api" = some ["api", "web"] ∧
      callers? .listed a "api" = some ["web", "api"] ∧ callees? .listed a "db" = some [] := by
  intro calls a
  obtain ⟨⟨-, -, hnames⟩, -, edges, hedges, -, -, -, children, parents, hread, -, -, hlists,
    hunknown⟩ := ofCalls_keeps_index Digraphs.listed_lawful calls
  have hnames : Digraphs.listed.names a.graph = ["web", "api"] := hnames
  have hloop : edges? .listed a =
      some [⟨"web", "api", 2⟩, ⟨"api", "api", 1⟩, ⟨"api", "web", 1⟩] := by decide +kernel
  obtain rfl := Option.some.inj (hloop.symm.trans hedges)
  have hdb : "db" ∉ Digraphs.listed.names a.graph := by rw [hnames]; decide
  refine ⟨Digraphs.listed_lawful, hnames, hloop, by decide +kernel, ?_, ?_, ?_⟩
  · exact (hread "api").1.trans (congrArg some (hlists "api").1)
  · exact (hread "api").2.trans (congrArg some (hlists "api").2)
  · exact (hread "db").1.trans (congrArg some (hunknown "db" hdb).1)

end NamedGraph

end Telemetry
