import Mathlib.Data.List.Induction
import Telemetry.CallGraph.Basic
import Telemetry.Proofs.List.EraseDups

/-!
# The graph of some calls

A graph that counts calls one after the other is known by the list of them.

* `edges_ofCalls`: the edges are the different calls in the order in which they first
  occur, each with the number of its occurrences;
* `services_ofCalls`: the services are the callers and callees in the order in which they
  are first mentioned;
* `callCount_ofCalls`, `mem_edges_ofCalls`: hence what is found of one call.
-/

namespace Telemetry.CallGraph

/-- The edge that counts a call a number of times. -/
def edgeOf (count : String × String → Nat) (call : String × String) : CallEdge :=
  ⟨call.1, call.2, count call⟩

@[simp] theorem ends_edgeOf (count : String × String → Nat) (call : String × String) :
    (edgeOf count call).ends = call := rfl

theorem map_ends_map_edgeOf (count : String × String → Nat) (calls : List (String × String)) :
    (calls.map (edgeOf count)).map CallEdge.ends = calls := by
  rw [List.map_map]
  exact List.map_id' calls

/-- One call more, on edges between different services. -/
theorem countCall_map_edgeOf (count : String × String → Nat) (call : String × String)
    {calls : List (String × String)} (h : calls.Nodup) :
    countCall call.1 call.2 (calls.map (edgeOf count)) =
      if call ∈ calls then
        calls.map (edgeOf fun c => if c = call then count c + 1 else count c)
      else calls.map (edgeOf count) ++ [⟨call.1, call.2, 1⟩] := by
  induction calls with
  | nil => rfl
  | cons c calls ih =>
    obtain ⟨hc, hn⟩ := List.nodup_cons.mp h
    rw [List.map_cons, countCall]
    by_cases e : c = call
    · subst e
      -- no later edge is between these services
      have hother : calls.map (edgeOf fun d => if d = c then count d + 1 else count d) =
          calls.map (edgeOf count) := by
        refine List.map_congr_left fun d hd => ?_
        have hne : d ≠ c := fun e => hc (e ▸ hd)
        rw [edgeOf, edgeOf, if_neg hne]
      rw [if_pos ⟨rfl, rfl⟩, if_pos List.mem_cons_self, List.map_cons, hother, edgeOf, edgeOf,
        if_pos rfl]
    · have hne : ¬((edgeOf count c).caller = call.1 ∧ (edgeOf count c).callee = call.2) :=
        fun hc => e (Prod.ext hc.1 hc.2)
      have hmem : call ∈ c :: calls ↔ call ∈ calls := by simp [Ne.symm e]
      rw [if_neg hne, ih hn]
      simp only [hmem]
      split
      · rw [List.map_cons, edgeOf, edgeOf, if_neg e]
      · rfl

theorem ofCalls_concat (calls : List (String × String)) (call : String × String) :
    ofCalls (calls ++ [call]) = (ofCalls calls).record call.1 call.2 := by
  rw [ofCalls, ofCalls, List.foldl_append]
  rfl

/-- The edges of a graph are the different calls, each with how often it was counted. -/
theorem edges_ofCalls (calls : List (String × String)) :
    (ofCalls calls).edges = calls.eraseDups.map (edgeOf calls.count) := by
  induction calls using List.reverseRecOn with
  | nil => rfl
  | append_singleton calls call ih =>
    have hcount : ∀ c, (calls ++ [call]).count c =
        if c = call then calls.count c + 1 else calls.count c := by
      intro c
      rw [List.count_append, List.count_singleton]
      by_cases e : c = call
      · simp [e]
      · simp [e, Ne.symm e]
    rw [ofCalls_concat, record, ih, countCall_map_edgeOf _ _ (nodup_eraseDups calls),
      eraseDups_concat, funext hcount]
    simp only [List.mem_eraseDups]
    split
    · rfl
    · rename_i hn
      have hold : calls.eraseDups.map (edgeOf calls.count) =
          calls.eraseDups.map (edgeOf fun c => if c = call then calls.count c + 1 else calls.count c) := by
        refine List.map_congr_left fun c hc => ?_
        have hne : c ≠ call := fun e => hn (e ▸ List.mem_eraseDups.mp hc)
        rw [edgeOf, edgeOf, if_neg hne]
      rw [List.map_append, ← hold, List.map_singleton, edgeOf, if_pos rfl,
        List.count_eq_zero_of_not_mem hn]

theorem mention_eraseDups (services : List String) (s : String) :
    mention services.eraseDups s = (services ++ [s]).eraseDups := by
  rw [mention, eraseDups_concat]
  simp only [List.mem_eraseDups]

/-- The services of a graph are those that the calls mention. -/
theorem services_ofCalls (calls : List (String × String)) :
    (ofCalls calls).services = (calls.flatMap fun c => [c.1, c.2]).eraseDups := by
  induction calls using List.reverseRecOn with
  | nil => rfl
  | append_singleton calls call ih =>
    rw [ofCalls_concat, record, ih, mention_eraseDups, mention_eraseDups, List.flatMap_append,
      List.append_assoc]
    rfl

/-! ## The edges of a call -/

theorem ends_ofCalls (calls : List (String × String)) :
    (ofCalls calls).edges.map CallEdge.ends = calls.eraseDups := by
  rw [edges_ofCalls, map_ends_map_edgeOf]

/-- There is at most one edge from one service to another. -/
theorem nodup_ends_ofCalls (calls : List (String × String)) :
    ((ofCalls calls).edges.map CallEdge.ends).Nodup := by
  rw [ends_ofCalls]
  exact nodup_eraseDups calls

theorem mem_edges_ofCalls {calls : List (String × String)} {e : CallEdge} :
    e ∈ (ofCalls calls).edges ↔ e.ends ∈ calls ∧ e.count = calls.count e.ends := by
  rw [edges_ofCalls, List.mem_map]
  simp only [List.mem_eraseDups]
  constructor
  · rintro ⟨c, hc, rfl⟩
    exact ⟨hc, rfl⟩
  · rintro ⟨hc, hn⟩
    refine ⟨e.ends, hc, ?_⟩
    rw [edgeOf, ← hn]
    rfl

theorem mem_services_ofCalls {calls : List (String × String)} {s : String} :
    s ∈ (ofCalls calls).services ↔ ∃ c ∈ calls, s = c.1 ∨ s = c.2 := by
  rw [services_ofCalls, List.mem_eraseDups, List.mem_flatMap]
  simp only [List.mem_cons, List.not_mem_nil, or_false]

theorem caller_mem_services {calls : List (String × String)} {e : CallEdge}
    (he : e ∈ (ofCalls calls).edges) : e.caller ∈ (ofCalls calls).services :=
  mem_services_ofCalls.mpr ⟨e.ends, (mem_edges_ofCalls.mp he).1, .inl rfl⟩

/-- No service is without an edge. -/
theorem exists_edge_of_mem_services {calls : List (String × String)} {s : String}
    (h : s ∈ (ofCalls calls).services) :
    ∃ e ∈ (ofCalls calls).edges, e.caller = s ∨ e.callee = s := by
  obtain ⟨c, hc, hs⟩ := mem_services_ofCalls.mp h
  exact ⟨edgeOf calls.count c, mem_edges_ofCalls.mpr ⟨hc, rfl⟩, hs.imp Eq.symm Eq.symm⟩

theorem callCount_ofCalls (calls : List (String × String)) (caller callee : String) :
    (ofCalls calls).callCount caller callee = calls.count (caller, callee) := by
  rw [callCount]
  cases hf : (ofCalls calls).edges.find? fun e => e.caller = caller ∧ e.callee = callee with
  | none =>
    have hn : (caller, callee) ∉ calls := by
      intro hc
      have he := List.find?_eq_none.mp hf (edgeOf calls.count (caller, callee))
        (mem_edges_ofCalls.mpr ⟨hc, rfl⟩)
      simp [edgeOf] at he
    rw [List.count_eq_zero_of_not_mem hn]
    rfl
  | some e =>
    have hends : e.ends = (caller, callee) := by
      have := List.find?_some hf
      simp only [decide_eq_true_eq] at this
      exact Prod.ext this.1 this.2
    have hcount := (mem_edges_ofCalls.mp (List.mem_of_find?_eq_some hf)).2
    rw [hends] at hcount
    exact hcount

/-- A step along an edge is shown with the count of that edge. -/
theorem mem_edges_callCount {calls : List (String × String)} {caller callee : String} :
    ⟨caller, callee, (ofCalls calls).callCount caller callee⟩ ∈ (ofCalls calls).edges ↔
      (caller, callee) ∈ calls := by
  rw [mem_edges_ofCalls, callCount_ofCalls]
  exact and_iff_left rfl

/-- The order of the calls makes no difference but to the order of the edges. -/
theorem edges_perm {calls calls' : List (String × String)} (h : calls.Perm calls') :
    (ofCalls calls).edges.Perm (ofCalls calls').edges := by
  refine (List.perm_ext_iff_of_nodup (nodup_ends_ofCalls calls).of_map
    (nodup_ends_ofCalls calls').of_map).mpr fun e => ?_
  rw [mem_edges_ofCalls, mem_edges_ofCalls, h.mem_iff, h.count_eq]

end Telemetry.CallGraph
