import Mathlib.Logic.Relation
import Telemetry.CallGraph.Roots

/-!
# What the roots reach

* `Calls`, `Reaches`: one call, and any number of calls one after the other; `OnCycle`: calls
  that lead back;
* `reaches_of_mem_reach`: what the search finds can be reached;
* `exists_root_reaches`: every service can be reached from a root.
-/

namespace Telemetry.CallGraph

variable {g : CallGraph}

/-- A service calls another. -/
def Calls (g : CallGraph) (caller callee : String) : Prop :=
  ∃ e ∈ g.edges, e.ends = (caller, callee)

/-- A service can be reached from another by calls. -/
abbrev Reaches (g : CallGraph) : String → String → Prop := Relation.ReflTransGen g.Calls

/-- A service can be reached from itself by one call or more. -/
def OnCycle (g : CallGraph) (s : String) : Prop := Relation.TransGen g.Calls s s

theorem mem_callees {caller callee : String} :
    callee ∈ g.callees caller ↔ g.Calls caller callee := by
  simp only [callees, callsOf, List.mem_map, List.mem_filter, decide_eq_true_eq, Calls]
  constructor
  · rintro ⟨e, ⟨he, rfl⟩, rfl⟩
    exact ⟨e, he, rfl⟩
  · rintro ⟨e, he, hends⟩
    obtain ⟨rfl, rfl⟩ := Prod.mk.inj hends
    exact ⟨e, ⟨he, rfl⟩, rfl⟩

/-! ## The search -/

theorem reaches_of_mem_reach {reached todo : List String} {s : String}
    (h : s ∈ g.reach reached todo) : s ∈ reached ∨ ∃ start ∈ todo, g.Reaches start s := by
  induction reached, todo using reach.induct g with
  | case1 reached =>
    rw [reach] at h
    exact .inl h
  | case2 reached a todo ha ih =>
    rw [reach, if_pos ha] at h
    refine (ih h).imp_right ?_
    rintro ⟨start, hstart, hs⟩
    exact ⟨start, List.mem_cons_of_mem _ hstart, hs⟩
  | case3 reached a todo ha ih =>
    rw [reach, if_neg ha] at h
    rcases ih h with hs | ⟨start, hstart, hs⟩
    · rcases List.mem_cons.mp hs with rfl | hs
      · exact .inr ⟨s, List.mem_cons_self, .refl⟩
      · exact .inl hs
    · rcases List.mem_append.mp hstart with hcall | htodo
      · exact .inr ⟨a, List.mem_cons_self, .head (mem_callees.mp hcall) hs⟩
      · exact .inr ⟨start, List.mem_cons_of_mem _ htodo, hs⟩

/-! ## The starting points -/

/-- Of some services, each is reached already or from one of the further starting points. -/
theorem exists_furtherStart (reached : List String) {services : List String} {s : String}
    (h : s ∈ services) :
    s ∈ reached ∨ ∃ start ∈ g.furtherStarts reached services, g.Reaches start s := by
  induction services generalizing reached with
  | nil => cases h
  | cons a rest ih =>
    rw [furtherStarts]
    split
    · rename_i ha
      rcases List.mem_cons.mp h with rfl | h
      · exact .inl ha
      · exact ih reached h
    · rcases List.mem_cons.mp h with rfl | h
      · exact .inr ⟨s, List.mem_cons_self, .refl⟩
      rcases ih (g.reach reached [a]) h with hs | ⟨start, hstart, hs⟩
      · refine (reaches_of_mem_reach hs).imp_right ?_
        rintro ⟨start, hstart, hs⟩
        exact ⟨a, List.mem_cons_self, List.mem_singleton.mp hstart ▸ hs⟩
      · exact .inr ⟨start, List.mem_cons_of_mem _ hstart, hs⟩

theorem exists_start_reaches {s : String} (h : s ∈ g.services) :
    ∃ start ∈ g.starts, g.Reaches start s := by
  rcases exists_furtherStart (g.reach [] g.callerless) h with hs | ⟨start, hstart, hs⟩
  · obtain ⟨start, hstart, hs⟩ := (reaches_of_mem_reach hs).resolve_left List.not_mem_nil
    exact ⟨start, List.mem_append_left _ hstart, hs⟩
  · exact ⟨start, List.mem_append_right _ hstart, hs⟩

theorem map_fst_withDepths (g : CallGraph) (known : Depths) (services : List String) :
    (g.withDepths known services).map (·.1) = services := by
  induction services generalizing known with
  | nil => rfl
  | cons s rest ih =>
    rw [withDepths, List.map_cons, ih]

/-- The roots are the starting points in another order. -/
theorem roots_perm (g : CallGraph) : g.roots.Perm g.starts := by
  have h := (List.mergeSort_perm (g.withDepths [] g.starts) fun a b => b.2 ≤ a.2).map (·.1)
  rwa [map_fst_withDepths] at h

theorem exists_root_reaches {s : String} (h : s ∈ g.services) :
    ∃ root ∈ g.roots, g.Reaches root s := by
  obtain ⟨start, hstart, hs⟩ := exists_start_reaches h
  exact ⟨start, g.roots_perm.mem_iff.mpr hstart, hs⟩

end Telemetry.CallGraph
