import Mathlib.Algebra.BigOperators.Group.List.Basic
import Mathlib.Algebra.GroupWithZero.Nat
import Telemetry.Proofs.CallGraph.Describe
import Telemetry.Proofs.List.Sorting
import Telemetry.Proofs.Number.Decimal
import Telemetry.Proofs.Text.Occurrences

/-!
# The order of the lines

The lines of a description are sorted by the arrows in their texts. A text has an arrow for every
step of its path, and those that the names of the services bring along: no arrow stands across the
end of a name, as there is white space around it.

* `arrows`, `occurrences_chainText`: the arrows in the text of a path;
* `describe_descends`: the order of the lines in any graph of calls, and
  `describe_not_by_length`: names that move a line up.
-/

namespace Telemetry.CallGraph

open Text

/-- The arrows of a path: one for each of its steps, and those in the names of its services. -/
def arrows (path : List String) : Nat :=
  (steps path).length + (path.map fun s => occurrences arrow s.toList).sum

/-! ## The arrows in a text -/

theorem arrow_ne_nil : arrow ≠ [] := List.cons_ne_nil _ _

theorem unbordered_arrow : Unbordered arrow := by decide

theorem occurrences_arrow (cs : List Char) : occurrences arrow cs = places arrow cs :=
  occurrences_eq_places unbordered_arrow arrow_ne_nil cs

theorem places_digits (n : Nat) : places arrow (Number.digits n) = 0 := by
  refine (places_eq_zero arrow_ne_nil).mpr fun hinfix => ?_
  have hdash : '-' ∈ Number.digits n := hinfix.subset List.mem_cons_self
  exact absurd (Number.isDigit_of_mem_digits hdash) (by decide)

/-- Behind a name the text goes on with a blank, if it goes on. -/
theorem places_append_hopsText (g : CallGraph) (name : List Char) (s : String) (rest : List String) :
    places arrow (name ++ g.hopsText s rest) =
      places arrow name + places arrow (g.hopsText s rest) := by
  cases rest with
  | nil => rw [hopsText, List.append_nil, places_nil arrow_ne_nil, Nat.add_zero]
  | cons callee rest =>
    obtain ⟨more, hmore⟩ : ∃ more, g.hopsText s (callee :: rest) = ' ' :: more := ⟨_, rfl⟩
    rw [hmore, places_append_cons arrow_ne_nil (by decide),
      places_cons_of_not_mem arrow_ne_nil (by decide)]

theorem places_hopsText (g : CallGraph) (s : String) (rest : List String) :
    places arrow (g.hopsText s rest) =
      rest.length + (rest.map fun s => places arrow s.toList).sum := by
  induction rest generalizing s with
  | nil => exact places_nil arrow_ne_nil
  | cons callee rest ih =>
    have htext : g.hopsText s (callee :: rest) =
        ' ' :: (arrow ++ '|' :: (Number.digits (g.callCount s callee) ++ '|' ::
          (' ' :: (callee.toList ++ g.hopsText callee rest)))) := by
      simp only [hopsText, List.append_assoc, List.cons_append]
    have hself : places arrow arrow = 1 := by decide
    rw [htext, places_cons_of_not_mem arrow_ne_nil (by decide),
      places_append_cons arrow_ne_nil (by decide), hself,
      places_append_cons arrow_ne_nil (by decide), places_digits,
      places_cons_of_not_mem arrow_ne_nil (by decide), places_append_hopsText, ih,
      List.length_cons, List.map_cons, List.sum_cons]
    omega

theorem occurrences_chainText (g : CallGraph) (path : List String) :
    occurrences arrow (g.chainText path) = arrows path := by
  cases path with
  | nil => exact (occurrences_arrow []).trans (places_nil arrow_ne_nil)
  | cons s rest =>
    have hsteps : (steps (s :: rest)).length = rest.length := by simp [steps]
    simp only [arrows, occurrences_arrow, chainText, places_append_hopsText, places_hopsText, hsteps,
      List.map_cons, List.sum_cons]
    omega

/-- The lines are sorted by the arrows of their paths. -/
theorem linePaths_eq (g : CallGraph) :
    g.linePaths = g.chains.mergeSort fun a b => arrows b ≤ arrows a := by
  simp only [linePaths, occurrences_chainText]

/-! ## Names without arrows -/

theorem exists_step_of_mem {path : List String} {s : String} (h : s ∈ path)
    (hlength : 2 ≤ path.length) : ∃ step ∈ steps path, s = step.1 ∨ s = step.2 := by
  induction path with
  | nil => cases h
  | cons a path ih =>
    cases path with
    | nil => exact absurd hlength (by simp)
    | cons b path =>
      rcases List.mem_cons.mp h with rfl | h
      · exact ⟨(s, b), List.mem_cons_self, .inl rfl⟩
      · cases path with
        | nil => exact ⟨(a, b), List.mem_cons_self, .inr (List.mem_singleton.mp h)⟩
        | cons c path =>
          obtain ⟨step, hstep, hs⟩ := ih h (by simp)
          exact ⟨step, List.mem_cons_of_mem _ hstep, hs⟩

variable {calls : List (String × String)}

/-- The paths of the lines lead through services of the graph. -/
theorem mem_services_of_mem_chains {path : List String} (hpath : path ∈ (ofCalls calls).chains)
    {s : String} (hs : s ∈ path) : s ∈ (ofCalls calls).services := by
  obtain ⟨hline, last, hlast, -⟩ :=
    isLine_of_mem_linePaths _ ((linePaths_perm _).mem_iff.mpr hpath)
  obtain ⟨step, hstep, hs⟩ := exists_step_of_mem hs (two_le_length_of_mem_steps hlast)
  obtain ⟨e, he, hends⟩ := List.mem_map.mp (hline.edges step hstep)
  have hcall : step ∈ calls := hends ▸ (mem_edges_ofCalls.mp he).1
  exact mem_services_ofCalls.mpr ⟨step, hcall, hs⟩

theorem arrows_of_plain {path : List String} (h : ∀ s ∈ path, ¬arrow <:+: s.toList) :
    arrows path = (steps path).length := by
  have hnone : (path.map fun s => occurrences arrow s.toList).sum = 0 := by
    refine List.sum_eq_zero fun n hn => ?_
    obtain ⟨s, hs, rfl⟩ := List.mem_map.mp hn
    rw [occurrences_arrow]
    exact (places_eq_zero arrow_ne_nil).mpr (h s hs)
  rw [arrows, hnone, Nat.add_zero]

/-- The lines that describe a graph, after any calls, are the texts of the paths that the descent
from the roots finds. Those with more arrows come first, and those with equally many stay in the
order in which they were found, where a path has an arrow for each of its steps and those in the
names of its services. So if no service has an arrow in its name, the lines come by the number of
their steps. -/
theorem describe_descends (calls : List (String × String)) :
    let g := ofCalls calls
    ∃ paths : List (List String), g.describe = paths.map g.chainText ∧ paths.Perm g.chains ∧
      paths.Pairwise (fun path path' => arrows path' ≤ arrows path) ∧
      (∀ n, paths.filter (fun path => arrows path = n) =
        g.chains.filter fun path => arrows path = n) ∧
      ((∀ s ∈ g.services, ¬arrow <:+: s.toList) →
        paths.Pairwise (fun path path' => (steps path').length ≤ (steps path).length) ∧
        ∀ n, paths.filter (fun path => (steps path).length = n) =
          g.chains.filter fun path => (steps path).length = n) := by
  intro g
  have hperm : g.linePaths.Perm g.chains := g.linePaths_perm
  have hsorted : g.linePaths.Pairwise fun path path' => arrows path' ≤ arrows path := by
    rw [linePaths_eq]
    exact descending_mergeSort arrows g.chains
  have hstable : ∀ n, g.linePaths.filter (fun path => arrows path = n) =
      g.chains.filter fun path => arrows path = n := by
    rw [linePaths_eq]
    exact fun n => filter_descending arrows n g.chains
  refine ⟨g.linePaths, g.describe_eq, hperm, hsorted, hstable, fun hplain => ?_⟩
  have harrows : ∀ path ∈ g.chains, arrows path = (steps path).length := fun path hpath =>
    arrows_of_plain fun s hs => hplain s (mem_services_of_mem_chains hpath hs)
  have hlines : ∀ path ∈ g.linePaths, arrows path = (steps path).length := fun path hpath =>
    harrows path (hperm.mem_iff.mp hpath)
  refine ⟨hsorted.imp_of_mem fun hpath hpath' hle => ?_, fun n => ?_⟩
  · rwa [hlines _ hpath, hlines _ hpath'] at hle
  · calc g.linePaths.filter (fun path => (steps path).length = n)
        = g.linePaths.filter (fun path => arrows path = n) :=
          List.filter_congr fun path hpath => by rw [hlines path hpath]
      _ = g.chains.filter (fun path => arrows path = n) := hstable n
      _ = g.chains.filter (fun path => (steps path).length = n) :=
          List.filter_congr fun path hpath => by rw [harrows path hpath]

/-- A service with two arrows in its name: its line has one step and comes before one with two. -/
theorem describe_not_by_length :
    let g := ofCalls [("web", "-->-->"), ("api", "auth"), ("auth", "db")]
    g.chains = [["api", "auth", "db"], ["web", "-->-->"]] ∧
      g.describe = ["web -->|1| -->-->".toList, "api -->|1| auth -->|1| db".toList] := by
  intro g
  have hgraph : g = ⟨["web", "-->-->", "api", "auth", "db"],
    [⟨"web", "-->-->", 1⟩, ⟨"api", "auth", 1⟩, ⟨"auth", "db", 1⟩]⟩ := rfl
  have hroots : g.roots = ["api", "web"] := by
    rw [hgraph]
    simp [roots, starts, callerless, callers, callees, callsOf, furtherStarts, reach, withDepths,
      depthFrom, deepestOf, List.lookup_cons, List.mergeSort]
  have hchains : g.chains = [["api", "auth", "db"], ["web", "-->-->"]] := by
    rw [chains, hroots, hgraph]
    simp [chainsOf, chainsFrom, chainsThrough, unused, callsOf, CallEdge.ends]
  have harrows : arrows ["api", "auth", "db"] = 2 ∧ arrows ["web", "-->-->"] = 3 := by
    simp only [arrows, occurrences_arrow]
    decide
  have hlines : g.linePaths = [["web", "-->-->"], ["api", "auth", "db"]] := by
    rw [linePaths_eq, hchains]
    simp [List.mergeSort, harrows]
  refine ⟨hchains, ?_⟩
  rw [describe_eq, hlines, hgraph]
  decide

end Telemetry.CallGraph
