import Mathlib.Data.List.Perm.Subperm
import Telemetry.Proofs.CallGraph.Descent
import Telemetry.Proofs.CallGraph.Reach
import Telemetry.Proofs.CallGraph.Record
import Telemetry.Proofs.Diagram.Chain

/-!
# The lines that describe a graph

* `linePaths`, `describe_eq`: the paths whose texts the lines are, in the order of the
  lines;
* `chainOf`, `describe_written`: the chains that these paths are, with the counts of the graph,
  and how the lines write them;
* `linePaths_of_call`, `linePaths_of_calls`: the one line of a graph of one call, or of two
  calls in a row;
* `exists_line`: every edge is on one of them;
* `isLine_of_mem_linePaths`: they follow edges;
* `describe_covers`: the description of a graph of calls covers it.
-/

namespace Telemetry.CallGraph

/-- The paths whose texts are the lines that describe the graph, in the order of these
lines. -/
def linePaths (g : CallGraph) : List (List String) :=
  g.chains.mergeSort fun a b =>
    Text.occurrences arrow (g.chainText b) ≤ Text.occurrences arrow (g.chainText a)

theorem sortLines_map {α : Type} (text : α → List Char) (as : List α) :
    sortLines (as.map text) =
      (as.mergeSort fun a b => Text.occurrences arrow (text b) ≤ Text.occurrences arrow (text a)).map
        text := by
  let counted (a : α) : List Char × Nat := (text a, Text.occurrences arrow (text a))
  have hsort : (as.mergeSort fun a b => (counted b).2 ≤ (counted a).2).map counted =
      (as.map counted).mergeSort fun a b => b.2 ≤ a.2 :=
    List.map_mergeSort fun _ _ _ _ => rfl
  calc sortLines (as.map text)
      = ((as.map counted).mergeSort fun a b => b.2 ≤ a.2).map (·.1) := by
        rw [sortLines, List.map_map]
        rfl
    _ = (as.mergeSort fun a b => (counted b).2 ≤ (counted a).2).map text := by
        rw [← hsort, List.map_map]
        rfl

theorem describe_eq (g : CallGraph) : g.describe = g.linePaths.map g.chainText :=
  sortLines_map g.chainText g.chains

theorem linePaths_perm (g : CallGraph) : g.linePaths.Perm g.chains :=
  List.mergeSort_perm ..

/-! ## Chains -/

/-- A call of a path, with the count of the graph. -/
def hopOf (g : CallGraph) (step : Ends) : Hop := ⟨g.callCount step.1 step.2, step.2.toList⟩

/-- The chain that a path is, with the counts of the graph. -/
def chainOf (g : CallGraph) : List String → Chain
  | [] => ⟨[], []⟩
  | s :: rest => ⟨s.toList, (steps (s :: rest)).map g.hopOf⟩

theorem hopsText_eq (g : CallGraph) (s : String) (rest : List String) :
    g.hopsText s rest =
      ((steps (s :: rest)).map g.hopOf).flatMap fun h => Chain.separator ++ Chain.writtenHop h := by
  induction rest generalizing s with
  | nil => rfl
  | cons s' rest ih =>
    rw [hopsText, ih s', steps_cons_cons, List.map_cons, List.flatMap_cons]
    simp [Chain.separator, Chain.writtenHop, Chain.countEnd, hopOf]

theorem chainText_eq (g : CallGraph) (path : List String) :
    g.chainText path = (g.chainOf path).written := by
  cases path with
  | nil => rfl
  | cons s rest => rw [chainText, hopsText_eq, chainOf, Chain.written]

/-- The lines of a description write the chains that its paths are. -/
theorem describe_written (g : CallGraph) :
    g.describe = (g.linePaths.map g.chainOf).map Chain.written := by
  rw [describe_eq, List.map_map]
  exact List.map_congr_left fun path _ => g.chainText_eq path

/-! ## Small graphs -/

theorem linePaths_of_call {a b : String} (h : a ≠ b) (n : Nat) :
    (⟨[a, b], [⟨a, b, n⟩]⟩ : CallGraph).linePaths = [[a, b]] := by
  have hroots : (⟨[a, b], [⟨a, b, n⟩]⟩ : CallGraph).roots = [a] := by
    simp [roots, starts, callerless, callers, callees, callsOf, furtherStarts, reach, withDepths,
      h, h.symm]
  rw [linePaths, chains, hroots]
  simp [chainsOf, chainsFrom, chainsThrough, unused, callsOf, CallEdge.ends, h, h.symm]

theorem linePaths_of_calls {a b c : String} (hab : a ≠ b) (hac : a ≠ c) (hbc : b ≠ c)
    (m n : Nat) :
    (⟨[a, b, c], [⟨a, b, m⟩, ⟨b, c, n⟩]⟩ : CallGraph).linePaths = [[a, b, c]] := by
  have hroots : (⟨[a, b, c], [⟨a, b, m⟩, ⟨b, c, n⟩]⟩ : CallGraph).roots = [a] := by
    simp [roots, starts, callerless, callers, callees, callsOf, furtherStarts, reach, withDepths,
      hab, hac, hbc, hab.symm, hac.symm, hbc.symm]
  rw [linePaths, chains, hroots]
  simp [chainsOf, chainsFrom, chainsThrough, unused, callsOf, CallEdge.ends, hab, hac, hbc,
    hab.symm, hac.symm, hbc.symm]

/-! ## Coverage -/

variable {g : CallGraph} {used : List Ends}

theorem Calls.exhausted {caller callee : String} (h : g.Calls caller callee)
    (hd : g.Descends [] [] g.chains used) (hs : g.Exhausted used caller) :
    g.Exhausted used callee := by
  obtain ⟨e, he, hends⟩ := h
  have hcaller : e.caller = caller := congrArg Prod.fst hends
  have hin : e.ends ∈ used := hs e (List.mem_filter.mpr ⟨he, decide_eq_true hcaller⟩)
  rw [hends] at hin
  exact ((hd.exhausts _ hin).resolve_left List.not_mem_nil).resolve_left List.not_mem_nil

theorem Reaches.exhausted {s s' : String} (h : g.Reaches s s') (hd : g.Descends [] [] g.chains used)
    (hs : g.Exhausted used s) : g.Exhausted used s' := by
  induction h with
  | refl => exact hs
  | tail _ hcall ih => exact hcall.exhausted hd ih

/-- Every edge is on one of the chains, if every service that calls another is listed. -/
theorem exists_line (hlisted : ∀ e ∈ g.edges, e.caller ∈ g.services) {e : CallEdge}
    (he : e ∈ g.edges) : ∃ c ∈ g.chains, e.ends ∈ steps c := by
  obtain ⟨used, hd, hroots, -⟩ := g.exists_descends_chainsOf [] g.roots
  obtain ⟨root, hroot, hreaches⟩ := exists_root_reaches (hlisted e he)
  have hcaller : g.Exhausted used e.caller := Reaches.exhausted hreaches hd (hroots root hroot)
  have hin : e.ends ∈ used := hcaller e (List.mem_filter.mpr ⟨he, decide_eq_true rfl⟩)
  exact (hd.covers _ hin).resolve_left List.not_mem_nil

theorem IsLine.length_le {path : List String} (h : g.IsLine path)
    (hlisted : ∀ e ∈ g.edges, e.caller ∈ g.services) : path.length ≤ g.serviceCount + 1 := by
  have hsub : path.dropLast ⊆ g.services := by
    intro s hs
    obtain ⟨step, hstep, rfl⟩ := exists_step_of_mem_dropLast hs
    obtain ⟨e, he, rfl⟩ := List.mem_map.mp (h.edges step hstep)
    exact hlisted e he
  have hle := (h.nodup.subperm hsub).length_le
  rw [List.length_dropLast] at hle
  exact Nat.sub_le_iff_le_add.mp hle

/-- The paths of the lines follow edges, at least one each. -/
theorem isLine_of_mem_linePaths (g : CallGraph) {path : List String} (h : path ∈ g.linePaths) :
    g.IsLine path ∧ ∃ step ∈ steps path, lastStep? path = some step := by
  obtain ⟨used, hd, -, -⟩ := g.exists_descends_chainsOf [] g.roots
  have hpath : path ∈ g.chains := g.linePaths_perm.mem_iff.mp h
  obtain ⟨step, hstep, -⟩ := hd.ends path hpath
  exact ⟨(hd.lines path hpath).1, step, List.mem_of_getLast? hstep, hstep⟩

theorem linePaths_eq_nil {calls : List (String × String)} :
    (ofCalls calls).linePaths = [] ↔ calls = [] := by
  constructor
  · intro h
    refine List.eq_nil_iff_forall_not_mem.mpr fun call hcall => ?_
    have hedge : edgeOf calls.count call ∈ (ofCalls calls).edges :=
      mem_edges_ofCalls.mpr ⟨hcall, rfl⟩
    obtain ⟨path, hpath, -⟩ := exists_line (fun _ he => caller_mem_services he) hedge
    exact List.not_mem_nil (h ▸ (linePaths_perm _).mem_iff.mpr hpath)
  · rintro rfl
    refine List.eq_nil_iff_forall_not_mem.mpr fun path hpath => ?_
    obtain ⟨hline, step, hstep, -⟩ := isLine_of_mem_linePaths _ hpath
    exact List.not_mem_nil (hline.edges step hstep)

/-- The lines that describe a graph, after any calls, are the texts of paths: each line writes
its path as a chain, with the counts of the graph. Each path begins at a root and follows
edges, which have these counts; its services are distinct, but its last one may close a
cycle, so that it is not longer than the services are many. Every edge is on one of the
paths, and no two paths end with the same edge, so that there are not more lines than
edges. -/
theorem describe_covers (calls : List (String × String)) :
    let g := ofCalls calls
    ∃ paths : List (List String), g.describe = paths.map g.chainText ∧
      g.describe = (paths.map g.chainOf).map Chain.written ∧
      (∀ path ∈ paths, (∃ root ∈ g.roots, path.head? = some root) ∧ 2 ≤ path.length ∧
        (∀ step ∈ steps path, ⟨step.1, step.2, g.callCount step.1 step.2⟩ ∈ g.edges) ∧
        path.dropLast.Nodup ∧ path.length ≤ g.serviceCount + 1) ∧
      (∀ e ∈ g.edges, ∃ path ∈ paths, e.ends ∈ steps path) ∧
      (paths.map lastStep?).Nodup ∧
      g.describe.length ≤ g.edges.length := by
  intro g
  have hlisted : ∀ e ∈ g.edges, e.caller ∈ g.services := fun e he => caller_mem_services he
  obtain ⟨used, hd, -, hheads⟩ := g.exists_descends_chainsOf [] g.roots
  have hmem : ∀ {path}, path ∈ g.linePaths ↔ path ∈ g.chains := g.linePaths_perm.mem_iff
  have hnodup : (g.linePaths.map lastStep?).Nodup :=
    (g.linePaths_perm.map lastStep?).nodup_iff.mpr hd.nodup
  refine ⟨g.linePaths, g.describe_eq, g.describe_written, fun path hpath => ?_, fun e he => ?_,
    hnodup, ?_⟩
  · obtain ⟨hline, step, hstep, -⟩ := g.isLine_of_mem_linePaths hpath
    refine ⟨hheads path (hmem.mp hpath), two_le_length_of_mem_steps hstep, fun step hstep => ?_,
      hline.nodup, hline.length_le hlisted⟩
    obtain ⟨e, he, hends⟩ := List.mem_map.mp (hline.edges step hstep)
    exact mem_edges_callCount.mpr (hends ▸ (mem_edges_ofCalls.mp he).1)
  · obtain ⟨path, hpath, hstep⟩ := exists_line hlisted he
    exact ⟨path, hmem.mpr hpath, hstep⟩
  · have hsub : g.linePaths.map lastStep? ⊆ g.edges.map fun e => some e.ends := by
      intro last hin
      obtain ⟨path, hpath, rfl⟩ := List.mem_map.mp hin
      obtain ⟨hline, step, hin, hstep⟩ := g.isLine_of_mem_linePaths hpath
      obtain ⟨e, he, rfl⟩ := List.mem_map.mp (hline.edges step hin)
      exact List.mem_map.mpr ⟨e, he, hstep.symm⟩
    have hle := (hnodup.subperm hsub).length_le
    rw [List.length_map, List.length_map] at hle
    rwa [describe_eq, List.length_map]

end Telemetry.CallGraph
