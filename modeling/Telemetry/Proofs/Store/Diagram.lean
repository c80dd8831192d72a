import Telemetry.Proofs.CallGraph.Shown
import Telemetry.Proofs.Diagram.Acceptance
import Telemetry.Proofs.Diagram.Description
import Telemetry.Proofs.Store.Agreement

/-!
# The diagram of a store

A store describes the graph of its calls line by line and hands the description to its
renderer, which reads the lines again. The names of services stand in them as they are, so a
name can be taken for something else: for the end of a line, for a separator, or, if there is
nothing of it but white space, for nothing at all.

* `renderer_run`: nothing that a store does changes its renderer;
* `run_diagram`: what is drawn after a run, if no name is taken for anything else;
* `diagram_of_call`: what becomes of a graph of one call, by the lines of its description, and
  `diagram_fails_of_names`: of graphs where a name is taken for something else.
-/

namespace Telemetry

open Text

namespace Store

variable {limits : StoreSettings} {s₀ : Store}

theorem renderer_act (s : Store) (a : Action) : (s.act a).1.renderer = s.renderer := by
  cases a with
  | recalculate position =>
    simp only [act, recalculate]
    split <;> rfl
  | _ => rfl

theorem renderer_run (s : Store) (actions : List Action) :
    (s.run actions).renderer = s.renderer :=
  foldl_unchanged renderer _ renderer_act actions s

/-- After any run of a store with the built-in renderer, the graph of its calls is drawn, if
each of its services has a name that can be read after a blank: one with more than white
space, without a line feed and without a separator. -/
theorem run_diagram (h : create limits = .ok s₀) (actions : List Action)
    (hnames : ∀ name ∈ (s₀.run actions).callGraph.services, NameText (' ' :: name.toList)) :
    (s₀.run actions).diagram = .ok (s₀.run actions).callGraph.drawing := by
  obtain ⟨rs, hs⟩ := exists_settled_run h actions
  have hrenderer : (s₀.run actions).renderer = Renderer.lines := by
    rw [renderer_run, eq_empty_of_create h]
    rfl
  rw [diagram, hrenderer]
  exact CallGraph.lines_of_nameText hnames fun e he => hs.index.count_lt he

/-- A name with a bar and one with white space around it. -/
theorem run_diagram_of_blanks :
    let actions := [addSpan "web" 1 1 0, addSpan " a| b\t" 1 2 1, addSpan "db" 1 3 2]
    let s := (empty ⟨9, 9, 9⟩).run actions
    create ⟨9, 9, 9⟩ = .ok (empty ⟨9, 9, 9⟩) ∧
      (∀ name ∈ s.callGraph.services, NameText (' ' :: name.toList)) ∧
      s.diagram = .ok "web ─[1]→ a| b ─[1]→ db" := by
  intro actions s
  have hgraph : s.callGraph =
      ⟨["web", " a| b\t", "db"], [⟨"web", " a| b\t", 1⟩, ⟨" a| b\t", "db", 1⟩]⟩ := rfl
  have hnames : ∀ name ∈ s.callGraph.services, NameText (' ' :: name.toList) := by
    rw [hgraph]
    decide
  have hpaths : s.callGraph.linePaths = [["web", " a| b\t", "db"]] :=
    hgraph ▸ CallGraph.linePaths_of_calls (by decide) (by decide) (by decide) 1 1
  have htext : (s.callGraph.chainOf ["web", " a| b\t", "db"]).trimmed.drawn =
      "web ─[1]→ a| b ─[1]→ db".toList := by
    rw [hgraph]
    decide
  have hdrawing : s.callGraph.drawing = "web ─[1]→ a| b ─[1]→ db" := by
    rw [CallGraph.drawing, hpaths, List.map_singleton, htext, List.intercalate_singleton,
      String.ofList_toList]
  have hcreate : create ⟨9, 9, 9⟩ = .ok (empty ⟨9, 9, 9⟩) := rfl
  exact ⟨hcreate, hnames, hdrawing ▸ run_diagram hcreate actions hnames⟩

/-- What the built-in renderer makes of a graph of one call, by the lines that it finds in the
description. -/
theorem diagram_of_call {s : Store} {caller callee : String} (hrenderer : s.renderer = .lines)
    (hgraph : s.callGraph = ⟨[caller, callee], [⟨caller, callee, 1⟩]⟩) (hne : caller ≠ callee)
    {rest : List (Nat × List Char)} {e : RenderError}
    (hlines : contentLines (CallGraph.descriptionHeader ++ '\n' :: ([' ', ' ', ' ', ' '] ++
      Chain.written ⟨caller.toList, [⟨1, callee.toList⟩]⟩ ++ ['\n'])) =
        (1, CallGraph.descriptionHeader) :: rest)
    (hrest : Renderer.chainsOfLines rest = .error e) : s.diagram = .error e := by
  have hcount : s.callGraph.chainOf [caller, callee] =
      ⟨caller.toList, [⟨1, callee.toList⟩]⟩ := by
    rw [hgraph]
    simp [CallGraph.chainOf, CallGraph.steps, CallGraph.hopOf, CallGraph.callCount]
  have hdescribe : s.callGraph.describe = [Chain.written ⟨caller.toList, [⟨1, callee.toList⟩]⟩] := by
    rw [CallGraph.describe_written, ← hcount, hgraph, CallGraph.linePaths_of_call hne]
    rfl
  rw [diagram, hrenderer, Renderer.lines_eq_error_iff, String.toList_ofList, CallGraph.description,
    hdescribe, List.flatMap_singleton, Renderer.chainsOfText, Renderer.numberedLines_eq, hlines]
  exact (if_pos (by decide)).trans hrest

/-- A name with a separator, one with a line feed and one of nothing but white space: none of
these graphs is drawn. -/
theorem diagram_fails_of_names :
    ((empty ⟨9, 9, 9⟩).run [addSpan "web" 1 1 0, addSpan "a -->|b" 1 2 1]).diagram =
        .error (.malformedEdge 2 .unterminatedCount) ∧
      ((empty ⟨9, 9, 9⟩).run [addSpan "web" 1 1 0, addSpan "a\nb" 1 2 1]).diagram =
        .error (.malformedEdge 3 (.noArrow "b")) ∧
      ((empty ⟨9, 9, 9⟩).run [addSpan "web" 1 1 0, addSpan " " 1 2 1]).diagram =
        .error (.malformedEdge 2 .unterminatedCount) := by
  refine ⟨?separator, ?newline, ?blank⟩
  case separator =>
    have hparts : pieces Chain.separator "web -->|1| a -->|b".toList =
        ["web".toList, "1| a".toList, "b".toList] :=
      (pieces_eq_cons_iff (by decide)).mpr (by decide)
    have hline : Chain.ofLine "web -->|1| a -->|b".toList = .error .unterminatedCount := by
      rw [Chain.ofLine, hparts]
      rfl
    have hlines : Renderer.chainsOfLines [(2, "web -->|1| a -->|b".toList)] =
        .error (.malformedEdge 2 .unterminatedCount) := by
      rw [Renderer.chainsOfLines, hline]
    exact diagram_of_call rfl rfl (by decide) (by decide) hlines
  case newline =>
    have hfirst : pieces Chain.separator "web -->|1| a".toList = ["web".toList, "1| a".toList] :=
      (pieces_eq_cons_iff (by decide)).mpr (by decide)
    have hsecond : pieces Chain.separator "b".toList = ["b".toList] :=
      (pieces_eq_cons_iff (by decide)).mpr (by decide)
    obtain ⟨c, hchain⟩ : ∃ c, Chain.ofLine "web -->|1| a".toList = .ok c := by
      rw [Chain.ofLine, hfirst]
      exact ⟨_, rfl⟩
    have hline : Chain.ofLine "b".toList = .error (.noArrow "b") := by
      rw [Chain.ofLine, hsecond]
      rfl
    have hlines : Renderer.chainsOfLines [(2, "web -->|1| a".toList), (3, "b".toList)] =
        .error (.malformedEdge 3 (.noArrow "b")) := by
      rw [Renderer.chainsOfLines, hchain, Renderer.chainsOfLines, hline]
      rfl
    exact diagram_of_call rfl rfl (by decide) (by decide) hlines
  case blank =>
    have hparts : pieces Chain.separator "web -->|1|".toList = ["web".toList, "1|".toList] :=
      (pieces_eq_cons_iff (by decide)).mpr (by decide)
    have hline : Chain.ofLine "web -->|1|".toList = .error .unterminatedCount := by
      rw [Chain.ofLine, hparts]
      rfl
    have hlines : Renderer.chainsOfLines [(2, "web -->|1|".toList)] =
        .error (.malformedEdge 2 .unterminatedCount) := by
      rw [Renderer.chainsOfLines, hline]
    exact diagram_of_call rfl rfl (by decide) (by decide) hlines

end Store

end Telemetry
