import Mathlib.Data.List.Basic
import Telemetry.Proofs.CallGraph.Describe
import Telemetry.Proofs.Diagram.Chain

/-!
# A description drawn

The description of a graph is read as the chains that its lines stand for.

* `chainsOfText_of_legible`, `chainsOfText_description`: the chains of a description whose
  lines are legible, or readable;
* `drawing`, `lines_of_nameText`: what is drawn of a graph whose names can be read;
* `lines_description`: what the built-in renderer makes of the description of a graph.
-/

namespace Telemetry

open Text

/-! ## Lines -/

namespace Renderer

/-- A line without the white space at its ends, if anything is left of it. -/
def stripped? (line : List Char) : Option (List Char) :=
  if (trim line).isEmpty then none else some (trim line)

theorem map_snd_numberedLines (text : List Char) :
    (numberedLines text).map (·.2) = (pieces ['\n'] text).filterMap stripped? := by
  have hline : ∀ numbered : List Char × Nat,
      (if (trim numbered.1).isEmpty then none else some (numbered.2, trim numbered.1)).map
        (·.2) = stripped? numbered.1 := by
    intro numbered
    rw [stripped?]
    split <;> rfl
  rw [numberedLines, List.map_filterMap]
  simp only [hline]
  change List.filterMap (stripped? ∘ Prod.fst) _ = _
  rw [← List.filterMap_map, List.zipIdx_map_fst]

theorem stripped?_indent {line : List Char} (hne : trim line ≠ []) :
    stripped? ([' ', ' ', ' ', ' '] ++ line) = some (trim line) := by
  rw [stripped?, trim_append rfl, if_neg fun h => hne (List.isEmpty_iff.mp h)]

/-- Lines that end with a line feed each are lines between line feeds, and a last one that
is empty. -/
theorem cons_flatMap_newline (lines : List (List Char)) :
    '\n' :: lines.flatMap (· ++ ['\n']) = (lines ++ [[]]).flatMap (['\n'] ++ ·) := by
  induction lines with
  | nil => rfl
  | cons line lines ih =>
    rw [List.flatMap_cons, List.cons_append, List.flatMap_cons, ← ih]
    simp

theorem chainsOfLines_written {chains : List Chain} (hread : ∀ c ∈ chains, c.Legible)
    {numbered : List (Nat × List Char)}
    (h : numbered.map (·.2) = chains.map fun c => trim c.written) :
    chainsOfLines numbered = .ok (chains.map Chain.trimmed) := by
  induction chains generalizing numbered with
  | nil =>
    rw [List.map_eq_nil_iff.mp h]
    rfl
  | cons c chains ih =>
    obtain ⟨⟨n, line⟩, rest, rfl, hline, hrest⟩ := List.map_eq_cons_iff.mp h
    obtain ⟨hc, hchains⟩ := List.forall_mem_cons.mp hread
    have hline : line = trim c.written := hline
    rw [chainsOfLines, hline, Chain.ofLine_trim_written hc]
    simp only [ih hchains hrest]
    rfl

end Renderer

/-! ## The description -/

theorem Chain.drawn_ne_nil {c : Chain} (hc : c.Readable) : c.drawn ≠ [] := fun h =>
  hc.source.nonempty (List.append_eq_nil_iff.mp h).1

/-- Nothing is drawn of no chain only. -/
theorem intercalate_drawn_eq_nil {chains : List Chain} (hread : ∀ c ∈ chains, c.Readable) :
    List.intercalate ['\n'] (chains.map Chain.drawn) = [] ↔ chains = [] := by
  match chains with
  | [] => exact iff_of_true rfl rfl
  | [c] =>
    rw [List.map_singleton, List.intercalate_singleton]
    exact iff_of_false (Chain.drawn_ne_nil (hread c List.mem_cons_self)) (List.cons_ne_nil c _)
  | c :: c' :: rest =>
    rw [List.map_cons, List.map_cons, List.intercalate_cons_cons, List.append_assoc]
    refine iff_of_false (fun h => ?_) (List.cons_ne_nil c _)
    exact Chain.drawn_ne_nil (hread c List.mem_cons_self) (List.append_eq_nil_iff.mp h).1

namespace CallGraph

variable {g : CallGraph} {chains : List Chain}

/-- A description is its header and its lines, with line feeds between them. -/
theorem description_eq (hlines : g.describe = chains.map Chain.written) :
    g.description = descriptionHeader ++
      ((chains.map fun c : Chain => [' ', ' ', ' ', ' '] ++ c.written) ++ [[]]).flatMap (['\n'] ++ ·) := by
  rw [← Renderer.cons_flatMap_newline, List.flatMap_map, description, hlines, List.flatMap_map]

theorem lines_of_description (hlines : g.describe = chains.map Chain.written)
    (hread : ∀ c ∈ chains, c.Legible) :
    (Renderer.numberedLines g.description).map (·.2) =
      descriptionHeader :: chains.map fun c => trim c.written := by
  have hnewline : ∀ p ∈ (chains.map fun c => [' ', ' ', ' ', ' '] ++ c.written) ++ [[]],
      ¬['\n'] <:+: p := by
    intro p hp
    apply not_infix_of_not_mem
    rcases List.mem_append.mp hp with hp | hp
    · obtain ⟨c, hc, rfl⟩ := List.mem_map.mp hp
      rw [List.mem_append, not_or]
      exact ⟨by decide, Chain.newline_not_mem_written (hread c hc)⟩
    · rw [List.mem_singleton.mp hp]
      exact List.not_mem_nil
  have hheader : ¬['\n'] <:+: descriptionHeader := not_infix_of_not_mem (by decide)
  have hstripped : (chains.map fun c => [' ', ' ', ' ', ' '] ++ c.written).filterMap
      Renderer.stripped? = chains.map fun c => trim c.written := by
    rw [List.filterMap_map, ← List.filterMap_eq_map]
    exact List.filterMap_congr fun c hc =>
      Renderer.stripped?_indent (Chain.trim_written_ne_nil (hread c hc))
  have hlast : List.filterMap Renderer.stripped? [[]] = [] := by decide
  rw [Renderer.map_snd_numberedLines, description_eq hlines,
    pieces_flatMap List.not_mem_nil hheader hnewline,
    List.filterMap_cons_some (b := descriptionHeader) (by decide), List.filterMap_append,
    hstripped, hlast, List.append_nil]

/-- The chains of a description whose lines are legible are those that the lines write, with
their names as they are read. -/
theorem chainsOfText_of_legible (hlines : g.describe = chains.map Chain.written)
    (hread : ∀ c ∈ chains, c.Legible) :
    Renderer.chainsOfText g.description = .ok (chains.map Chain.trimmed) := by
  obtain ⟨⟨n, header⟩, rest, hnumbered, hheader, hrest⟩ :=
    List.map_eq_cons_iff.mp (lines_of_description hlines hread)
  have hheader : header = descriptionHeader := hheader
  rw [Renderer.chainsOfText, hnumbered]
  simp only [hheader]
  rw [if_pos (by decide), Renderer.chainsOfLines_written hread hrest]

/-- The chains of a description whose lines are readable are those that the lines write. -/
theorem chainsOfText_description (hlines : g.describe = chains.map Chain.written)
    (hread : ∀ c ∈ chains, c.Readable) : Renderer.chainsOfText g.description = .ok chains := by
  have htrimmed : chains.map Chain.trimmed = chains :=
    (List.map_congr_left fun c hc => (hread c hc).trimmed).trans chains.map_id
  rw [chainsOfText_of_legible hlines fun c hc => (hread c hc).legible, htrimmed]

/-! ## Paths -/

/-- The lines of the graph, each drawn on its own, with the names of the services as they are
read. -/
def drawing (g : CallGraph) : String :=
  String.ofList <|
    List.intercalate ['\n'] (g.linePaths.map fun path => (g.chainOf path).trimmed.drawn)

variable {calls : List (String × String)}

/-- The chain that a path is names the services of calls, and counts these calls. -/
theorem chainOf_calls {path : List String} (hline : (ofCalls calls).IsLine path)
    (hsteps : steps path ≠ []) :
    let c := (ofCalls calls).chainOf path
    (∃ call ∈ calls, c.source = call.1.toList) ∧ c.hops ≠ [] ∧
      ∀ h ∈ c.hops, ∃ call ∈ calls, h.target = call.2.toList ∧
        ⟨call.1, call.2, h.count⟩ ∈ (ofCalls calls).edges := by
  have hcalls : ∀ step ∈ steps path, step ∈ calls := by
    intro step hstep
    obtain ⟨e, he, hends⟩ := List.mem_map.mp (hline.edges step hstep)
    exact hends ▸ (mem_edges_ofCalls.mp he).1
  match path, hsteps with
  | s :: s' :: rest, _ =>
    refine ⟨⟨(s, s'), hcalls _ List.mem_cons_self, rfl⟩, List.cons_ne_nil _ _, fun h hh => ?_⟩
    obtain ⟨step, hstep, rfl⟩ := List.mem_map.mp hh
    exact ⟨step, hcalls step hstep, rfl, mem_edges_callCount.mpr (hcalls step hstep)⟩

/-- Clean names and counts that are words make readable chains. -/
theorem readable_chainOf
    (hclean : ∀ call ∈ calls, CleanName call.1.toList ∧ CleanName call.2.toList)
    (hcount : ∀ e ∈ (ofCalls calls).edges, e.count < 0x10000000000000000) {path : List String}
    (hline : (ofCalls calls).IsLine path) (hsteps : steps path ≠ []) :
    ((ofCalls calls).chainOf path).Readable := by
  obtain ⟨⟨first, hfirst, hsource⟩, hne, hhops⟩ := chainOf_calls hline hsteps
  refine ⟨hsource ▸ (hclean first hfirst).1, hne, fun h hh => ?_, fun h hh => ?_⟩
  · obtain ⟨call, hcall, htarget, -⟩ := hhops h hh
    exact htarget ▸ (hclean call hcall).2
  · obtain ⟨call, -, -, hedge⟩ := hhops h hh
    exact hcount _ hedge

/-- Names that can be read after a blank, and counts that are words, make legible chains. -/
theorem legible_chainOf
    (hnames : ∀ s ∈ (ofCalls calls).services, NameText (' ' :: s.toList))
    (hcount : ∀ e ∈ (ofCalls calls).edges, e.count < 0x10000000000000000) {path : List String}
    (hline : (ofCalls calls).IsLine path) (hsteps : steps path ≠ []) :
    ((ofCalls calls).chainOf path).Legible := by
  obtain ⟨⟨first, hfirst, hsource⟩, hne, hhops⟩ := chainOf_calls hline hsteps
  refine ⟨?_, hne, fun h hh => ?_, fun h hh => ?_⟩
  · rw [hsource]
    exact (hnames _ (mem_services_ofCalls.mpr ⟨first, hfirst, .inl rfl⟩)).tail (by decide)
  · obtain ⟨call, hcall, htarget, -⟩ := hhops h hh
    rw [htarget]
    exact hnames _ (mem_services_ofCalls.mpr ⟨call, hcall, .inr rfl⟩)
  · obtain ⟨call, -, -, hedge⟩ := hhops h hh
    exact hcount _ hedge

/-- The description of a graph is drawn, if the names of the services can be read after a
blank and the counts are words. -/
theorem lines_of_nameText
    (hnames : ∀ s ∈ (ofCalls calls).services, NameText (' ' :: s.toList))
    (hcount : ∀ e ∈ (ofCalls calls).edges, e.count < 0x10000000000000000) :
    Renderer.lines (String.ofList (ofCalls calls).description) = .ok (ofCalls calls).drawing := by
  have hlegible : ∀ c ∈ (ofCalls calls).linePaths.map (ofCalls calls).chainOf, c.Legible := by
    intro c hc
    obtain ⟨path, hpath, rfl⟩ := List.mem_map.mp hc
    obtain ⟨hline, step, hstep, -⟩ := (ofCalls calls).isLine_of_mem_linePaths hpath
    exact legible_chainOf hnames hcount hline (List.ne_nil_of_mem hstep)
  rw [Renderer.lines, String.toList_ofList,
    chainsOfText_of_legible (ofCalls calls).describe_written hlegible, drawing]
  simp only [Except.map, List.map_map, Function.comp_def]

/-- The built-in renderer draws the description of a graph, after any calls between services
with clean names, line by line: every line is what a chain is written as, and is drawn as
that chain, with the same names and the same counts, which are words of 64 bits. The text
is empty for the graph without calls, and only for that one. -/
theorem lines_description (calls : List (String × String))
    (hclean : ∀ call ∈ calls, CleanName call.1.toList ∧ CleanName call.2.toList)
    (hcount : ∀ e ∈ (ofCalls calls).edges, e.count < 0x10000000000000000) :
    let g := ofCalls calls
    let chains := g.linePaths.map g.chainOf
    g.describe = chains.map Chain.written ∧
      Renderer.lines (String.ofList g.description) =
        .ok (String.ofList (List.intercalate ['\n'] (chains.map Chain.drawn))) ∧
      (Renderer.lines (String.ofList g.description) = .ok "" ↔ calls = []) := by
  intro g chains
  have hread : ∀ c ∈ chains, c.Readable := by
    intro c hc
    obtain ⟨path, hpath, rfl⟩ := List.mem_map.mp hc
    obtain ⟨hline, step, hstep, -⟩ := g.isLine_of_mem_linePaths hpath
    exact readable_chainOf hclean hcount hline (List.ne_nil_of_mem hstep)
  have hlines : g.describe = chains.map Chain.written := g.describe_written
  have hdrawn : Renderer.lines (String.ofList g.description) =
      .ok (String.ofList (List.intercalate ['\n'] (chains.map Chain.drawn))) := by
    rw [Renderer.lines, String.toList_ofList, chainsOfText_description hlines hread]
    rfl
  refine ⟨hlines, hdrawn, ?_⟩
  rw [hdrawn, Except.ok.injEq, String.ofList_eq_empty_iff, intercalate_drawn_eq_nil hread,
    List.map_eq_nil_iff, linePaths_eq_nil]

/-- A name with a bar, one with a dash and blanks, and a call that is counted twice. -/
theorem lines_description_of_bars :
    let calls := [("web", "a|b"), ("a|b", "x - y"), ("web", "a|b")]
    (∀ call ∈ calls, CleanName call.1.toList ∧ CleanName call.2.toList) ∧
      (∀ e ∈ (ofCalls calls).edges, e.count < 0x10000000000000000) ∧
      (ofCalls calls).describe = ["web -->|2| a|b -->|1| x - y".toList] ∧
      Renderer.lines (String.ofList (ofCalls calls).description) =
        .ok "web ─[2]→ a|b ─[1]→ x - y" := by
  intro calls
  have hclean : ∀ call ∈ calls, CleanName call.1.toList ∧ CleanName call.2.toList := by decide
  have hcount : ∀ e ∈ (ofCalls calls).edges, e.count < 0x10000000000000000 := by decide
  have hgraph : ofCalls calls =
      ⟨["web", "a|b", "x - y"], [⟨"web", "a|b", 2⟩, ⟨"a|b", "x - y", 1⟩]⟩ := rfl
  have hpaths : (ofCalls calls).linePaths = [["web", "a|b", "x - y"]] :=
    hgraph ▸ linePaths_of_calls (by decide) (by decide) (by decide) 2 1
  obtain ⟨hlines, hdrawn, -⟩ := lines_description calls hclean hcount
  rw [hpaths, List.map_singleton, List.map_singleton] at hlines hdrawn
  have hwritten : ((ofCalls calls).chainOf ["web", "a|b", "x - y"]).written =
      "web -->|2| a|b -->|1| x - y".toList := by decide
  have htext : ((ofCalls calls).chainOf ["web", "a|b", "x - y"]).drawn =
      "web ─[2]→ a|b ─[1]→ x - y".toList := by decide
  rw [hwritten] at hlines
  rw [htext, List.intercalate_singleton, String.ofList_toList] at hdrawn
  exact ⟨hclean, hcount, hlines, hdrawn⟩

end CallGraph

end Telemetry
