import Mathlib.Data.List.Nodup
import Telemetry.CallGraph.Chains

/-!
# The descent through a graph

`chainsFrom` and `chainsThrough` follow edges that have not been used yet, and hand on the
edges used by then.

* `steps`: the steps of a path from service to service;
* `Descends`: what a part of the descent makes of the edges used before it, given the path
  that leads to it: no edge is used twice to end a chain, every edge that it uses is on one
  of its chains, and behind every edge that it uses all edges are used, unless the edge
  leads back to the path;
* `descends_nil`, `Descends.append`, `descends_single`, `Descends.enter`: the parts that a
  descent is made of;
* `descends_chainsThrough`, `descends_chainsOf`: the descent itself.
-/

namespace Telemetry.CallGraph

variable {g : CallGraph}

/-! ## The steps of a path -/

/-- The steps of a path, each from a service to the next one. -/
def steps (path : List String) : List Ends := path.zip path.tail

/-- The step that a path ends with. -/
def lastStep? (path : List String) : Option Ends := (steps path).getLast?

@[simp] theorem steps_singleton (s : String) : steps [s] = [] := rfl

@[simp] theorem steps_cons_cons (s s' : String) (path : List String) :
    steps (s :: s' :: path) = (s, s') :: steps (s' :: path) := rfl

theorem steps_concat_concat (path : List String) (s s' : String) :
    steps (path ++ [s, s']) = steps (path ++ [s]) ++ [(s, s')] := by
  induction path with
  | nil => rfl
  | cons a path ih =>
    cases path with
    | nil => rfl
    | cons b path => exact congrArg ((a, b) :: ·) ih

/-- A path that is given backwards, with one service more. -/
theorem steps_reverse_cons_cons (s caller : String) (path : List String) :
    steps (s :: caller :: path).reverse = steps (caller :: path).reverse ++ [(caller, s)] := by
  simp only [List.reverse_cons, List.append_assoc, List.singleton_append]
  exact steps_concat_concat path.reverse caller s

theorem steps_prefix {path path' : List String} (h : path <+: path') : steps path <+: steps path' := by
  obtain ⟨more, rfl⟩ := h
  induction path with
  | nil => exact List.nil_prefix
  | cons a path ih =>
    cases path with
    | nil => exact List.nil_prefix
    | cons b path => exact (List.prefix_cons_inj (a, b)).mpr ih

theorem two_le_length_of_mem_steps {path : List String} {step : Ends} (h : step ∈ steps path) :
    2 ≤ path.length := by
  have hlen := List.length_pos_of_mem h
  rw [steps, List.length_zip, List.length_tail] at hlen
  omega

/-- All services of a path but the last one are called from. -/
theorem exists_step_of_mem_dropLast {path : List String} {s : String} (h : s ∈ path.dropLast) :
    ∃ step ∈ steps path, step.1 = s := by
  induction path with
  | nil => cases h
  | cons a path ih =>
    cases path with
    | nil => cases h
    | cons b path =>
      rw [List.dropLast_cons_cons] at h
      rcases List.mem_cons.mp h with rfl | h
      · exact ⟨(s, b), List.mem_cons_self, rfl⟩
      · obtain ⟨step, hstep, e⟩ := ih h
        exact ⟨step, List.mem_cons_of_mem _ hstep, e⟩

/-- The path follows edges, and no service comes up twice on it, unless the last one closes
a cycle. -/
structure IsLine (g : CallGraph) (path : List String) : Prop where
  edges : ∀ step ∈ steps path, step ∈ g.edges.map CallEdge.ends
  nodup : path.dropLast.Nodup

/-- The path, which is given backwards, follows edges, and no service comes up twice on
it. -/
structure IsWay (g : CallGraph) (path : List String) : Prop where
  edges : ∀ step ∈ steps path.reverse, step ∈ g.edges.map CallEdge.ends
  nodup : path.Nodup

theorem isWay_singleton (s : String) : g.IsWay [s] :=
  ⟨fun _ h => absurd h List.not_mem_nil, List.nodup_singleton s⟩

section

variable {path : List String} {e : CallEdge}

/-- A step further along an edge. -/
theorem IsWay.edges_cons (h : g.IsWay path) (he : e ∈ g.edges) (hcaller : path.head? = some e.caller) :
    steps (e.callee :: path).reverse = steps path.reverse ++ [e.ends] ∧
      ∀ step ∈ steps (e.callee :: path).reverse, step ∈ g.edges.map CallEdge.ends := by
  obtain ⟨rest, rfl⟩ := List.head?_eq_some_iff.mp hcaller
  have hsteps := steps_reverse_cons_cons e.callee e.caller rest
  refine ⟨hsteps, fun step hstep => ?_⟩
  rw [hsteps] at hstep
  rcases List.mem_append.mp hstep with hstep | hstep
  · exact h.edges step hstep
  · rw [List.mem_singleton.mp hstep]
    exact List.mem_map_of_mem he

theorem IsWay.cons (h : g.IsWay path) (he : e ∈ g.edges) (hcaller : path.head? = some e.caller)
    (hnew : e.callee ∉ path) : g.IsWay (e.callee :: path) :=
  ⟨(h.edges_cons he hcaller).2, List.nodup_cons.mpr ⟨hnew, h.nodup⟩⟩

theorem IsWay.isLine (h : g.IsWay path) (he : e ∈ g.edges) (hcaller : path.head? = some e.caller) :
    g.IsLine (e.callee :: path).reverse where
  edges := (h.edges_cons he hcaller).2
  nodup := by
    rw [List.reverse_cons, List.dropLast_concat]
    exact List.nodup_reverse.mpr h.nodup

end

/-! ## What a descent makes -/

/-- All edges of a service have been used. -/
def Exhausted (g : CallGraph) (used : List Ends) (s : String) : Prop :=
  ∀ e ∈ g.callsOf s, e.ends ∈ used

/-- What the descent makes of the edges used before, at the end of a path that is given
backwards: chains that continue the path, and the edges used by then. -/
structure Descends (g : CallGraph) (used : List Ends) (path : List String)
    (chains : List (List String)) (used' : List Ends) : Prop where
  grows : used ⊆ used'
  lines : ∀ c ∈ chains, g.IsLine c ∧ path.reverse <+: c
  ends : ∀ c ∈ chains, ∃ step, lastStep? c = some step ∧ step ∈ used' ∧ step ∉ used
  nodup : (chains.map lastStep?).Nodup
  covers : ∀ step ∈ used', step ∈ used ∨ ∃ c ∈ chains, step ∈ steps c
  exhausts : ∀ step ∈ used', step ∈ used ∨ step.2 ∈ path ∨ g.Exhausted used' step.2

theorem Exhausted.mono {used used' : List Ends} {s : String} (h : g.Exhausted used s)
    (hsub : used ⊆ used') : g.Exhausted used' s := fun e he => hsub (h e he)

theorem exhausted_of_unused {used used' : List Ends} {s : String} (hsub : used ⊆ used')
    (h : ∀ e ∈ g.unused used s, e.ends ∈ used') : g.Exhausted used' s := by
  intro e he
  by_cases hu : e.ends ∈ used
  · exact hsub hu
  · exact h e (List.mem_filter.mpr ⟨he, by simpa using hu⟩)

section

variable {used used₁ used₂ : List Ends} {path : List String} {cs cs₁ cs₂ : List (List String)}
  {e : CallEdge}

theorem descends_nil (g : CallGraph) (used : List Ends) (path : List String) :
    g.Descends used path [] used where
  grows := List.Subset.refl used
  lines := nofun
  ends := nofun
  nodup := List.nodup_nil
  covers _ h := .inl h
  exhausts _ h := .inl h

/-- One part after the other, at the end of the same path. -/
theorem Descends.append (h₁ : g.Descends used path cs₁ used₁) (h₂ : g.Descends used₁ path cs₂ used₂) :
    g.Descends used path (cs₁ ++ cs₂) used₂ where
  grows := List.Subset.trans h₁.grows h₂.grows
  lines c hc := (List.mem_append.mp hc).elim (h₁.lines c) (h₂.lines c)
  ends c hc := by
    rcases List.mem_append.mp hc with hc | hc
    · obtain ⟨step, hstep, hin, hout⟩ := h₁.ends c hc
      exact ⟨step, hstep, h₂.grows hin, hout⟩
    · obtain ⟨step, hstep, hin, hout⟩ := h₂.ends c hc
      exact ⟨step, hstep, hin, fun hu => hout (h₁.grows hu)⟩
  nodup := by
    rw [List.map_append]
    refine List.nodup_append.mpr ⟨h₁.nodup, h₂.nodup, fun last hlast last' hlast' heq => ?_⟩
    -- the edges that end a chain of the first part are used when the second part begins
    obtain ⟨c, hc, rfl⟩ := List.mem_map.mp hlast
    obtain ⟨c', hc', rfl⟩ := List.mem_map.mp hlast'
    obtain ⟨step, hstep, hin, -⟩ := h₁.ends c hc
    obtain ⟨step', hstep', -, hout⟩ := h₂.ends c' hc'
    rw [hstep, hstep'] at heq
    exact hout (Option.some.inj heq ▸ hin)
  covers step hstep := by
    rcases h₂.covers step hstep with hstep | ⟨c, hc, hstep⟩
    · refine (h₁.covers step hstep).imp_right ?_
      rintro ⟨c, hc, hstep⟩
      exact ⟨c, List.mem_append_left _ hc, hstep⟩
    · exact .inr ⟨c, List.mem_append_right _ hc, hstep⟩
  exhausts step hstep := by
    rcases h₂.exhausts step hstep with hstep | hstep
    · exact (h₁.exhausts step hstep).imp_right (·.imp_right (·.mono h₂.grows))
    · exact .inr hstep

/-- A chain that ends with an edge to a service of the path, or to one without unused
edges. -/
theorem descends_single (hway : g.IsWay path) (he : e ∈ g.edges) (hcaller : path.head? = some e.caller)
    (hnew : e.ends ∉ used) (hend : e.callee ∈ path ∨ g.Exhausted (e.ends :: used) e.callee) :
    g.Descends used path [(e.callee :: path).reverse] (e.ends :: used) := by
  have hsteps := (hway.edges_cons he hcaller).1
  have hlast : lastStep? (e.callee :: path).reverse = some e.ends := by
    rw [lastStep?, hsteps, List.getLast?_concat]
  exact {
    grows := List.subset_cons_self e.ends used
    lines := by
      intro c hc
      rw [List.mem_singleton.mp hc]
      exact ⟨hway.isLine he hcaller, by rw [List.reverse_cons]; exact List.prefix_append ..⟩
    ends := by
      intro c hc
      rw [List.mem_singleton.mp hc]
      exact ⟨e.ends, hlast, List.mem_cons_self, hnew⟩
    nodup := List.nodup_singleton _
    covers := by
      intro step hstep
      rcases List.mem_cons.mp hstep with rfl | hstep
      · exact .inr ⟨_, List.mem_singleton_self _, hsteps ▸ List.mem_concat_self⟩
      · exact .inl hstep
    exhausts := by
      intro step hstep
      rcases List.mem_cons.mp hstep with rfl | hstep
      · exact .inr hend
      · exact .inl hstep }

/-- When all edges of the last service of the path are used, the path without it is left. -/
theorem Descends.leave {s : String} (h : g.Descends used (s :: path) cs used₁)
    (hs : g.Exhausted used₁ s) : g.Descends used path cs used₁ :=
  { h with
    lines := fun c hc => by
      obtain ⟨hline, hprefix⟩ := h.lines c hc
      rw [List.reverse_cons] at hprefix
      exact ⟨hline, (List.prefix_append ..).trans hprefix⟩
    exhausts := fun step hstep => by
      rcases h.exhausts step hstep with hstep | hstep | hstep
      · exact .inl hstep
      · rcases List.mem_cons.mp hstep with rfl | hstep
        · exact .inr (.inr hs)
        · exact .inr (.inl hstep)
      · exact .inr (.inr hstep) }

/-- The descent behind an edge, with the edge itself, which is on all of its chains. -/
theorem Descends.enter (h : g.Descends (e.ends :: used) (e.callee :: path) cs used₁)
    (hway : g.IsWay path) (he : e ∈ g.edges) (hcaller : path.head? = some e.caller)
    (hs : g.Exhausted used₁ e.callee) (hne : cs ≠ []) : g.Descends used path cs used₁ := by
  have hbelow := h.leave hs
  have hstep : ∃ c ∈ cs, e.ends ∈ steps c := by
    obtain ⟨c, hc⟩ := List.exists_mem_of_ne_nil cs hne
    have hprefix := steps_prefix (h.lines c hc).2
    rw [(hway.edges_cons he hcaller).1] at hprefix
    exact ⟨c, hc, hprefix.subset List.mem_concat_self⟩
  exact { hbelow with
    grows := List.Subset.trans (List.subset_cons_self e.ends used) hbelow.grows
    ends := fun c hc => by
      obtain ⟨step, hlast, hin, hout⟩ := hbelow.ends c hc
      exact ⟨step, hlast, hin, fun hu => hout (List.mem_cons_of_mem _ hu)⟩
    covers := fun step hin => by
      rcases hbelow.covers step hin with hin | hin
      · rcases List.mem_cons.mp hin with rfl | hin
        · exact .inr hstep
        · exact .inl hin
      · exact .inr hin
    exhausts := fun step hin => by
      rcases hbelow.exhausts step hin with hin | hin
      · rcases List.mem_cons.mp hin with rfl | hin
        · exact .inr (.inr hs)
        · exact .inl hin
      · exact .inr hin }

end

/-! ## The descent -/

section

variable {used : List Ends} {path : List String} {s : String} {edges : List CallEdge}

theorem mem_unused {e : CallEdge} : e ∈ g.unused used s ↔ e ∈ g.callsOf s ∧ e.ends ∉ used := by
  rw [unused, List.mem_filter, decide_eq_true_eq]

theorem chainsFrom_of_exhausted (h : g.unused used s = []) :
    g.chainsFrom used path s = (if path.isEmpty then [] else [(s :: path).reverse], used) := by
  rw [chainsFrom, if_pos (List.isEmpty_iff.mpr h)]

theorem chainsFrom_of_unused (h : g.unused used s ≠ []) :
    g.chainsFrom used path s = g.chainsThrough used (s :: path) (g.unused used s) := by
  rw [chainsFrom, if_neg fun he => h (List.isEmpty_iff.mp he)]

/-- The edges begin at the end of the path. -/
def BeginAt (g : CallGraph) (path : List String) (edges : List CallEdge) : Prop :=
  ∀ e ∈ edges, e ∈ g.edges ∧ path.head? = some e.caller

theorem beginAt_unused (g : CallGraph) (used : List Ends) (path : List String) (s : String) :
    g.BeginAt (s :: path) (g.unused used s) := by
  intro e he
  obtain ⟨he, hs⟩ := List.mem_filter.mp (mem_unused.mp he).1
  exact ⟨he, congrArg some (of_decide_eq_true hs).symm⟩

/-- The descent through some edges that begin at the end of the path. -/
def DescendsThrough (g : CallGraph) (used : List Ends) (path : List String)
    (edges : List CallEdge) : Prop :=
  g.IsWay path → g.BeginAt path edges →
    g.Descends used path (g.chainsThrough used path edges).1 (g.chainsThrough used path edges).2 ∧
      ∀ e ∈ edges, e.ends ∈ (g.chainsThrough used path edges).2

/-- The descent behind an edge to a service that is not on the path. -/
def DescendsFrom (g : CallGraph) (used : List Ends) (path : List String) (s : String) : Prop :=
  ∀ e before, used = e.ends :: before → e.callee = s → e.ends ∉ before → e.callee ∉ path →
    g.IsWay path → e ∈ g.edges → path.head? = some e.caller →
    g.Descends before path (g.chainsFrom used path s).1 (g.chainsFrom used path s).2 ∧
      used ⊆ (g.chainsFrom used path s).2

theorem DescendsThrough.exhausted (h : g.DescendsThrough used (s :: path) (g.unused used s))
    (hway : g.IsWay (s :: path)) :
    g.Exhausted (g.chainsThrough used (s :: path) (g.unused used s)).2 s := by
  obtain ⟨hd, hall⟩ := h hway (beginAt_unused g used path s)
  exact exhausted_of_unused hd.grows hall

/-- By induction along the descent: what is used grows, and every part of it is what
`Descends` says. -/
theorem descends_chainsThrough (g : CallGraph) :
    (∀ used path s, g.DescendsFrom used path s) ∧
      ∀ used path edges, g.DescendsThrough used path edges := by
  apply chainsFrom.mutual_induct g g.DescendsFrom g.DescendsThrough
  case case1 =>
    intro used path s fresh hfresh e before hused hs hnew hout hway he hcaller
    subst hs hused
    have hfresh : g.unused (e.ends :: before) e.callee = [] := List.isEmpty_iff.mp hfresh
    have hpath : ¬path.isEmpty := by
      intro hp
      rw [List.isEmpty_iff.mp hp] at hcaller
      cases hcaller
    rw [chainsFrom_of_exhausted hfresh, if_neg hpath]
    refine ⟨descends_single hway he hcaller hnew (.inr ?_), List.Subset.refl _⟩
    exact exhausted_of_unused (List.Subset.refl _) (by rw [hfresh]; exact nofun)
  case case2 =>
    intro used path s fresh hfresh ih e before hused hs hnew hout hway he hcaller
    subst hs hused
    have hfresh : g.unused (e.ends :: before) e.callee ≠ [] := fun h =>
      hfresh (List.isEmpty_iff.mpr h)
    have hway' := hway.cons he hcaller hout
    obtain ⟨hd, hall⟩ := ih hway' (beginAt_unused g _ path e.callee)
    rw [chainsFrom_of_unused hfresh]
    refine ⟨hd.enter hway he hcaller (DescendsThrough.exhausted ih hway') ?_, hd.grows⟩
    -- an edge that was not used before is on one of the chains
    obtain ⟨f, hf⟩ := List.exists_mem_of_ne_nil _ hfresh
    obtain ⟨c, hc, -⟩ := (hd.covers f.ends (hall f hf)).resolve_left (mem_unused.mp hf).2
    exact List.ne_nil_of_mem hc
  case case3 =>
    intro used path _ _
    rw [chainsThrough]
    exact ⟨descends_nil g used path, nofun⟩
  case case4 =>
    intro used path e rest hu ih hway hbegin
    obtain ⟨hd, hall⟩ := ih hway fun f hf => hbegin f (List.mem_cons_of_mem _ hf)
    rw [chainsThrough, if_pos hu]
    exact ⟨hd, List.forall_mem_cons.mpr ⟨hd.grows hu, hall⟩⟩
  case case5 =>
    intro used path e rest hu hin _ _ _ ih hway hbegin
    obtain ⟨he, hcaller⟩ := hbegin e List.mem_cons_self
    obtain ⟨hd, hall⟩ := ih hway fun f hf => hbegin f (List.mem_cons_of_mem _ hf)
    rw [chainsThrough, if_neg hu, if_pos hin]
    exact ⟨(descends_single hway he hcaller hu (.inl hin)).append hd,
      List.forall_mem_cons.mpr ⟨hd.grows List.mem_cons_self, hall⟩⟩
  case case6 =>
    intro used path e rest hu hout below used₁ hbelow others used₂ hothers ihfrom ih hway hbegin
    obtain ⟨he, hcaller⟩ := hbegin e List.mem_cons_self
    obtain ⟨hfrom, hgrows⟩ := ihfrom e used rfl rfl hu hout hway he hcaller
    obtain ⟨hd, hall⟩ := ih hway fun f hf => hbegin f (List.mem_cons_of_mem _ hf)
    have hboth : g.chainsThrough used path (e :: rest) = (below ++ others, used₂) := by
      simp only [chainsThrough, if_neg hu, if_neg hout, hbelow, hothers]
    rw [hbelow] at hfrom hgrows
    rw [hothers] at hd hall
    rw [hboth]
    exact ⟨hfrom.append hd,
      List.forall_mem_cons.mpr ⟨hd.grows (hgrows List.mem_cons_self), hall⟩⟩

/-! ## The descent from the roots -/

theorem descends_root (g : CallGraph) (used : List Ends) (root : String) :
    g.Descends used [root] (g.chainsFrom used [] root).1 (g.chainsFrom used [] root).2 ∧
      g.Exhausted (g.chainsFrom used [] root).2 root := by
  have hway : g.IsWay [root] := isWay_singleton root
  have hthrough := (descends_chainsThrough g).2 used [root] (g.unused used root)
  by_cases h : g.unused used root = []
  · rw [chainsFrom_of_exhausted h]
    refine ⟨descends_nil g used [root], exhausted_of_unused (List.Subset.refl used) ?_⟩
    rw [h]
    exact nofun
  · rw [chainsFrom_of_unused h]
    exact ⟨(hthrough hway (beginAt_unused g used [] root)).1, hthrough.exhausted hway⟩

/-- The descent from some roots: every chain begins at one of them, and all their edges are
used. -/
theorem exists_descends_chainsOf (g : CallGraph) (used : List Ends) (roots : List String) :
    ∃ used', g.Descends used [] (g.chainsOf used roots) used' ∧
      (∀ root ∈ roots, g.Exhausted used' root) ∧
      ∀ c ∈ g.chainsOf used roots, ∃ root ∈ roots, c.head? = some root := by
  induction roots generalizing used with
  | nil => exact ⟨used, descends_nil g used [], nofun, nofun⟩
  | cons root rest ih =>
    obtain ⟨hroot, hexhausted⟩ := descends_root g used root
    obtain ⟨used', hrest, hall, hheads⟩ := ih (g.chainsFrom used [] root).2
    rw [chainsOf]
    refine ⟨used', (hroot.leave hexhausted).append hrest,
      List.forall_mem_cons.mpr ⟨hexhausted.mono hrest.grows, hall⟩, fun c hc => ?_⟩
    rcases List.mem_append.mp hc with hc | hc
    · obtain ⟨more, rfl⟩ := (hroot.lines c hc).2
      exact ⟨root, List.mem_cons_self, rfl⟩
    · obtain ⟨start, hstart, hhead⟩ := hheads c hc
      exact ⟨start, List.mem_cons_of_mem _ hstart, hhead⟩

end

end Telemetry.CallGraph
