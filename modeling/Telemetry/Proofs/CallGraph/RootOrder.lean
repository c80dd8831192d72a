import Telemetry.Proofs.CallGraph.Depth
import Telemetry.Proofs.CallGraph.Roots
import Telemetry.Proofs.List.Sorting

/-!
# The order of the roots

The roots are ranked by one descent that goes on from root to root and keeps the depths that it
finds, while the depth of a service is found by a descent of its own. Of a service that leads to
no cycle the two find the same, as there is but one depth that is sound. Of the others they can
only find the same if they know the same to begin with, so if no root that was ranked before
leads there.

* `Below`, `below_depthFrom`: a descent finds depths of what it can reach only;
* `Alike`: what is known of the services that lead to a cycle is the same; `alike_depthFrom`: two
  descents that begin alike find the same depth and end alike;
* `withDepths_sound`: what the roots are ranked by;
* `roots_descend`: the order of the roots in any graph of calls, and `roots_not_by_depth`: a graph
  in which it is not that of their depths.
-/

namespace Telemetry.CallGraph

variable {g : CallGraph}

/-! ## One step of the descent -/

theorem depthFrom_of_known {known : Depths} {s : String} {d : Nat} (h : known.lookup s = some d)
    (path : List String) : g.depthFrom known path s = (d, known) := by
  rw [depthFrom, h]

theorem depthFrom_of_unknown {known : Depths} {s : String} (h : known.lookup s = none)
    (path : List String) :
    g.depthFrom known path s =
      let below := g.deepestOf known (s :: path) (g.callees s).reverse
      (below.1 + 1, (s, below.1 + 1) :: below.2) := by
  rw [depthFrom, h]

theorem deepestOf_cons_of_mem {path : List String} {s : String} (h : s ∈ path) (known : Depths)
    (rest : List String) : g.deepestOf known path (s :: rest) = g.deepestOf known path rest := by
  rw [deepestOf, if_pos h]

theorem deepestOf_cons_of_not_mem {path : List String} {s : String} (h : s ∉ path) (known : Depths)
    (rest : List String) :
    g.deepestOf known path (s :: rest) =
      let first := g.depthFrom known path s
      let others := g.deepestOf first.2 path rest
      (max first.1 others.1, others.2) := by
  rw [deepestOf, if_neg h]

/-! ## What a descent does not reach -/

/-- Nothing new is known of services that none of the starting points reaches. -/
def Below (g : CallGraph) (starts : List String) (known known' : Depths) : Prop :=
  ∀ s, (∀ start ∈ starts, ¬g.Reaches start s) → known'.lookup s = known.lookup s

theorem below_refl (g : CallGraph) (starts : List String) (known : Depths) :
    g.Below starts known known := fun _ _ => rfl

theorem below_depthFrom (g : CallGraph) :
    (∀ known path s, g.Below [s] known (g.depthFrom known path s).2) ∧
      ∀ known path services, g.Below services known (g.deepestOf known path services).2 := by
  apply depthFrom.mutual_induct g (fun known path s => g.Below [s] known (g.depthFrom known path s).2)
    (fun known path services => g.Below services known (g.deepestOf known path services).2)
  case case1 =>
    intro known path s d hd
    rw [depthFrom_of_known hd]
    exact g.below_refl [s] known
  case case2 =>
    intro known path s hs n known' hbelow ih x hx
    have hself : ¬g.Reaches s x := hx s List.mem_cons_self
    have hne : x ≠ s := fun e => hself (e ▸ .refl)
    rw [depthFrom_of_unknown hs]
    refine (Depths.lookup_cons_of_ne hne ..).trans (ih x fun callee hcallee hreaches => ?_)
    exact hself (.head (mem_callees.mp (List.mem_reverse.mp hcallee)) hreaches)
  case case3 =>
    intro known path
    rw [deepestOf]
    exact g.below_refl [] known
  case case4 =>
    intro known path s rest hs ih x hx
    rw [deepestOf_cons_of_mem hs]
    exact ih x (List.forall_mem_cons.mp hx).2
  case case5 =>
    intro known path s rest hs d known₁ hfirst n known₂ hrest ihfirst ihrest x hx
    obtain ⟨hxs, hxrest⟩ := List.forall_mem_cons.mp hx
    rw [deepestOf_cons_of_not_mem hs]
    simp only [hfirst] at ihfirst ⊢
    exact (ihrest x hxrest).trans (ihfirst x (List.forall_mem_singleton.mpr hxs))

/-! ## Two descents -/

theorem AcyclicFrom.of_reaches {s s' : String} (h : g.AcyclicFrom s) (hreaches : g.Reaches s s') :
    g.AcyclicFrom s' := fun x hx => h x (hreaches.trans hx)

/-- Where no cycle can be reached, only one depth is sound. -/
theorem Sound.lookup_unique {known known' : Depths} {s : String} {d d' : Nat} (h : g.Sound known)
    (h' : g.Sound known') (hacyclic : g.AcyclicFrom s) (hd : known.lookup s = some d)
    (hd' : known'.lookup s = some d') : d = d' := by
  obtain ⟨chain, hchain, hlength, -⟩ := h.realized s d hd
  obtain ⟨chain', hchain', hlength', -⟩ := h'.realized s d' hd'
  have hle : d ≤ d' := hlength ▸ h'.longest s d' hd' hacyclic chain hchain
  have hle' : d' ≤ d := hlength' ▸ h.longest s d hd hacyclic chain' hchain'
  omega

/-- Of the services that the root reaches, the same is known of those that lead to a cycle. -/
def Alike (g : CallGraph) (root : String) (known known' : Depths) : Prop :=
  ∀ s, g.Reaches root s → ¬g.AcyclicFrom s → known.lookup s = known'.lookup s

/-- Descents to one service find the same depth and end alike. -/
def SameDepth (g : CallGraph) (root : String) (known known' : Depths) (path : List String)
    (s : String) : Prop :=
  (g.depthFrom known path s).1 = (g.depthFrom known' path s).1 ∧
    g.Alike root (g.depthFrom known path s).2 (g.depthFrom known' path s).2

theorem sameDepth_of_acyclic {root s : String} {known known' : Depths} {path : List String}
    (hfits : g.Fits known path) (hfits' : g.Fits known' path) (hout : s ∉ path)
    (hpath : ∀ s' ∈ path, g.Reaches s' s) (hacyclic : g.AcyclicFrom s)
    (halike : g.Alike root known known') : g.SameDepth root known known' path s := by
  obtain ⟨hd, hself⟩ := (descended_depthFrom g).1 known path s hfits hout hpath
  obtain ⟨hd', hself'⟩ := (descended_depthFrom g).1 known' path s hfits' hout hpath
  refine ⟨hd.toSound.lookup_unique hd'.toSound hacyclic hself hself', fun x hx hcyclic => ?_⟩
  have hbeside : ∀ start ∈ [s], ¬g.Reaches start x :=
    List.forall_mem_singleton.mpr fun hreaches => hcyclic (hacyclic.of_reaches hreaches)
  rw [(below_depthFrom g).1 known path s x hbeside, (below_depthFrom g).1 known' path s x hbeside]
  exact halike x hx hcyclic

/-- What the descent to a service owes to what is known, whatever else is known alike. -/
def DescendsAlike (g : CallGraph) (root : String) (known : Depths) (path : List String)
    (s : String) : Prop :=
  ∀ known', g.Fits known path → g.Fits known' path → s ∉ path → (∀ s' ∈ path, g.Reaches s' s) →
    g.Reaches root s → g.Alike root known known' → g.SameDepth root known known' path s

/-- The same of the descent to some services. -/
def DescendsAlikeAll (g : CallGraph) (root : String) (known : Depths) (path services : List String) :
    Prop :=
  ∀ known', g.Fits known path → g.Fits known' path →
    (∀ s ∈ services, ∀ s' ∈ path, g.Reaches s' s) → (∀ s ∈ services, g.Reaches root s) →
    g.Alike root known known' →
    (g.deepestOf known path services).1 = (g.deepestOf known' path services).1 ∧
      g.Alike root (g.deepestOf known path services).2 (g.deepestOf known' path services).2

/-- By induction along the first descent. The second one takes the same way, but for services that
lead to no cycle, where one of them may know the depth already. -/
theorem alike_depthFrom (g : CallGraph) (root : String) :
    (∀ known path s, g.DescendsAlike root known path s) ∧
      ∀ known path services, g.DescendsAlikeAll root known path services := by
  apply depthFrom.mutual_induct g (g.DescendsAlike root) (g.DescendsAlikeAll root)
  case case1 =>
    intro known path s d hd known' hfits hfits' hout hpath hroot halike
    by_cases hacyclic : g.AcyclicFrom s
    · exact sameDepth_of_acyclic hfits hfits' hout hpath hacyclic halike
    · have hd' : known'.lookup s = some d := (halike s hroot hacyclic).symm.trans hd
      rw [SameDepth, depthFrom_of_known hd, depthFrom_of_known hd']
      exact ⟨rfl, halike⟩
  case case2 =>
    intro known path s hs n known₁ hbelow ih known' hfits hfits' hout hpath hroot halike
    by_cases hacyclic : g.AcyclicFrom s
    · exact sameDepth_of_acyclic hfits hfits' hout hpath hacyclic halike
    · have hs' : known'.lookup s = none := (halike s hroot hacyclic).symm.trans hs
      have hcallees : ∀ callee ∈ (g.callees s).reverse, g.Reaches root callee := fun callee hcallee =>
        hroot.tail (mem_callees.mp (List.mem_reverse.mp hcallee))
      obtain ⟨hn, hafter⟩ := ih known' (hfits.enter hs) (hfits'.enter hs') (reaches_callees hpath)
        hcallees halike
      rw [SameDepth, depthFrom_of_unknown hs, depthFrom_of_unknown hs']
      refine ⟨congrArg (· + 1) hn, fun x hx hcyclic => ?_⟩
      by_cases e : x = s
      · simp only [e, List.lookup_cons_self, hn]
      · rw [Depths.lookup_cons_of_ne e, Depths.lookup_cons_of_ne e]
        exact hafter x hx hcyclic
  case case3 =>
    intro known path known' _ _ _ _ halike
    rw [deepestOf, deepestOf]
    exact ⟨rfl, halike⟩
  case case4 =>
    intro known path s rest hs ih known' hfits hfits' hpath hroot halike
    rw [deepestOf_cons_of_mem hs, deepestOf_cons_of_mem hs]
    exact ih known' hfits hfits' (List.forall_mem_cons.mp hpath).2 (List.forall_mem_cons.mp hroot).2
      halike
  case case5 =>
    intro known path s rest hs d known₁ hfirst n known₂ hrest ihfirst ihrest known' hfits hfits'
      hpath hroot halike
    obtain ⟨hpathfirst, hpathrest⟩ := List.forall_mem_cons.mp hpath
    obtain ⟨hrootfirst, hrootrest⟩ := List.forall_mem_cons.mp hroot
    obtain ⟨hvalue, hafter⟩ := ihfirst known' hfits hfits' hs hpathfirst hrootfirst halike
    have hd := ((descended_depthFrom g).1 known path s hfits hs hpathfirst).1.toFits
    have hd' := ((descended_depthFrom g).1 known' path s hfits' hs hpathfirst).1.toFits
    rw [hfirst] at hvalue hafter hd
    obtain ⟨hmax, hend⟩ := ihrest _ hd hd' hpathrest hrootrest hafter
    rw [deepestOf_cons_of_not_mem hs, deepestOf_cons_of_not_mem hs]
    simp only [hfirst]
    exact ⟨congrArg₂ max hvalue hmax, hend⟩

/-! ## The ranks of the roots -/

/-- No cycle to which the root leads can be reached from another one of the roots. -/
def OwnsCycles (g : CallGraph) (roots : List String) (root : String) : Prop :=
  ∀ other ∈ roots, other ≠ root → ∀ s, g.Reaches root s → g.Reaches other s → ¬g.OnCycle s

/-- Nothing is known yet of a service that leads to a cycle of its own. -/
theorem OwnsCycles.alike {roots before : List String} {root : String} {known : Depths}
    (h : g.OwnsCycles roots root) (hbefore : ∀ start ∈ before, start ∈ roots ∧ start ≠ root)
    (hknown : ∀ s, known.lookup s ≠ none → ∃ start ∈ before, g.Reaches start s) :
    g.Alike root known [] := by
  intro s hs hcyclic
  rw [List.lookup_nil]
  by_contra hsome
  obtain ⟨start, hstart, hreaches⟩ := hknown s hsome
  obtain ⟨hin, hne⟩ := hbefore start hstart
  exact hcyclic fun x hx => h start hin hne x (hs.trans hx) (hreaches.trans hx)

/-- By induction on the roots. What is known before each are sound depths of services that the
roots before it reach. -/
theorem withDepths_sound {before services : List String} {known : Depths} (hsound : g.Sound known)
    (hknown : ∀ s, known.lookup s ≠ none → ∃ start ∈ before, g.Reaches start s)
    (hn : (before ++ services).Nodup) :
    ∀ p ∈ g.withDepths known services, (∃ chain, g.ChainFrom p.1 chain ∧ chain.length = p.2) ∧
      (g.OwnsCycles (before ++ services) p.1 → (g.depthFrom [] [] p.1).1 = p.2) := by
  induction services generalizing before known with
  | nil => exact nofun
  | cons s rest ih =>
    have hfits : g.Fits known [] := ⟨hsound, nofun⟩
    obtain ⟨hd, hself⟩ := (descended_depthFrom g).1 known [] s hfits List.not_mem_nil nofun
    have hbefore : ∀ start ∈ before, start ∈ before ++ s :: rest ∧ start ≠ s := by
      intro start hstart
      refine ⟨List.mem_append_left _ hstart, ?_⟩
      exact (List.nodup_append.mp hn).2.2 start hstart s List.mem_cons_self
    have hconcat : (before ++ [s]) ++ rest = before ++ s :: rest := List.append_cons .. |>.symm
    rw [withDepths]
    refine List.forall_mem_cons.mpr ⟨⟨?_, fun howns => ?_⟩, ?_⟩
    · obtain ⟨chain, hchain, hlength, -⟩ := hd.realized s _ hself
      exact ⟨chain, hchain, hlength⟩
    · exact ((alike_depthFrom g s).1 known [] s [] hfits g.fits_nil List.not_mem_nil nofun .refl
        (howns.alike hbefore hknown)).1.symm
    · rw [← hconcat]
      refine ih hd.toSound (fun x hx => ?_) (hconcat ▸ hn)
      by_cases hreaches : g.Reaches s x
      · exact ⟨s, List.mem_append_right _ (List.mem_singleton_self s), hreaches⟩
      · rw [(below_depthFrom g).1 known [] s x (List.forall_mem_singleton.mpr hreaches)] at hx
        obtain ⟨start, hstart, hfrom⟩ := hknown x hx
        exact ⟨start, List.mem_append_left _ hstart, hfrom⟩

theorem OwnsCycles.of_subset {roots roots' : List String} {root : String}
    (h : g.OwnsCycles roots root) (hsub : roots' ⊆ roots) : g.OwnsCycles roots' root :=
  fun other hother => h other (hsub hother)

/-- The roots of a graph, after any calls, are ranked, and those with a larger rank come first. A
rank is the number of services of a chain without a repetition that begins at the root. It is the
depth of the root, if no cycle to which the root leads can be reached from another root. So the
depths of such roots never increase, and in a graph without a cycle that two roots reach those of
all roots do not. -/
theorem roots_descend (calls : List (String × String)) :
    let g := ofCalls calls
    (∃ ranked : List (String × Nat), ranked.map (·.1) = g.roots ∧
      ranked.Pairwise (fun p p' => p'.2 ≤ p.2) ∧
      ∀ p ∈ ranked, (∃ chain, g.ChainFrom p.1 chain ∧ chain.length = p.2) ∧
        (g.OwnsCycles g.roots p.1 → g.depth? p.1 = some p.2)) ∧
    g.roots.Pairwise fun root root' => g.OwnsCycles g.roots root → g.OwnsCycles g.roots root' →
      ∀ d ∈ g.depth? root, ∀ d' ∈ g.depth? root', d' ≤ d := by
  intro g
  let ranked := (g.withDepths [] g.starts).mergeSort fun p p' => p'.2 ≤ p.2
  have hdescending : ranked.Pairwise fun p p' => p'.2 ≤ p.2 := descending_mergeSort Prod.snd _
  have hn : ([] ++ g.starts).Nodup := g.roots_perm.nodup_iff.mp (nodup_roots (nodup_services_ofCalls calls))
  have hranks : ∀ p ∈ ranked, (∃ chain, g.ChainFrom p.1 chain ∧ chain.length = p.2) ∧
      (g.OwnsCycles g.roots p.1 → g.depth? p.1 = some p.2) := by
    intro p hp
    have hroot : p.1 ∈ g.roots := List.mem_map_of_mem hp
    have hstart : p ∈ g.withDepths [] g.starts := (List.mergeSort_perm ..).mem_iff.mp hp
    have hsound := withDepths_sound g.fits_nil.toSound nofun hn
    obtain ⟨hchain, hrank⟩ := hsound p hstart
    refine ⟨hchain, fun howns => ?_⟩
    rw [depth?, if_pos (g.roots_subset hroot), hrank (howns.of_subset g.roots_perm.symm.subset)]
  refine ⟨⟨ranked, rfl, hdescending, hranks⟩, List.pairwise_map.mpr ?_⟩
  refine hdescending.imp_of_mem fun hp hp' hle howns howns' d hd d' hd' => ?_
  rw [Option.mem_def, (hranks _ hp).2 howns] at hd
  rw [Option.mem_def, (hranks _ hp').2 howns'] at hd'
  cases hd
  cases hd'
  exact hle

/-- Two roots that lead to one cycle. The descent from `web` leaves `api` while it is still at
`auth`, so `api` counts as one service only when `mail` is ranked by what is known of it, and `mail`
is ranked no deeper than `web`. -/
theorem roots_not_by_depth :
    let g := ofCalls [("web", "auth"), ("auth", "api"), ("api", "auth"), ("mail", "queue"),
      ("queue", "api")]
    g.roots = ["web", "mail"] ∧ g.depth? "web" = some 3 ∧ g.depth? "mail" = some 4 := by
  intro g
  have hgraph : g = ⟨["web", "auth", "api", "mail", "queue"],
    [⟨"web", "auth", 1⟩, ⟨"auth", "api", 1⟩, ⟨"api", "auth", 1⟩, ⟨"mail", "queue", 1⟩,
      ⟨"queue", "api", 1⟩]⟩ := rfl
  have hstarts : g.starts = ["web", "mail"] := by
    rw [hgraph]
    simp [starts, callerless, callers, callees, callsOf, furtherStarts, reach]
  have hranks : g.withDepths [] ["web", "mail"] = [("web", 3), ("mail", 3)] := by
    rw [hgraph]
    simp [withDepths, depthFrom, deepestOf, callees, callsOf, List.lookup_cons]
  refine ⟨?_, ?_, ?_⟩
  · rw [roots, hstarts, hranks]
    simp [List.mergeSort]
  · rw [hgraph]
    simp [depth?, depthFrom, deepestOf, callees, callsOf]
  · rw [hgraph]
    simp [depth?, depthFrom, deepestOf, callees, callsOf]

end Telemetry.CallGraph
