import Mathlib.Data.List.Chain
import Mathlib.Data.List.Perm.Subperm
import Telemetry.Proofs.CallGraph.Reach
import Telemetry.Proofs.CallGraph.Record

/-!
# Depths are lengths of chains

The descent gives every service a depth when it leaves it. What it knows then are services that
it has left before, so a chain of them does not lead back to a service that it is still at: the
service in front of the chain makes a longer chain without a repetition.

* `ChainFrom`: a chain of calls without a repetition;
* `Sound`: every known depth is the length of such a chain, and where no cycle can be reached no
  such chain is longer;
* `Sound.cons`: one more depth, from those of the callees (`Deepest`);
* `descended_depthFrom`: the depths stay sound all along the descent;
* `depth_longest`: the depth of a service in any graph of calls.
-/

namespace Telemetry.CallGraph

variable {g : CallGraph}

/-- The services are different, the first one is `s`, and each calls the next one. -/
structure ChainFrom (g : CallGraph) (s : String) (chain : List String) : Prop where
  head : chain.head? = some s
  calls : chain.IsChain g.Calls
  nodup : chain.Nodup

/-- Nothing that can be reached from the service is on a cycle. -/
def AcyclicFrom (g : CallGraph) (s : String) : Prop := ∀ s', g.Reaches s s' → ¬g.OnCycle s'

theorem AcyclicFrom.of_calls {s callee : String} (h : g.AcyclicFrom s) (hcall : g.Calls s callee) :
    g.AcyclicFrom callee := fun s' hs' => h s' (.head hcall hs')

/-! ## Chains -/

theorem chainFrom_singleton (g : CallGraph) (s : String) : g.ChainFrom s [s] :=
  ⟨rfl, List.isChain_singleton s, List.nodup_singleton s⟩

theorem ChainFrom.cons {s callee : String} {chain : List String} (h : g.ChainFrom callee chain)
    (hcall : g.Calls s callee) (hs : s ∉ chain) : g.ChainFrom s (s :: chain) := by
  obtain ⟨rest, rfl⟩ := List.head?_eq_some_iff.mp h.head
  exact ⟨rfl, List.isChain_cons_cons.mpr ⟨hcall, h.calls⟩, List.nodup_cons.mpr ⟨hs, h.nodup⟩⟩

/-- A chain is its first service alone, or begins with a call. -/
theorem ChainFrom.cases {s : String} {chain : List String} (h : g.ChainFrom s chain) :
    chain = [s] ∨ ∃ callee rest, chain = s :: rest ∧ g.Calls s callee ∧ g.ChainFrom callee rest := by
  obtain ⟨rest, rfl⟩ := List.head?_eq_some_iff.mp h.head
  cases rest with
  | nil => exact .inl rfl
  | cons callee rest =>
    obtain ⟨hcall, hcalls⟩ := List.isChain_cons_cons.mp h.calls
    exact .inr ⟨callee, callee :: rest, rfl, hcall, rfl, hcalls, (List.nodup_cons.mp h.nodup).2⟩

theorem ChainFrom.subset {services : List String} {s : String} {chain : List String}
    (h : g.ChainFrom s chain) (hs : s ∈ services)
    (hlisted : ∀ caller callee, g.Calls caller callee → callee ∈ services) : chain ⊆ services := by
  induction chain generalizing s with
  | nil => exact List.nil_subset _
  | cons a rest ih =>
    rcases h.cases with e | ⟨callee, rest', e, hcall, hrest⟩
    · rw [e]
      exact List.cons_subset.mpr ⟨hs, List.nil_subset _⟩
    · obtain ⟨rfl, rfl⟩ := List.cons.inj e
      exact List.cons_subset.mpr ⟨hs, ih hrest (hlisted a callee hcall)⟩

/-! ## Known depths -/

/-- What is known of the one is known of the other. -/
def Depths.Extends (known known' : Depths) : Prop :=
  ∀ s d, known.lookup s = some d → known'.lookup s = some d

theorem Depths.Extends.trans {known known' known'' : Depths} (h : known.Extends known')
    (h' : known'.Extends known'') : known.Extends known'' := fun s d hd => h' s d (h s d hd)

theorem Depths.lookup_cons_of_ne {s s' : String} (h : s' ≠ s) (d : Nat) (known : Depths) :
    List.lookup s' ((s, d) :: known) = known.lookup s' := by
  rw [List.lookup_cons, beq_false_of_ne h]

theorem Depths.extends_cons {known : Depths} {s : String} (d : Nat) (hs : known.lookup s = none) :
    known.Extends ((s, d) :: known) := by
  intro s' d' hd'
  have hne : s' ≠ s := by
    rintro rfl
    exact nomatch hs.symm.trans hd'
  exact (lookup_cons_of_ne hne d known).trans hd'

/-- A known depth is the length of a chain of services whose depths are known, and no chain is
longer where no cycle can be reached. -/
structure Sound (g : CallGraph) (known : Depths) : Prop where
  realized : ∀ s d, known.lookup s = some d →
    ∃ chain, g.ChainFrom s chain ∧ chain.length = d ∧ ∀ s' ∈ chain, known.lookup s' ≠ none
  longest : ∀ s d, known.lookup s = some d → g.AcyclicFrom s →
    ∀ chain, g.ChainFrom s chain → chain.length ≤ d

/-- The largest depth of some services, those on the path left out. -/
structure Deepest (known : Depths) (path services : List String) (n : Nat) : Prop where
  reached : n = 0 ∨ ∃ s ∈ services, known.lookup s = some n
  bound : ∀ s ∈ services, s ∉ path → ∃ d ≤ n, known.lookup s = some d

theorem deepest_nil (known : Depths) (path : List String) : Deepest known path [] 0 :=
  ⟨.inl rfl, fun _ hs => absurd hs List.not_mem_nil⟩

theorem Deepest.cons_of_mem {known : Depths} {path services : List String} {s : String} {n : Nat}
    (h : Deepest known path services n) (hs : s ∈ path) : Deepest known path (s :: services) n where
  reached := h.reached.imp_right fun ⟨s', hs', hd⟩ => ⟨s', List.mem_cons_of_mem s hs', hd⟩
  bound s' hs' hout := by
    rcases List.mem_cons.mp hs' with rfl | hs'
    · exact absurd hs hout
    · exact h.bound s' hs' hout

theorem Deepest.cons {known : Depths} {path services : List String} {s : String} {d n : Nat}
    (h : Deepest known path services n) (hs : known.lookup s = some d) :
    Deepest known path (s :: services) (max d n) where
  reached := by
    rcases Nat.le_total d n with hle | hle
    · rw [Nat.max_eq_right hle]
      exact h.reached.imp_right fun ⟨s', hs', hd⟩ => ⟨s', List.mem_cons_of_mem s hs', hd⟩
    · rw [Nat.max_eq_left hle]
      exact .inr ⟨s, List.mem_cons_self, hs⟩
  bound s' hs' hout := by
    rcases List.mem_cons.mp hs' with rfl | hs'
    · exact ⟨d, Nat.le_max_left .., hs⟩
    · obtain ⟨d', hle, hd'⟩ := h.bound s' hs' hout
      exact ⟨d', Nat.le_trans hle (Nat.le_max_right ..), hd'⟩

/-! ## One depth more -/

section

variable {known : Depths} {path : List String} {s : String} {n : Nat}

/-- The chain of the deepest callee, with the service in front, which is not on it as its depth
was not known. -/
theorem Deepest.exists_chain (hdeepest : Deepest known (s :: path) (g.callees s).reverse n)
    (h : g.Sound known) (hs : known.lookup s = none) :
    ∃ chain, g.ChainFrom s chain ∧ chain.length = n + 1 ∧
      ∀ s' ∈ chain, s' = s ∨ known.lookup s' ≠ none := by
  rcases hdeepest.reached with rfl | ⟨callee, hcallee, hd⟩
  · exact ⟨[s], chainFrom_singleton g s, rfl, fun s' hs' => .inl (List.mem_singleton.mp hs')⟩
  · obtain ⟨chain, hchain, hlength, hknown⟩ := h.realized callee n hd
    refine ⟨s :: chain, hchain.cons (mem_callees.mp (List.mem_reverse.mp hcallee)) ?_, ?_, ?_⟩
    · exact fun hin => hknown s hin hs
    · rw [List.length_cons, hlength]
    · exact fun s' hs' => (List.mem_cons.mp hs').imp_right (hknown s')

/-- A callee on the path would close a cycle, so the depths of all callees are known. -/
theorem Deepest.length_le (hdeepest : Deepest known (s :: path) (g.callees s).reverse n)
    (h : g.Sound known) (hpath : ∀ s' ∈ path, g.Reaches s' s) (hacyclic : g.AcyclicFrom s)
    {chain : List String} (hchain : g.ChainFrom s chain) : chain.length ≤ n + 1 := by
  rcases hchain.cases with rfl | ⟨callee, rest, rfl, hcall, hrest⟩
  · exact Nat.le_add_left ..
  · have hout : callee ∉ s :: path := by
      intro hin
      have hback : g.Reaches callee s := by
        rcases List.mem_cons.mp hin with rfl | hin
        · exact .refl
        · exact hpath callee hin
      exact hacyclic s .refl (.head' hcall hback)
    have hcallee : callee ∈ (g.callees s).reverse := List.mem_reverse.mpr (mem_callees.mpr hcall)
    obtain ⟨d, hle, hd⟩ := hdeepest.bound callee hcallee hout
    have hlength := h.longest callee d hd (hacyclic.of_calls hcall) rest hrest
    exact Nat.succ_le_succ (Nat.le_trans hlength hle)

theorem Sound.cons (h : g.Sound known) (hs : known.lookup s = none)
    (hdeepest : Deepest known (s :: path) (g.callees s).reverse n)
    (hpath : ∀ s' ∈ path, g.Reaches s' s) : g.Sound ((s, n + 1) :: known) := by
  have hextends := Depths.extends_cons (n + 1) hs
  have hself : List.lookup s ((s, n + 1) :: known) = some (n + 1) := List.lookup_cons_self
  have hmono : ∀ s', known.lookup s' ≠ none → List.lookup s' ((s, n + 1) :: known) ≠ none := by
    intro s' hs' hnone
    obtain ⟨d, hd⟩ := Option.ne_none_iff_exists'.mp hs'
    exact nomatch hnone.symm.trans (hextends s' d hd)
  constructor
  · intro s' d hd
    by_cases e : s' = s
    · subst e
      obtain rfl := Option.some.inj (hself.symm.trans hd)
      obtain ⟨chain, hchain, hlength, hknown⟩ := hdeepest.exists_chain h hs
      refine ⟨chain, hchain, hlength, fun s'' hs'' => ?_⟩
      rcases hknown s'' hs'' with rfl | hknown
      · rw [hself]
        exact Option.some_ne_none _
      · exact hmono s'' hknown
    · rw [Depths.lookup_cons_of_ne e] at hd
      obtain ⟨chain, hchain, hlength, hknown⟩ := h.realized s' d hd
      exact ⟨chain, hchain, hlength, fun s'' hs'' => hmono s'' (hknown s'' hs'')⟩
  · intro s' d hd hacyclic chain hchain
    by_cases e : s' = s
    · subst e
      obtain rfl := Option.some.inj (hself.symm.trans hd)
      exact hdeepest.length_le h hpath hacyclic hchain
    · rw [Depths.lookup_cons_of_ne e] at hd
      exact h.longest s' d hd hacyclic chain hchain

end

/-! ## The descent -/

/-- What is known at the end of a path: sound depths, of none of the services on the path. -/
structure Fits (g : CallGraph) (known : Depths) (path : List String) : Prop
    extends g.Sound known where
  unknown : ∀ s ∈ path, known.lookup s = none

/-- What the descent knows after some services, at the end of a path. -/
structure Descended (g : CallGraph) (known : Depths) (path : List String) (known' : Depths) : Prop
    extends g.Fits known' path where
  more : known.Extends known'

theorem fits_nil (g : CallGraph) : g.Fits [] [] where
  realized := nofun
  longest := nofun
  unknown := nofun

section

variable {known known' : Depths} {path : List String} {s : String} {n : Nat}

theorem Fits.enter (h : g.Fits known path) (hs : known.lookup s = none) :
    g.Fits known (s :: path) :=
  ⟨h.toSound, List.forall_mem_cons.mpr ⟨hs, h.unknown⟩⟩

/-- The last service of the path is left with the depth that its callees give it. -/
theorem Descended.leave (h : g.Descended known (s :: path) known') (hout : s ∉ path)
    (hdeepest : Deepest known' (s :: path) (g.callees s).reverse n)
    (hpath : ∀ s' ∈ path, g.Reaches s' s) :
    g.Descended known path ((s, n + 1) :: known') := by
  obtain ⟨hs, hunknown⟩ := List.forall_mem_cons.mp h.unknown
  refine ⟨⟨h.toSound.cons hs hdeepest hpath, fun s' hs' => ?_⟩,
    h.more.trans (Depths.extends_cons _ hs)⟩
  have hne : s' ≠ s := fun e => hout (e ▸ hs')
  exact (Depths.lookup_cons_of_ne hne ..).trans (hunknown s' hs')

end

/-- The path leads on to the callees of its last service. -/
theorem reaches_callees {path : List String} {s : String} (hpath : ∀ s' ∈ path, g.Reaches s' s) :
    ∀ callee ∈ (g.callees s).reverse, ∀ s' ∈ s :: path, g.Reaches s' callee := by
  intro callee hcallee
  have hcall : g.Calls s callee := mem_callees.mp (List.mem_reverse.mp hcallee)
  exact List.forall_mem_cons.mpr ⟨.single hcall, fun s' hs' => (hpath s' hs').tail hcall⟩

/-- The descent to a service that is not on the path, to which all of the path leads. -/
def DescendsTo (g : CallGraph) (known : Depths) (path : List String) (s : String) : Prop :=
  g.Fits known path → s ∉ path → (∀ s' ∈ path, g.Reaches s' s) →
    g.Descended known path (g.depthFrom known path s).2 ∧
      (g.depthFrom known path s).2.lookup s = some (g.depthFrom known path s).1

/-- The descent to some services, to which all of the path leads. -/
def DescendsToAll (g : CallGraph) (known : Depths) (path services : List String) : Prop :=
  g.Fits known path → (∀ s ∈ services, ∀ s' ∈ path, g.Reaches s' s) →
    g.Descended known path (g.deepestOf known path services).2 ∧
      Deepest (g.deepestOf known path services).2 path services (g.deepestOf known path services).1

/-- By induction along the descent: the known depths stay sound, and those of the services on the
path stay unknown. -/
theorem descended_depthFrom (g : CallGraph) :
    (∀ known path s, g.DescendsTo known path s) ∧
      ∀ known path services, g.DescendsToAll known path services := by
  apply depthFrom.mutual_induct g g.DescendsTo g.DescendsToAll
  case case1 =>
    intro known path s d hd hfits _ _
    have hresult : g.depthFrom known path s = (d, known) := by rw [depthFrom, hd]
    rw [hresult]
    exact ⟨⟨hfits, fun _ _ h => h⟩, hd⟩
  case case2 =>
    intro known path s hs n known' hbelow ih hfits hout hpath
    obtain ⟨hd, hdeepest⟩ := ih (hfits.enter hs) (reaches_callees hpath)
    have hresult : g.depthFrom known path s = (n + 1, (s, n + 1) :: known') := by
      simp only [depthFrom, hs, hbelow]
    rw [hbelow] at hd hdeepest
    rw [hresult]
    exact ⟨hd.leave hout hdeepest hpath, List.lookup_cons_self⟩
  case case3 =>
    intro known path hfits _
    rw [deepestOf]
    exact ⟨⟨hfits, fun _ _ h => h⟩, deepest_nil known path⟩
  case case4 =>
    intro known path s rest hs ih hfits hpath
    obtain ⟨hd, hdeepest⟩ := ih hfits (List.forall_mem_cons.mp hpath).2
    rw [deepestOf, if_pos hs]
    exact ⟨hd, hdeepest.cons_of_mem hs⟩
  case case5 =>
    intro known path s rest hs d known₁ hfirst n known₂ hrest ihfirst ihrest hfits hpath
    obtain ⟨hpathfirst, hpathrest⟩ := List.forall_mem_cons.mp hpath
    obtain ⟨hd₁, hself⟩ := ihfirst hfits hs hpathfirst
    rw [hfirst] at hd₁ hself
    obtain ⟨hd₂, hdeepest⟩ := ihrest hd₁.toFits hpathrest
    have hboth : g.deepestOf known path (s :: rest) = (max d n, known₂) := by
      simp only [deepestOf, if_neg hs, hfirst, hrest]
    rw [hrest] at hd₂ hdeepest
    rw [hboth]
    exact ⟨⟨hd₂.toFits, hd₁.more.trans hd₂.more⟩, hdeepest.cons (hd₂.more s d hself)⟩

/-! ## The depth of a service -/

theorem Calls.callee_mem_services {calls : List (String × String)} {caller callee : String}
    (h : (ofCalls calls).Calls caller callee) : callee ∈ (ofCalls calls).services := by
  obtain ⟨e, he, hends⟩ := h
  have hcall : (caller, callee) ∈ calls := hends ▸ (mem_edges_ofCalls.mp he).1
  exact mem_services_ofCalls.mpr ⟨(caller, callee), hcall, .inr rfl⟩

/-- In a graph of any calls the known services, and no others, have a depth. It is the number of
services of a chain without a repetition that begins at the service and in which each one calls
the next, so it is 1 at least and the number of all services at most. Where no cycle can be
reached from the service, no such chain is longer. -/
theorem depth_longest (calls : List (String × String)) (s : String) :
    let g := ofCalls calls
    (g.depth? s = none ↔ s ∉ g.services) ∧
    ∀ d, g.depth? s = some d →
      (∃ chain, g.ChainFrom s chain ∧ chain.length = d) ∧ 1 ≤ d ∧ d ≤ g.serviceCount ∧
      (g.AcyclicFrom s → ∀ chain, g.ChainFrom s chain → chain.length ≤ d) := by
  intro g
  by_cases hs : s ∈ g.services
  · have hdepth : g.depth? s = some (g.depthFrom [] [] s).1 := if_pos hs
    obtain ⟨hd, hself⟩ := (descended_depthFrom g).1 [] [] s g.fits_nil List.not_mem_nil nofun
    rw [hdepth]
    refine ⟨⟨nofun, absurd hs⟩, fun d e => ?_⟩
    obtain rfl := Option.some.inj e
    obtain ⟨chain, hchain, hlength, -⟩ := hd.realized s _ hself
    have hsubset : chain ⊆ g.services := hchain.subset hs fun _ _ h => h.callee_mem_services
    refine ⟨⟨chain, hchain, hlength⟩, ?_, ?_, hd.longest s _ hself⟩
    · exact hlength ▸ List.length_pos_of_mem (List.mem_of_mem_head? hchain.head)
    · exact hlength ▸ (hchain.nodup.subperm hsubset).length_le
  · have hdepth : g.depth? s = none := if_neg hs
    rw [hdepth]
    exact ⟨⟨fun _ => hs, fun _ => rfl⟩, nofun⟩

/-- On a cycle a depth can be too small. `auth` is left while the descent is still at `api`, so
what is known of it is not the chain to `log`, and `web` does not get the 5 services of
`web`, `auth`, `api`, `db`, `log`. -/
example : (ofCalls [("web", "auth"), ("web", "api"), ("api", "auth"), ("auth", "api"),
    ("api", "db"), ("db", "log")]).depth? "web" = some 4 := by
  cbv

end Telemetry.CallGraph
