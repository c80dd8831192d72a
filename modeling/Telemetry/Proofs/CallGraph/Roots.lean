import Mathlib.Data.List.Nodup
import Telemetry.Proofs.CallGraph.Reach
import Telemetry.Proofs.CallGraph.Record

/-!
# The roots of a graph

The roots are the services without callers, and beside them as few others as it takes to reach
every service. An other root is found when all that is reached so far is closed under calls, so
nothing of it calls the new one.

* `Closed`, `mem_reach`: what the search finds, exactly, once it has begun at a closed set;
* `not_mem_of_mem_furtherStarts`, `pairwise_furtherStarts`: a further starting point cannot be
  reached from what was reached before it;
* `mem_roots`: a root has no callers, or is a further starting point;
* `furtherRoots_eq_nil`: there are no further starting points without a cycle;
* `roots_cover`: the roots of any graph of calls.
-/

namespace Telemetry.CallGraph

variable {g : CallGraph}

/-- No service calls it. -/
def Uncalled (g : CallGraph) (s : String) : Prop := ∀ caller, ¬g.Calls caller s

theorem mem_callers {caller callee : String} :
    caller ∈ g.callers callee ↔ g.Calls caller callee := by
  simp only [callers, List.mem_map, List.mem_filter, decide_eq_true_eq, Calls]
  constructor
  · rintro ⟨e, ⟨he, rfl⟩, rfl⟩
    exact ⟨e, he, rfl⟩
  · rintro ⟨e, he, hends⟩
    obtain ⟨rfl, rfl⟩ := Prod.mk.inj hends
    exact ⟨e, ⟨he, rfl⟩, rfl⟩

theorem mem_callerless {s : String} : s ∈ g.callerless ↔ s ∈ g.services ∧ g.Uncalled s := by
  rw [callerless, List.mem_filter, List.isEmpty_iff, List.eq_nil_iff_forall_not_mem]
  simp only [mem_callers, Uncalled]

/-! ## The search -/

/-- Whatever a service of the list calls is in the list too. -/
def Closed (g : CallGraph) (reached : List String) : Prop :=
  ∀ s ∈ reached, ∀ callee, g.Calls s callee → callee ∈ reached

theorem Closed.mem_of_reaches {reached : List String} (h : g.Closed reached) {s s' : String}
    (hs : s ∈ reached) (hr : g.Reaches s s') : s' ∈ reached := by
  induction hr with
  | refl => exact hs
  | tail _ hcall ih => exact h _ ih _ hcall

theorem subset_reach (reached todo : List String) :
    reached ⊆ g.reach reached todo ∧ todo ⊆ g.reach reached todo := by
  induction reached, todo using reach.induct g with
  | case1 reached =>
    rw [reach]
    exact ⟨List.Subset.refl _, List.nil_subset _⟩
  | case2 reached a todo ha ih =>
    rw [reach, if_pos ha]
    exact ⟨ih.1, List.cons_subset.mpr ⟨ih.1 ha, ih.2⟩⟩
  | case3 reached a todo ha ih =>
    rw [reach, if_neg ha]
    obtain ⟨hreached, htodo⟩ := ih
    rw [List.cons_subset] at hreached
    exact ⟨hreached.2, List.cons_subset.mpr ⟨hreached.1, (List.append_subset.mp htodo).2⟩⟩

/-- By induction along the search: what a reached service calls is reached or still to do. -/
theorem closed_reach {reached todo : List String}
    (h : ∀ s ∈ reached, ∀ callee, g.Calls s callee → callee ∈ reached ∨ callee ∈ todo) :
    g.Closed (g.reach reached todo) := by
  induction reached, todo using reach.induct g with
  | case1 reached =>
    rw [reach]
    intro s hs callee hcall
    exact (h s hs callee hcall).resolve_right List.not_mem_nil
  | case2 reached a todo ha ih =>
    rw [reach, if_pos ha]
    refine ih fun s hs callee hcall => ?_
    rcases h s hs callee hcall with hin | hin
    · exact .inl hin
    rcases List.mem_cons.mp hin with rfl | hin
    · exact .inl ha
    · exact .inr hin
  | case3 reached a todo ha ih =>
    rw [reach, if_neg ha]
    refine ih fun s hs callee hcall => ?_
    rcases List.mem_cons.mp hs with rfl | hs
    · exact .inr (List.mem_append_left _ (mem_callees.mpr hcall))
    rcases h s hs callee hcall with hin | hin
    · exact .inl (List.mem_cons_of_mem _ hin)
    rcases List.mem_cons.mp hin with rfl | hin
    · exact .inl List.mem_cons_self
    · exact .inr (List.mem_append_right _ hin)

theorem Closed.reach {reached : List String} (h : g.Closed reached) (todo : List String) :
    g.Closed (g.reach reached todo) :=
  closed_reach fun s hs callee hcall => .inl (h s hs callee hcall)

/-- The search finds what can be reached from where it begins, beside a closed set. -/
theorem mem_reach {reached todo : List String} (h : g.Closed reached) {s : String} :
    s ∈ g.reach reached todo ↔ s ∈ reached ∨ ∃ start ∈ todo, g.Reaches start s := by
  obtain ⟨hreached, htodo⟩ := subset_reach (g := g) reached todo
  refine ⟨reaches_of_mem_reach, ?_⟩
  rintro (hs | ⟨start, hstart, hs⟩)
  · exact hreached hs
  · exact (h.reach todo).mem_of_reaches (htodo hstart) hs

/-- What the services without callers reach. -/
theorem closed_reach_callerless (g : CallGraph) : g.Closed (g.reach [] g.callerless) :=
  Closed.reach (fun _ hs => absurd hs List.not_mem_nil) _

theorem mem_reach_callerless {s : String} :
    s ∈ g.reach [] g.callerless ↔ ∃ start ∈ g.callerless, g.Reaches start s := by
  rw [mem_reach fun _ hs => absurd hs List.not_mem_nil, or_iff_right List.not_mem_nil]

/-! ## The further starting points -/

theorem furtherStarts_sublist (reached services : List String) :
    (g.furtherStarts reached services).Sublist services := by
  induction services generalizing reached with
  | nil => exact List.Sublist.refl []
  | cons a rest ih =>
    rw [furtherStarts]
    split
    · exact (ih reached).cons a
    · exact (ih _).cons_cons a

/-- A further starting point was not reached before. -/
theorem not_mem_of_mem_furtherStarts {reached services : List String} {s : String}
    (h : s ∈ g.furtherStarts reached services) : s ∉ reached := by
  induction services generalizing reached with
  | nil => cases h
  | cons a rest ih =>
    rw [furtherStarts] at h
    split at h
    · exact ih h
    · rename_i ha
      rcases List.mem_cons.mp h with rfl | h
      · exact ha
      · exact fun hs => ih h ((subset_reach reached [a]).1 hs)

/-- Of two further starting points the later one cannot be reached from the earlier one. -/
theorem pairwise_furtherStarts {reached services : List String} (h : g.Closed reached)
    (hn : services.Nodup) :
    services.Pairwise fun s s' => s ∈ g.furtherStarts reached services →
      s' ∈ g.furtherStarts reached services → ¬g.Reaches s s' := by
  induction services generalizing reached with
  | nil => exact List.Pairwise.nil
  | cons a rest ih =>
    obtain ⟨ha, hrest⟩ := List.nodup_cons.mp hn
    rw [furtherStarts]
    split
    · rename_i hin
      refine List.pairwise_cons.mpr ⟨fun _ _ hstart => ?_, ih h hrest⟩
      exact absurd hin (not_mem_of_mem_furtherStarts hstart)
    · have hlater : ∀ s ∈ rest, s ∈ a :: g.furtherStarts (g.reach reached [a]) rest →
          s ∈ g.furtherStarts (g.reach reached [a]) rest := fun s hs hstart =>
        (List.mem_cons.mp hstart).resolve_left fun e => ha (e ▸ hs)
      refine List.pairwise_cons.mpr ⟨fun s hs _ hstart hreaches => ?_, ?_⟩
      · refine not_mem_of_mem_furtherStarts (hlater s hs hstart) ((mem_reach h).mpr (.inr ?_))
        exact ⟨a, List.mem_singleton_self a, hreaches⟩
      · refine (ih (h.reach [a]) hrest).imp_of_mem fun hs hs' hapart hstart hstart' => ?_
        exact hapart (hlater _ hs hstart) (hlater _ hs' hstart')

/-! ## The roots -/

/-- The roots beside the services without callers. -/
def furtherRoots (g : CallGraph) : List String :=
  g.furtherStarts (g.reach [] g.callerless) g.services

theorem mem_roots {s : String} : s ∈ g.roots ↔ s ∈ g.callerless ∨ s ∈ g.furtherRoots := by
  rw [g.roots_perm.mem_iff, starts, List.mem_append, furtherRoots]

/-- A further root cannot be reached from a service without callers. -/
theorem not_reaches_furtherRoot {s root : String} (hs : s ∈ g.callerless)
    (hroot : root ∈ g.furtherRoots) : ¬g.Reaches s root := fun hreaches =>
  not_mem_of_mem_furtherStarts hroot (mem_reach_callerless.mpr ⟨s, hs, hreaches⟩)

/-- The further roots are the roots that some service calls. -/
theorem mem_furtherRoots {s : String} : s ∈ g.furtherRoots ↔ s ∈ g.roots ∧ ¬g.Uncalled s := by
  rw [mem_roots]
  constructor
  · intro hs
    refine ⟨.inr hs, fun hnone => ?_⟩
    have hin : s ∈ g.callerless :=
      mem_callerless.mpr ⟨(furtherStarts_sublist ..).subset hs, hnone⟩
    exact not_reaches_furtherRoot hin hs .refl
  · rintro ⟨hs, hcalled⟩
    exact hs.resolve_left fun hs => hcalled (mem_callerless.mp hs).2

theorem roots_subset (g : CallGraph) : g.roots ⊆ g.services := by
  intro s hs
  rcases mem_roots.mp hs with hs | hs
  · exact (mem_callerless.mp hs).1
  · exact (furtherStarts_sublist ..).subset hs

theorem nodup_roots (hn : g.services.Nodup) : g.roots.Nodup := by
  rw [g.roots_perm.nodup_iff, starts]
  refine List.Nodup.append (hn.filter _) (hn.sublist (furtherStarts_sublist ..)) fun s hs hs' => ?_
  exact not_reaches_furtherRoot hs hs' .refl

/-- A further root is called by a service that some root reaches. Of the last further root that
can be no other root, so the last further root is on a cycle. -/
theorem furtherRoots_eq_nil (hn : g.services.Nodup)
    (hlisted : ∀ caller callee, g.Calls caller callee → caller ∈ g.services)
    (hcycle : ∀ s, ¬g.OnCycle s) : g.furtherRoots = [] := by
  rcases List.eq_nil_or_concat g.furtherRoots with hnil | ⟨before, last, hlast⟩
  · exact hnil
  rw [List.concat_eq_append] at hlast
  have hroot : last ∈ g.furtherRoots := hlast ▸ List.mem_concat_self
  obtain ⟨caller, hcall⟩ := not_forall_not.mp (mem_furtherRoots.mp hroot).2
  obtain ⟨root, hin, hreaches⟩ := exists_root_reaches (hlisted caller last hcall)
  have hlater : g.Reaches root last := hreaches.tail hcall
  have hapart : g.furtherRoots.Pairwise fun s s' => s ∈ g.furtherRoots → s' ∈ g.furtherRoots →
      ¬g.Reaches s s' :=
    (pairwise_furtherStarts (closed_reach_callerless g) hn).sublist (furtherStarts_sublist ..)
  rcases mem_roots.mp hin with hin | hin
  · exact absurd hlater (not_reaches_furtherRoot hin hroot)
  have hcases := hin
  rw [hlast] at hapart hcases
  rcases List.mem_append.mp hcases with hbefore | hself
  · have hne := (List.pairwise_append.mp hapart).2.2 root hbefore last (List.mem_singleton_self _)
    rw [hlast] at hin hroot
    exact absurd hlater (hne hin hroot)
  · rw [List.mem_singleton.mp hself] at hreaches
    exact absurd (Relation.TransGen.tail' hreaches hcall) (hcycle last)

theorem nodup_services_ofCalls (calls : List (String × String)) :
    (ofCalls calls).services.Nodup := by
  rw [services_ofCalls]
  exact nodup_eraseDups _

theorem Calls.caller_mem_services {calls : List (String × String)} {caller callee : String}
    (h : (ofCalls calls).Calls caller callee) : caller ∈ (ofCalls calls).services := by
  obtain ⟨e, he, hends⟩ := h
  have hcaller : e.caller = caller := congrArg Prod.fst hends
  exact hcaller ▸ CallGraph.caller_mem_services he

/-- The roots of a graph, after any calls, are different services from which every service can be
reached. All services without callers are among them. A root with a caller cannot be reached from
a service without callers, nor from another such root that was mentioned before it; so when the
graph has no cycle, the roots are exactly the services without callers. -/
theorem roots_cover (calls : List (String × String)) :
    let g := ofCalls calls
    g.roots.Nodup ∧ g.roots ⊆ g.services ∧
    (∀ s ∈ g.services, g.Uncalled s → s ∈ g.roots) ∧
    (∀ s ∈ g.services, ∃ root ∈ g.roots, g.Reaches root s) ∧
    (∀ root ∈ g.roots, ¬g.Uncalled root →
      ∀ s ∈ g.services, g.Uncalled s → ¬g.Reaches s root) ∧
    (g.services.Pairwise fun root root' => root ∈ g.roots → root' ∈ g.roots →
      ¬g.Uncalled root → ¬g.Uncalled root' → ¬g.Reaches root root') ∧
    ((∀ s, ¬g.OnCycle s) → ∀ s, s ∈ g.roots ↔ s ∈ g.services ∧ g.Uncalled s) := by
  intro g
  have hn : g.services.Nodup := nodup_services_ofCalls calls
  refine ⟨nodup_roots hn, g.roots_subset, fun s hs hnone => ?_, fun s => exists_root_reaches,
    fun root hroot hcalled s hs hnone => ?_, ?_, fun hcycle s => ?_⟩
  · exact mem_roots.mpr (.inl (mem_callerless.mpr ⟨hs, hnone⟩))
  · exact not_reaches_furtherRoot (mem_callerless.mpr ⟨hs, hnone⟩)
      (mem_furtherRoots.mpr ⟨hroot, hcalled⟩)
  · refine (pairwise_furtherStarts (closed_reach_callerless g) hn).imp ?_
    intro root root' hapart hroot hroot' hcalled hcalled'
    exact hapart (mem_furtherRoots.mpr ⟨hroot, hcalled⟩) (mem_furtherRoots.mpr ⟨hroot', hcalled'⟩)
  · have hnil := furtherRoots_eq_nil hn (fun _ _ h => h.caller_mem_services) hcycle
    rw [mem_roots, hnil, or_iff_left List.not_mem_nil, mem_callerless]

/-- A service without callers, a cycle, and a service that calls itself and the cycle. -/
example : (ofCalls [("db", "log"), ("log", "db"), ("api", "api"), ("api", "db"),
    ("web", "mail")]).roots = ["api", "web", "db"] := by
  cbv

end Telemetry.CallGraph
