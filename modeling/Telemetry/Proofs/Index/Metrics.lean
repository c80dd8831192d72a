import Telemetry.Index.Metrics
import Telemetry.Proofs.Index.Entries
import Telemetry.Proofs.List.Parts
import Telemetry.Proofs.Text.ByteOrder

/-!
# The index of metrics represents a list

* `MetricIndex.Represents x l`: the metrics of a service and name are those of the list,
  and no service is without metrics;
* `Represents.insert`, `Represents.erase`, `Represents.delete_append`: the lists after the
  operations;
* `Represents.mem_serviceNames`, `Represents.mem_metricNames`: which names are listed, and
  `serviceNames_ascending`, `metricNames_ascending`: in which order;
* `Represents.size`: how many metrics there are, and `Represents.ext`: the list says which
  index it is.
-/

namespace Telemetry

namespace MetricIndex

/-- The metrics of a service and name are those of the list, and no service is empty. -/
structure Represents (x : MetricIndex) (l : List (Filing MetricRecord)) : Prop where
  metricsOf? : ∀ service name, x.metricsOf? service name =
    filled ((l.filter fun f => f.service = service ∧ f.record.name = name).map (·.record))
  pruned : Nested.Pruned x.byService

theorem represents_empty : empty.Represents [] where
  metricsOf? service name := Nested.at?_empty service name
  pruned := Nested.pruned_empty

variable {x x' : MetricIndex} {l : List (Filing MetricRecord)}

/-! ## Reading after a change -/

theorem insert_eq_put (x : MetricIndex) (service : String) (r : MetricRecord) :
    (x.insert service r).byService =
      Nested.put x.byService service r.name ((x.metricsOf? service r.name).getD [] ++ [r]) := by
  have hbucket : (x.byService.getD service ∅).getD r.name [] =
      (x.metricsOf? service r.name).getD [] := by
    rw [Std.ExtTreeMap.getD_eq_getD_getElem?, Nested.getElem?_getD]
    rfl
  rw [← hbucket]
  rfl

theorem metricsOf?_insert (x : MetricIndex) (service : String) (r : MetricRecord)
    (service' name : String) :
    (x.insert service r).metricsOf? service' name =
      if service = service' ∧ r.name = name then some ((x.metricsOf? service' name).getD [] ++ [r])
      else x.metricsOf? service' name := by
  have hat : (x.insert service r).metricsOf? service' name =
      Nested.at? (x.insert service r).byService service' name := rfl
  rw [hat, insert_eq_put, Nested.at?_put]
  split
  · rename_i e
    rw [e.1, e.2]
  · rfl

theorem getElem?_eraseName (names : MetricNames) (r : MetricRecord) (name : String) :
    (eraseName names r)[name]? =
      if r.name = name then filled ((names[name]?.getD []).eraseP (·.serial == r.serial))
      else names[name]? := by
  unfold eraseName
  split
  · rename_i hx
    split
    · rename_i e
      rw [← e, hx]
      rfl
    · rfl
  · rename_i metrics hx
    refine (getElem?_replace names r.name name _).trans ?_
    split
    · rename_i e
      rw [← e, hx, Option.getD_some]
    · rfl

theorem metricsOf?_erase (x : MetricIndex) (r : MetricRecord) (service name : String) :
    (x.erase r).metricsOf? service name =
      if r.service = service ∧ r.name = name then
        filled (((x.metricsOf? service name).getD []).eraseP (·.serial == r.serial))
      else x.metricsOf? service name := by
  have hnames : (x.erase r).metricsOf? service name =
      if r.service = service then (eraseName (x.byService.getD service ∅) r)[name]?
      else x.metricsOf? service name := by
    unfold erase
    split
    · rename_i hx
      split
      · rename_i e
        subst e
        have hnone : x.metricsOf? r.service name = none := by rw [MetricIndex.metricsOf?, hx]; rfl
        rw [hnone, Std.ExtTreeMap.getD_eq_getD_getElem?, hx, getElem?_eraseName]
        simp
      · rfl
    · rename_i names hx
      have hget : r.service = service → x.byService.getD service ∅ = names := by
        rintro rfl
        rw [Std.ExtTreeMap.getD_eq_getD_getElem?, hx, Option.getD_some]
      show Nested.at? (if (eraseName names r).isEmpty then _ else _) service name = _
      split
      · -- no name is left, so the service goes
        rename_i he
        rw [Nested.at?_erase]
        split
        · rename_i e
          rw [hget e, Std.ExtTreeMap.isEmpty_iff.mp he]
          exact Std.ExtTreeMap.getElem?_empty.symm
        · rfl
      · rw [Nested.at?_insert]
        split
        · rename_i e
          rw [hget e]
        · rfl
  rw [hnames, getElem?_eraseName, Nested.getElem?_getD]
  by_cases e : r.service = service
  · simp only [e, if_true, true_and]
    rfl
  · simp only [e, if_false, false_and]

theorem pruned_erase (hx : Nested.Pruned x.byService) (r : MetricRecord) :
    Nested.Pruned (x.erase r).byService := by
  unfold erase
  split
  · exact hx
  · rename_i names _
    show Nested.Pruned (if (eraseName names r).isEmpty then _ else _)
    split
    · exact Nested.Pruned.erase hx r.service
    · rename_i he
      exact Nested.Pruned.insert hx r.service fun e => he (Std.ExtTreeMap.isEmpty_iff.mpr e)

/-! ## Representation -/

theorem Represents.insert (h : x.Represents l) (service : String) (r : MetricRecord) :
    (x.insert service r).Represents (l ++ [⟨service, r⟩]) where
  metricsOf? service' name := by
    rw [metricsOf?_insert, h.metricsOf?, getD_filled]
    by_cases e : service = service' ∧ r.name = name
    · simp [e]
    · simp [e]
  pruned := by
    rw [insert_eq_put]
    exact Nested.Pruned.put h.pruned _ _ _

theorem Represents.erase (h : x.Represents l) (r : MetricRecord) :
    (x.erase r).Represents (l.eraseP fun f =>
      f.record.serial == r.serial && decide (f.service = r.service ∧ f.record.name = r.name)) where
  metricsOf? service name := by
    rw [metricsOf?_erase, h.metricsOf?, getD_filled]
    split
    · rename_i e
      rw [List.eraseP_map, filter_eraseP_of_imp fun f => by rw [e.1, e.2]]
      rfl
    · rename_i e
      rw [filter_eraseP_of_not fun f hf => ?_]
      rw [Bool.and_eq_true, decide_eq_true_eq] at hf
      exact decide_eq_false fun hf' => e ⟨hf.2.1.symm.trans hf'.1, hf.2.2.symm.trans hf'.2⟩
  pruned := pruned_erase h.pruned r

/-- A metric under the service that its resource names. -/
def own (r : MetricRecord) : Filing MetricRecord := ⟨r.service, r⟩

/-- Erasing the oldest metrics one after the other. -/
theorem Represents.delete_append {evicted kept : List MetricRecord}
    (h : x.Represents ((evicted ++ kept).map own)) : (x.delete evicted).Represents (kept.map own) := by
  induction evicted generalizing x with
  | nil => exact h
  | cons r evicted ih =>
    refine ih ?_
    have he := h.erase r
    rwa [List.cons_append, List.map_cons, List.eraseP_cons_of_pos (by simp [own])] at he

theorem Represents.ext (h : x.Represents l) (h' : x'.Represents l) : x = x' := by
  cases x
  cases x'
  refine congrArg MetricIndex.mk (Nested.ext_at? h.pruned h'.pruned fun service name => ?_)
  exact (h.metricsOf? service name).trans (h'.metricsOf? service name).symm

/-! ## Names -/

/-- What a service keeps under its names is all that it has. -/
theorem Represents.names_perm (h : x.Represents l) {service : String} {names : MetricNames}
    (hn : x.byService[service]? = some names) :
    (names.toList.flatMap (·.2)).Perm ((l.filter fun f => f.service = service).map (·.record)) := by
  have hfilled : ∀ name : String, names[name]? =
      filled (((l.filter fun f => f.service = service).map (·.record)).filter fun r => r.name = name) := by
    intro name
    have hm := h.metricsOf? service name
    rw [MetricIndex.metricsOf?, hn, Option.bind_some] at hm
    rw [hm, List.filter_map, List.filter_filter]
    refine congrArg (fun l => filled (List.map _ l)) (List.filter_congr fun f _ => ?_)
    rw [Bool.decide_and, Bool.and_comm]
    rfl
  exact flatMap_toList_perm hfilled

theorem serviceNames_ascending (x : MetricIndex) :
    x.serviceNames.Pairwise fun a b => Text.bytes a < Text.bytes b :=
  Std.ExtTreeMap.ordered_keys.imp Text.bytes_lt

theorem metricNames_ascending (x : MetricIndex) (service : String) :
    (x.metricNames service).Pairwise fun a b => Text.bytes a < Text.bytes b :=
  Std.ExtTreeMap.ordered_keys.imp Text.bytes_lt

theorem Represents.isSome_metricsOf? (h : x.Represents l) {service name : String} :
    (x.metricsOf? service name).isSome ↔ ∃ f ∈ l, f.service = service ∧ f.record.name = name := by
  rw [h.metricsOf?, ← not_iff_not, Bool.not_eq_true, Option.isSome_eq_false_iff,
    Option.isNone_iff_eq_none, filled_eq_none]
  simp

theorem Represents.mem_metricNames (h : x.Represents l) {service name : String} :
    name ∈ x.metricNames service ↔ ∃ f ∈ l, f.service = service ∧ f.record.name = name := by
  have hget : (x.byService.getD service ∅)[name]? = x.metricsOf? service name :=
    Nested.getElem?_getD ..
  rw [metricNames, Std.ExtTreeMap.mem_keys, Std.ExtTreeMap.mem_iff_isSome_getElem?, hget,
    h.isSome_metricsOf?]

/-- A service that is listed has a name, and with it a metric. -/
theorem Represents.mem_serviceNames (h : x.Represents l) {service : String} :
    service ∈ x.serviceNames ↔ ∃ f ∈ l, f.service = service := by
  rw [serviceNames, Std.ExtTreeMap.mem_keys, Std.ExtTreeMap.mem_iff_isSome_getElem?]
  constructor
  · intro hs
    obtain ⟨names, hnames⟩ := Option.isSome_iff_exists.mp hs
    have hne : Std.ExtTreeMap.getD x.byService service ∅ ≠ ∅ := by
      rw [Std.ExtTreeMap.getD_eq_getD_getElem?, hnames]
      exact h.pruned service names hnames
    obtain ⟨name, metrics, hm⟩ := Nested.exists_at? hne
    have hsome : (x.metricsOf? service name).isSome := Option.isSome_iff_exists.mpr ⟨metrics, hm⟩
    obtain ⟨f, hf, e, -⟩ := h.isSome_metricsOf?.mp hsome
    exact ⟨f, hf, e⟩
  · rintro ⟨f, hf, rfl⟩
    obtain ⟨metrics, hm⟩ := Option.isSome_iff_exists.mp (h.isSome_metricsOf?.mpr ⟨f, hf, rfl, rfl⟩)
    obtain ⟨names, hnames, -⟩ := Option.bind_eq_some_iff.mp hm
    exact Option.isSome_iff_exists.mpr ⟨names, hnames⟩

theorem Represents.iter_perm (h : x.Represents l) : x.iter.Perm (l.map (·.record)) := by
  have hservices : x.iter.Perm
      (x.serviceNames.flatMap fun service => (l.filter fun f => f.service = service).map (·.record)) := by
    rw [serviceNames, ← Std.ExtTreeMap.map_fst_toList_eq_keys, List.flatMap_map]
    refine List.Perm.flatMap_left _ fun e he => ?_
    exact h.names_perm (Std.ExtTreeMap.mem_toList_iff_getElem?_eq_some.mp he)
  refine hservices.trans ?_
  rw [← List.map_flatMap]
  refine (flatMap_filter_perm Std.ExtTreeMap.nodup_keys _ fun f hf => ?_).map _
  exact h.mem_serviceNames.mpr ⟨f, hf, rfl⟩

theorem Represents.size (h : x.Represents l) : x.size = l.length :=
  h.iter_perm.length_eq.trans (List.length_map _)

theorem Represents.isEmpty_iff (h : x.Represents l) : x.isEmpty ↔ l = [] := by
  constructor
  · intro hx
    have hx : x = empty := congrArg MetricIndex.mk (Std.ExtTreeMap.isEmpty_iff.mp hx)
    have hempty : empty.iter.Perm (l.map (·.record)) := hx ▸ h.iter_perm
    exact List.map_eq_nil_iff.mp hempty.nil_eq.symm
  · rintro rfl
    rw [h.ext represents_empty]
    rfl

end MetricIndex

end Telemetry
