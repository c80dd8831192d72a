import Telemetry.Proofs.Codec.Decoded
import Telemetry.Proofs.Codec.Metrics
import Telemetry.Proofs.Codec.Records

/-!
# Batches read back

A batch is written as a canonical value, from which the same batch is read: the groups in
their order, every field of every record, and all identifiers, those of only zeros included.
Only infinities and NaN are lost, and no batch that was read holds one.

* `Group.undoes`: a group is read back if its records are;
* `Batch.doubles`, `Batch.undoes`: a batch is read back if its doubles are finite;
* `Batch.yields_allFinite`: those of a batch that was read are;
* `Batch.decode_toJson`: both together, from a value and from a text.
-/

namespace Telemetry

open Decoder Fields Reading

/-! ## Groups -/

section Group

variable {α : Type} {keys : GroupKeys} {decode : Decoder α} {encode : α → Json}

theorem ScopeGroup.undoes (hkey : keys.records ≠ "scope") (hencode : ∀ a, (encode a).Canonical) :
    ∀ {g : ScopeGroup α}, (∀ a ∈ g.records, decode.Undoes encode a) →
      (ScopeGroup.decoder keys decode).Undoes (ScopeGroup.toJson keys encode) g
  | ⟨scope, _⟩, h =>
    undoes_record rfl (ScopeGroup.canonical_toJson hencode _) fun _ =>
      seq_eq_ok (optional_eq_ok (undoes_list h) (Json.lookup_put_self ..)) <|
      map_eq_ok (optional_eq_ok scope.undoes (Json.lookup_put_of_ne hkey.symm ..))

/-- A group is read back if its records are. -/
theorem Group.undoes (hscopes : keys.scopes ≠ "resource") (hrecords : keys.records ≠ "scope")
    (hencode : ∀ a, (encode a).Canonical) :
    ∀ {g : Group α}, (∀ s ∈ g.scopes, ∀ a ∈ s.records, decode.Undoes encode a) →
      (Group.decoder keys decode).Undoes (Group.toJson keys encode) g
  | ⟨resource, _⟩, h =>
    undoes_record rfl (Group.canonical_toJson hencode _) fun _ =>
      seq_eq_ok (optional_eq_ok
        (undoes_list fun s hs => ScopeGroup.undoes hrecords hencode (h s hs))
        (Json.lookup_put_self ..)) <|
      map_eq_ok (optional_eq_ok resource.undoes (Json.lookup_put_of_ne hscopes.symm ..))

end Group

/-! ## Batches -/

namespace Batch

/-- The doubles of a batch, which only metrics hold. -/
def doubles : Batch → List Binary64
  | .spans _ | .logs _ => []
  | .metrics groups =>
    groups.flatMap fun g => g.scopes.flatMap fun s => s.records.flatMap (·.doubles)

theorem allFinite_metrics {groups : List (Group Metric)} :
    AllFinite (Batch.metrics groups).doubles ↔
      ∀ g ∈ groups, ∀ s ∈ g.scopes, ∀ m ∈ s.records, AllFinite m.doubles := by
  simp only [doubles, AllFinite.flatMap]

/-- A batch whose doubles are finite is read back. -/
theorem undoes {b : Batch} (h : AllFinite b.doubles) : Batch.decoder.Undoes Batch.toJson b := by
  cases b with
  | spans groups =>
    have hgroups : (Decoder.list Group.spansDecoder).Undoes _ groups := undoes_list fun g _ =>
      Group.undoes (by decide) (by decide) Span.canonical_toJson fun _ _ s _ => s.undoes
    exact undoes_content rfl rfl fun src => congrArg (Except.map Batch.spans) (hgroups src)
  | logs groups =>
    have hgroups : (Decoder.list Group.logsDecoder).Undoes _ groups := undoes_list fun g _ =>
      Group.undoes (by decide) (by decide) Log.canonical_toJson fun _ _ l _ => l.undoes
    exact undoes_content rfl rfl fun src => congrArg (Except.map Batch.logs) (hgroups src)
  | metrics groups =>
    have hgroups : (Decoder.list Group.metricsDecoder).Undoes _ groups := undoes_list fun g hg =>
      Group.undoes (by decide) (by decide) Metric.canonical_toJson fun s hs m hm =>
        Metric.undoes (allFinite_metrics.mp h g hg s hs m hm)
    exact undoes_content rfl rfl fun src => congrArg (Except.map Batch.metrics) (hgroups src)

/-- The doubles of a batch that was read are finite. -/
theorem yields_allFinite : Batch.decoder.Yields fun b => AllFinite b.doubles := by
  have hscope : (ScopeGroup.decoder .metrics Metric.decoder).Yields fun s =>
      ∀ m ∈ s.records, AllFinite m.doubles := by
    refine .record fun fields s hs => ?_
    simp only [Reading.seq_eq_ok_iff, Reading.map_eq_ok_iff] at hs
    obtain ⟨records, hrecords, _, rfl, scope, -, rfl⟩ := hs
    exact Metric.yields_allFinite.list.of_optional_list hrecords
  have hgroup : (Group.decoder .metrics Metric.decoder).Yields fun g =>
      ∀ s ∈ g.scopes, ∀ m ∈ s.records, AllFinite m.doubles := by
    refine .record fun fields g hg => ?_
    simp only [Reading.seq_eq_ok_iff, Reading.map_eq_ok_iff] at hg
    obtain ⟨scopes, hscopes, _, rfl, resource, -, rfl⟩ := hg
    exact hscope.list.of_optional_list hscopes
  refine Decoder.Yields.variants fun v hv => ?_
  simp only [List.mem_cons, List.not_mem_nil, or_false] at hv
  rcases hv with rfl | rfl | rfl
  · refine ⟨nofun, fun src d b hb => ?_⟩
    obtain ⟨groups, -, rfl⟩ := exists_of_map_eq_ok hb
    exact AllFinite.nil
  · refine ⟨nofun, fun src d b hb => ?_⟩
    obtain ⟨groups, -, rfl⟩ := exists_of_map_eq_ok hb
    exact AllFinite.nil
  · refine ⟨nofun, fun src d b hb => ?_⟩
    obtain ⟨groups, hgroups, rfl⟩ := exists_of_map_eq_ok hb
    exact allFinite_metrics.mpr (hgroup.list src d groups hgroups)

/-- Decoding undoes encoding: every batch whose doubles are finite is written as a canonical
value, from which the same batch is read. Every batch that was read, from a value or from a
text, is such a batch. -/
theorem decode_toJson :
    (∀ b : Batch, AllFinite b.doubles →
      b.toJson.Canonical ∧ Batch.decoder.ofValue b.toJson = .ok b) ∧
    (∀ (v : Json) (b : Batch), Batch.decoder.ofValue v = .ok b →
      AllFinite b.doubles ∧ Batch.decoder.ofValue b.toJson = .ok b) ∧
    ∀ (s : String) (b : Batch), Batch.decoder.ofText s = .ok b →
      AllFinite b.doubles ∧ Batch.decoder.ofValue b.toJson = .ok b := by
  have hwritten (b : Batch) (h : AllFinite b.doubles) : Batch.decoder.ofValue b.toJson = .ok b :=
    undoes h .value
  refine ⟨fun b h => ⟨b.canonical_toJson, hwritten b h⟩, fun v b hb => ?_, fun s b hb => ?_⟩
  · have hfinite := yields_allFinite _ _ b hb
    exact ⟨hfinite, hwritten b hfinite⟩
  · have hread : Batch.decoder .text (Draft.ofText s).1 = .ok b := by
      rw [ofText] at hb
      split at hb
      · cases hb
      · next a ha =>
        split at hb
        · cases hb
        · exact Except.ok.inj hb ▸ ha
    have hfinite := yields_allFinite _ _ b hread
    exact ⟨hfinite, hwritten b hfinite⟩

/-- Five as an integer and five as a double stay apart. -/
theorem decode_toJson_of_fives :
    let points (n : NumberValue) : List NumberDataPoint := [⟨.epoch, none, n, .empty⟩]
    let batch (n : NumberValue) : Batch :=
      .metrics [⟨.empty, [⟨.empty, [.ofName "load" (.gauge (points n))]⟩]⟩]
    let five : Binary64 := ⟨0x4014000000000000⟩
    AllFinite (batch (.double five)).doubles ∧
      Batch.decoder.ofValue (batch (.int 5)).toJson = .ok (batch (.int 5)) ∧
      Batch.decoder.ofValue (batch (.double five)).toJson = .ok (batch (.double five)) ∧
      batch (.int 5) ≠ batch (.double five) := by
  intro points batch five
  have hfinite : AllFinite (batch (.double five)).doubles :=
    AllFinite.cons.mpr ⟨by decide, AllFinite.nil⟩
  refine ⟨hfinite, (decode_toJson.1 (batch (.int 5)) AllFinite.nil).2,
    (decode_toJson.1 _ hfinite).2, fun h => ?_⟩
  simp [batch, points, Metric.ofName] at h

end Batch

end Telemetry
