import Telemetry.Codec.Batch

/-!
# What is written is canonical

Every encoder writes the members of its objects by ascending keys, so that what it writes
is a map as it stands.

* `canonical_ofList`, `canonical_ofOption`, `canonical_ofObject` and so on: what is made of
  canonical parts;
* `Span.canonical_toJson` and so on, up to `Batch.canonical_toJson`.
-/

namespace Telemetry

open Json

namespace Json

/-! ## Parts -/

theorem canonical_obj {members : List (String × Json)} (keys : List String)
    (hkeys : members.map (·.1) = keys) (hascending : keys.Pairwise (compare · · = .lt))
    (h : CanonicalMembers members) : (Json.obj members).Canonical := by
  refine ⟨?_, h⟩
  subst hkeys
  exact List.pairwise_map.mp hascending

@[simp] theorem canonical_str (s : String) : (Json.str s).Canonical := trivial

@[simp] theorem canonical_bool (b : Bool) : (Json.bool b).Canonical := trivial

@[simp] theorem canonical_ofInt32 (n : Int32) : (ofInt32 n).Canonical := trivial

@[simp] theorem canonical_ofInt64 (n : Int64) : (ofInt64 n).Canonical := trivial

@[simp] theorem canonical_ofUInt32 (n : UInt32) : (ofUInt32 n).Canonical := trivial

@[simp] theorem canonical_ofUInt64 (n : UInt64) : (ofUInt64 n).Canonical := trivial

@[simp] theorem canonical_ofDouble (x : Binary64) : (ofDouble x).Canonical := by
  rw [ofDouble]
  split <;> trivial

@[simp] theorem canonical_ofId {kind : IdKind} (i : Id kind) : (ofId i).Canonical := trivial

@[simp] theorem canonical_ofInstant (t : Instant) : (ofInstant t).Canonical := trivial

@[simp] theorem canonical_ofObject (o : Object) : (ofObject o).Canonical := o.2

theorem canonical_ofOption {α : Type} {encode : α → Json} (h : ∀ a, (encode a).Canonical)
    (o : Option α) : (ofOption encode o).Canonical := by
  cases o with
  | none => trivial
  | some a => exact h a

theorem canonical_ofList {α : Type} {encode : α → Json} (h : ∀ a, (encode a).Canonical)
    (l : List α) : (ofList encode l).Canonical := by
  refine canonicalItems_iff.mpr fun v hv => ?_
  obtain ⟨a, -, rfl⟩ := List.mem_map.mp hv
  exact h a

end Json

/-! ## Spans and logs -/

@[simp] theorem Resource.canonical_toJson (r : Resource) : r.toJson.Canonical :=
  canonical_obj ["attributes", "dropped_attributes_count"]
    rfl (by decide) (by simp [CanonicalMembers])

@[simp] theorem Scope.canonical_toJson (s : Scope) : s.toJson.Canonical :=
  canonical_obj ["attributes", "name", "version"]
    rfl (by decide) (by simp [CanonicalMembers])

@[simp] theorem Status.canonical_toJson (s : Status) : s.toJson.Canonical :=
  canonical_obj ["code", "message"]
    rfl (by decide) (by simp [CanonicalMembers])

@[simp] theorem SpanEvent.canonical_toJson (e : SpanEvent) : e.toJson.Canonical :=
  canonical_obj ["attributes", "name", "time"]
    rfl (by decide) (by simp [CanonicalMembers])

@[simp] theorem Span.canonical_toJson (s : Span) : s.toJson.Canonical :=
  canonical_obj ["attributes", "end_time", "events", "kind", "name", "parent_span_id", "span_id",
      "start_time", "status", "trace_id", "trace_state"]
    rfl (by decide) (by simp [CanonicalMembers, canonical_ofList SpanEvent.canonical_toJson])

@[simp] theorem Log.canonical_toJson (l : Log) : l.toJson.Canonical :=
  canonical_obj ["attributes", "body", "flags", "observed_time", "severity_number",
      "severity_text", "span_id", "time", "trace_id"]
    rfl (by decide) (by simp [CanonicalMembers, canonical_ofOption canonical_ofInstant])

/-! ## Metrics -/

@[simp] theorem NumberValue.canonical_toJson (n : NumberValue) : n.toJson.Canonical := by
  cases n with
  | int n => exact canonical_ofInt64 n
  | double x => exact canonical_ofDouble x

@[simp] theorem NumberDataPoint.canonical_toJson (p : NumberDataPoint) : p.toJson.Canonical :=
  canonical_obj ["attributes", "start_time", "time", "value"]
    rfl (by decide) (by simp [CanonicalMembers, canonical_ofOption canonical_ofInstant])

@[simp] theorem HistogramDataPoint.canonical_toJson (p : HistogramDataPoint) : p.toJson.Canonical :=
  canonical_obj ["attributes", "bucket_counts", "count", "explicit_bounds", "max", "min",
      "start_time", "sum", "time"]
    rfl (by decide) (by
      simp [CanonicalMembers, canonical_ofOption canonical_ofInstant,
        canonical_ofOption canonical_ofDouble, canonical_ofList canonical_ofDouble,
        canonical_ofList canonical_ofUInt64])

@[simp] theorem ExponentialBuckets.canonical_toJson (b : ExponentialBuckets) : b.toJson.Canonical :=
  canonical_obj ["bucket_counts", "offset"]
    rfl (by decide) (by simp [CanonicalMembers, canonical_ofList canonical_ofUInt64])

@[simp] theorem ExponentialHistogramDataPoint.canonical_toJson
    (p : ExponentialHistogramDataPoint) : p.toJson.Canonical :=
  canonical_obj ["attributes", "count", "negative", "positive", "scale", "start_time", "sum",
      "time", "zero_count"]
    rfl (by decide) (by
      simp [CanonicalMembers, canonical_ofOption canonical_ofInstant,
        canonical_ofOption canonical_ofDouble])

@[simp] theorem ValueAtQuantile.canonical_toJson (q : ValueAtQuantile) : q.toJson.Canonical :=
  canonical_obj ["quantile", "value"]
    rfl (by decide) (by simp [CanonicalMembers])

@[simp] theorem SummaryDataPoint.canonical_toJson (p : SummaryDataPoint) : p.toJson.Canonical :=
  canonical_obj ["attributes", "count", "quantile_values", "start_time", "sum", "time"]
    rfl (by decide) (by
      simp [CanonicalMembers, canonical_ofOption canonical_ofInstant,
        canonical_ofList ValueAtQuantile.canonical_toJson])

@[simp] theorem MetricData.canonical_toJson (d : MetricData) : d.toJson.Canonical := by
  cases d with
  | gauge points =>
    exact canonical_obj ["data_points", "type"] rfl (by decide)
      (by simp [CanonicalMembers, canonical_ofList NumberDataPoint.canonical_toJson])
  | sum points isMonotonic temporality =>
    exact canonical_obj ["data_points", "is_monotonic", "temporality", "type"] rfl (by decide)
      (by simp [CanonicalMembers, canonical_ofList NumberDataPoint.canonical_toJson])
  | histogram points temporality =>
    exact canonical_obj ["data_points", "temporality", "type"] rfl (by decide)
      (by simp [CanonicalMembers, canonical_ofList HistogramDataPoint.canonical_toJson])
  | exponentialHistogram points temporality =>
    exact canonical_obj ["data_points", "temporality", "type"] rfl (by decide)
      (by simp [CanonicalMembers, canonical_ofList ExponentialHistogramDataPoint.canonical_toJson])
  | summary points =>
    exact canonical_obj ["data_points", "type"] rfl (by decide)
      (by simp [CanonicalMembers, canonical_ofList SummaryDataPoint.canonical_toJson])

@[simp] theorem Metric.canonical_toJson (m : Metric) : m.toJson.Canonical :=
  canonical_obj ["data", "description", "name", "unit"]
    rfl (by decide) (by simp [CanonicalMembers])

/-! ## Batches -/

variable {α : Type} {encode : α → Json}

theorem ScopeGroup.canonical_toJson {keys : GroupKeys} (h : ∀ a, (encode a).Canonical)
    (g : ScopeGroup α) : (g.toJson keys encode).Canonical :=
  ⟨ascending_put _ _ (List.pairwise_singleton _ _),
    canonicalMembers_put (canonical_ofList h g.records) ⟨g.scope.canonical_toJson, trivial⟩⟩

theorem Group.canonical_toJson {keys : GroupKeys} (h : ∀ a, (encode a).Canonical)
    (g : Group α) : (g.toJson keys encode).Canonical :=
  ⟨ascending_put _ _ (List.pairwise_singleton _ _),
    canonicalMembers_put (canonical_ofList (ScopeGroup.canonical_toJson h) g.scopes)
      ⟨g.resource.canonical_toJson, trivial⟩⟩

/-- Every batch is written as a canonical value. -/
theorem Batch.canonical_toJson (b : Batch) : b.toJson.Canonical := by
  cases b with
  | spans groups =>
    exact canonical_obj ["Spans"] rfl (by decide)
      ⟨canonical_ofList (Group.canonical_toJson Span.canonical_toJson) groups, trivial⟩
  | logs groups =>
    exact canonical_obj ["Logs"] rfl (by decide)
      ⟨canonical_ofList (Group.canonical_toJson Log.canonical_toJson) groups, trivial⟩
  | metrics groups =>
    exact canonical_obj ["Metrics"] rfl (by decide)
      ⟨canonical_ofList (Group.canonical_toJson Metric.canonical_toJson) groups, trivial⟩

end Telemetry
