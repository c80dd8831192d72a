import Telemetry.Proofs.Codec.Canonical
import Telemetry.Proofs.Codec.Laws

/-!
# Metrics read back

Infinities and NaN have no JSON number, so a metric is read back if all its doubles are
finite. The data of a metric names its shape after its other fields, which are held back
until then.

* `NumberValue.doubles` and so on, up to `Metric.doubles`: the doubles that a value holds;
* `NumberValue.undoes`: an integer is read back as an integer, and a finite double as a
  double, also where it is a whole number;
* `MetricData.undoes_shape`: data is read back if its fields are, once the shape is known;
* `Metric.undoes`.
-/

namespace Telemetry

open Decoder Fields Reading

/-! ## The doubles of a metric -/

/-- The double of a number that is one. -/
def NumberValue.doubles : NumberValue → List Binary64
  | .int _ => []
  | .double x => [x]

/-- The doubles of measurements counted in buckets. -/
def HistogramDataPoint.doubles (p : HistogramDataPoint) : List Binary64 :=
  p.sum.toList ++ p.explicitBounds ++ p.min.toList ++ p.max.toList

/-- The doubles of measurements counted in exponential buckets. -/
def ExponentialHistogramDataPoint.doubles (p : ExponentialHistogramDataPoint) : List Binary64 :=
  p.sum.toList

/-- The doubles of measurements summed up by quantiles. -/
def SummaryDataPoint.doubles (p : SummaryDataPoint) : List Binary64 :=
  p.sum :: p.quantileValues.flatMap fun q => [q.quantile, q.value]

/-- The doubles of the measurements of a metric. -/
def MetricData.doubles : MetricData → List Binary64
  | .gauge points | .sum points .. => points.flatMap (·.value.doubles)
  | .histogram points _ => points.flatMap (·.doubles)
  | .exponentialHistogram points _ => points.flatMap (·.doubles)
  | .summary points => points.flatMap (·.doubles)

/-- The doubles of a metric. -/
def Metric.doubles (m : Metric) : List Binary64 := m.data.doubles

/-- None of the doubles is an infinity or a NaN. -/
def AllFinite (xs : List Binary64) : Prop := ∀ x ∈ xs, x.isFinite = true

namespace AllFinite

@[simp] theorem nil : AllFinite [] := fun _ h => absurd h List.not_mem_nil

@[simp] theorem cons {x : Binary64} {xs : List Binary64} :
    AllFinite (x :: xs) ↔ x.isFinite = true ∧ AllFinite xs :=
  List.forall_mem_cons

@[simp] theorem append {xs ys : List Binary64} :
    AllFinite (xs ++ ys) ↔ AllFinite xs ∧ AllFinite ys :=
  List.forall_mem_append

theorem flatMap {α : Type} {l : List α} {f : α → List Binary64} :
    AllFinite (l.flatMap f) ↔ ∀ a ∈ l, AllFinite (f a) :=
  List.forall_mem_flatMap

theorem toList {o : Option Binary64} : AllFinite o.toList ↔ ∀ x ∈ o, x.isFinite = true := by
  simp [AllFinite]

end AllFinite

/-! ## Measurements -/

theorem AggregationTemporality.undoes (t : AggregationTemporality) :
    AggregationTemporality.decoder.Undoes (fun t => .str t.name) t :=
  undoes_name (by cases t <;> decide) (by decide)

/-- A number is read back as the kind of number that it is. -/
theorem NumberValue.undoes {n : NumberValue} (h : AllFinite n.doubles) :
    NumberValue.decoder.Undoes NumberValue.toJson n := fun src => by
  rw [NumberValue.decoder, if_pos (Draft.usable_ofJson _)]
  cases n with
  | int n => rw [NumberValue.toJson, undoes_int64 n]
  | double x =>
    have hx : x.isFinite = true := (AllFinite.cons.mp h).1
    have hint : ∃ e, int64 .held (.ofJson (Json.ofDouble x)) = .error e := by
      rw [Json.ofDouble, dif_pos hx]
      exact ⟨_, rfl⟩
    obtain ⟨e, hint⟩ := hint
    rw [NumberValue.toJson, hint, undoes_double hx]

theorem undoes_option_double {o : Option Binary64} (h : AllFinite o.toList) :
    (Decoder.option .double).Undoes (Json.ofOption Json.ofDouble) o :=
  undoes_option fun x hx =>
    have hfinite := AllFinite.toList.mp h x hx
    ⟨undoes_double hfinite, ofDouble_ne_null hfinite⟩

theorem undoes_list_uint64 (l : List UInt64) :
    (Decoder.list .uint64).Undoes (Json.ofList Json.ofUInt64) l :=
  undoes_list fun n _ => undoes_uint64 n

theorem NumberDataPoint.undoes : ∀ {p : NumberDataPoint}, AllFinite p.value.doubles →
    NumberDataPoint.decoder.Undoes NumberDataPoint.toJson p
  | ⟨time, startTime, _, attributes⟩, hvalue =>
    undoes_record rfl (NumberDataPoint.canonical_toJson _) fun _ =>
      seq_eq_ok (optional_eq_ok (undoes_attributes attributes) rfl) <|
      seq_eq_ok (required_eq_ok (NumberValue.undoes hvalue) rfl) <|
      seq_eq_ok (optional_eq_ok (undoes_option_instant startTime) rfl) <|
      map_eq_ok (required_eq_ok (undoes_instant time) rfl)

theorem HistogramDataPoint.undoes : ∀ {p : HistogramDataPoint}, AllFinite p.doubles →
    HistogramDataPoint.decoder.Undoes HistogramDataPoint.toJson p
  | ⟨time, startTime, count, sum, bucketCounts, explicitBounds, min, max, attributes⟩, h => by
    simp only [HistogramDataPoint.doubles, AllFinite.append] at h
    obtain ⟨⟨⟨hsum, hbounds⟩, hmin⟩, hmax⟩ := h
    exact undoes_record rfl (HistogramDataPoint.canonical_toJson _) fun _ =>
      seq_eq_ok (optional_eq_ok (undoes_attributes attributes) rfl) <|
      seq_eq_ok (optional_eq_ok (undoes_option_double hmax) rfl) <|
      seq_eq_ok (optional_eq_ok (undoes_option_double hmin) rfl) <|
      seq_eq_ok (optional_eq_ok (undoes_list fun x hx => undoes_double (hbounds x hx)) rfl) <|
      seq_eq_ok (optional_eq_ok (undoes_list_uint64 bucketCounts) rfl) <|
      seq_eq_ok (optional_eq_ok (undoes_option_double hsum) rfl) <|
      seq_eq_ok (required_eq_ok (undoes_uint64 count) rfl) <|
      seq_eq_ok (optional_eq_ok (undoes_option_instant startTime) rfl) <|
      map_eq_ok (required_eq_ok (undoes_instant time) rfl)

theorem ExponentialBuckets.undoes : ∀ b : ExponentialBuckets,
    ExponentialBuckets.decoder.Undoes ExponentialBuckets.toJson b
  | ⟨offset, bucketCounts⟩ =>
    undoes_record rfl (ExponentialBuckets.canonical_toJson _) fun _ =>
      seq_eq_ok (optional_eq_ok (undoes_list_uint64 bucketCounts) rfl) <|
      map_eq_ok (optional_eq_ok (undoes_int32 offset) rfl)

theorem ExponentialHistogramDataPoint.undoes :
    ∀ {p : ExponentialHistogramDataPoint}, AllFinite p.doubles →
      ExponentialHistogramDataPoint.decoder.Undoes ExponentialHistogramDataPoint.toJson p
  | ⟨time, startTime, count, _, scale, zeroCount, positive, negative, attributes⟩, hsum =>
    undoes_record rfl (ExponentialHistogramDataPoint.canonical_toJson _) fun _ =>
      seq_eq_ok (optional_eq_ok (undoes_attributes attributes) rfl) <|
      seq_eq_ok (optional_eq_ok negative.undoes rfl) <|
      seq_eq_ok (optional_eq_ok positive.undoes rfl) <|
      seq_eq_ok (optional_eq_ok (undoes_uint64 zeroCount) rfl) <|
      seq_eq_ok (optional_eq_ok (undoes_int32 scale) rfl) <|
      seq_eq_ok (optional_eq_ok (undoes_option_double hsum) rfl) <|
      seq_eq_ok (required_eq_ok (undoes_uint64 count) rfl) <|
      seq_eq_ok (optional_eq_ok (undoes_option_instant startTime) rfl) <|
      map_eq_ok (required_eq_ok (undoes_instant time) rfl)

theorem ValueAtQuantile.undoes : ∀ {q : ValueAtQuantile}, AllFinite [q.quantile, q.value] →
    ValueAtQuantile.decoder.Undoes ValueAtQuantile.toJson q
  | ⟨quantile, value⟩, h => by
    obtain ⟨hquantile, hvalue⟩ := AllFinite.cons.mp h
    exact undoes_record rfl (ValueAtQuantile.canonical_toJson _) fun _ =>
      seq_eq_ok (required_eq_ok (undoes_double (AllFinite.cons.mp hvalue).1) rfl) <|
      map_eq_ok (required_eq_ok (undoes_double hquantile) rfl)

theorem SummaryDataPoint.undoes : ∀ {p : SummaryDataPoint}, AllFinite p.doubles →
    SummaryDataPoint.decoder.Undoes SummaryDataPoint.toJson p
  | ⟨time, startTime, count, sum, quantileValues, attributes⟩, h => by
    obtain ⟨hsum, hquantiles⟩ := AllFinite.cons.mp h
    have hquantiles := AllFinite.flatMap.mp hquantiles
    exact undoes_record rfl (SummaryDataPoint.canonical_toJson _) fun _ =>
      seq_eq_ok (optional_eq_ok (undoes_attributes attributes) rfl) <|
      seq_eq_ok (optional_eq_ok
        (undoes_list fun q hq => ValueAtQuantile.undoes (hquantiles q hq)) rfl) <|
      seq_eq_ok (required_eq_ok (undoes_double hsum) rfl) <|
      seq_eq_ok (required_eq_ok (undoes_uint64 count) rfl) <|
      seq_eq_ok (optional_eq_ok (undoes_option_instant startTime) rfl) <|
      map_eq_ok (required_eq_ok (undoes_instant time) rfl)

/-! ## The shapes of data -/

namespace MetricData

/-- The shape is taken out of the members, which are otherwise left as they are. -/
theorem splitMembers_ofMembers {members : List (String × Json)} {name : String} {shape : Shape}
    {src : Source} (hshape : Shape.decoder src (.str name) = .ok shape)
    (hkeys : ∀ m ∈ members, m.1 ≠ shapeKey) :
    splitMembers src none (Draft.ofMembers (members ++ [(shapeKey, .str name)])) =
      .ok (some shape, Draft.ofMembers members) := by
  induction members with
  | nil =>
    simp only [List.nil_append, Draft.ofMembers, Draft.ofJson, splitMembers, hshape]
    rfl
  | cons m rest ih =>
    obtain ⟨key, v⟩ := m
    obtain ⟨hkey, hrest⟩ := List.forall_mem_cons.mp hkeys
    rw [List.cons_append, Draft.ofMembers, splitMembers, if_neg hkey,
      if_pos (Draft.usable_ofJson v), ih hrest]
    rfl

/-- Data that is written with its shape as the last field is read back if its other
fields are. -/
theorem undoes_shape {data : MetricData} (shape : Shape) (members : List (String × Json))
    {name : String} (hencode : data.toJson = .obj (members ++ [(shapeKey, .str name)]))
    (hshape : ∀ src, Shape.decoder src (.str name) = .ok shape)
    (hread : Json.Ascending members →
      shape.dataDecoder .held (.obj (Draft.ofMembers members) .closed) = .ok data) :
    MetricData.decoder.Undoes MetricData.toJson data := fun src => by
  have hcanonical := data.canonical_toJson
  rw [hencode] at hcanonical
  obtain ⟨hascending, hlast⟩ := Json.ascending_concat.mp hcanonical.1
  have hkeys : ∀ m ∈ members, m.1 ≠ shapeKey := fun m hm e => by
    have hlt := hlast m hm
    rw [e, Std.ReflOrd.compare_self] at hlt
    cases hlt
  rw [hencode, Draft.ofJson, MetricData.decoder, splitMembers_ofMembers (hshape src) hkeys]
  exact hread hascending

/-- The data of a metric is read back if all its doubles are finite. -/
theorem undoes {data : MetricData} (h : AllFinite data.doubles) :
    MetricData.decoder.Undoes MetricData.toJson data := by
  cases data with
  | gauge points =>
    have hpoints := undoes_list fun p hp => NumberDataPoint.undoes (AllFinite.flatMap.mp h p hp)
    refine undoes_shape .gauge [("data_points", _)] rfl (fun _ => rfl) fun hascending => ?_
    rw [Shape.dataDecoder]
    exact record_ofMembers hascending <| map_eq_ok (required_eq_ok hpoints rfl)
  | sum points isMonotonic temporality =>
    have hpoints := undoes_list fun p hp => NumberDataPoint.undoes (AllFinite.flatMap.mp h p hp)
    refine undoes_shape .sum [("data_points", _), ("is_monotonic", _), ("temporality", _)] rfl
      (fun _ => rfl) fun hascending => ?_
    rw [Shape.dataDecoder]
    exact record_ofMembers hascending <|
      seq_eq_ok (optional_eq_ok temporality.undoes rfl) <|
      seq_eq_ok (optional_eq_ok (undoes_bool isMonotonic) rfl) <|
      map_eq_ok (required_eq_ok hpoints rfl)
  | histogram points temporality =>
    have hpoints := undoes_list fun p hp =>
      HistogramDataPoint.undoes (AllFinite.flatMap.mp h p hp)
    refine undoes_shape .histogram [("data_points", _), ("temporality", _)] rfl
      (fun _ => rfl) fun hascending => ?_
    rw [Shape.dataDecoder]
    exact record_ofMembers hascending <|
      seq_eq_ok (optional_eq_ok temporality.undoes rfl) <|
      map_eq_ok (required_eq_ok hpoints rfl)
  | exponentialHistogram points temporality =>
    have hpoints := undoes_list fun p hp =>
      ExponentialHistogramDataPoint.undoes (AllFinite.flatMap.mp h p hp)
    refine undoes_shape .exponentialHistogram [("data_points", _), ("temporality", _)] rfl
      (fun _ => rfl) fun hascending => ?_
    rw [Shape.dataDecoder]
    exact record_ofMembers hascending <|
      seq_eq_ok (optional_eq_ok temporality.undoes rfl) <|
      map_eq_ok (required_eq_ok hpoints rfl)
  | summary points =>
    have hpoints := undoes_list fun p hp => SummaryDataPoint.undoes (AllFinite.flatMap.mp h p hp)
    refine undoes_shape .summary [("data_points", _)] rfl (fun _ => rfl) fun hascending => ?_
    rw [Shape.dataDecoder]
    exact record_ofMembers hascending <| map_eq_ok (required_eq_ok hpoints rfl)

end MetricData

theorem Metric.undoes : ∀ {m : Metric}, AllFinite m.doubles →
    Metric.decoder.Undoes Metric.toJson m
  | ⟨name, description, unit, _⟩, hdata =>
    undoes_record rfl (Metric.canonical_toJson _) fun _ =>
      seq_eq_ok (required_eq_ok (MetricData.undoes hdata) rfl) <|
      seq_eq_ok (optional_eq_ok (undoes_string unit) rfl) <|
      seq_eq_ok (optional_eq_ok (undoes_string description) rfl) <|
      map_eq_ok (required_eq_ok (undoes_string name) rfl)

end Telemetry
