import Telemetry.Codec.Batch
import Telemetry.Proofs.Codec.Metrics
import Telemetry.Proofs.Number.Binary64

/-!
# What is decoded is finite

A number that is read is an integer of 64 bits or a finite double, and the double nearest to
such an integer is finite, so that no metric that is decoded holds an infinity or a NaN.

* `Decoder.Yields decode P`: whatever is read has the property `P`; a law for every way to
  build a decoder, as for `Decoder.Undoes`;
* `Reading.seq_eq_ok_iff`: a record that is read, taken apart into its fields, the last one
  first; `Decoder.Yields.of_required`, `of_optional`: what a field is then known to be;
* `Metric.yields_allFinite`: the doubles of a decoded metric are finite.
-/

namespace Telemetry

variable {α β : Type}

theorem exists_of_map_eq_ok {x : Except DecodeError α} {f : α → β} {b : β}
    (h : x.map f = .ok b) : ∃ a, x = .ok a ∧ f a = b := by
  cases x with
  | error e => cases h
  | ok a => exact ⟨a, rfl, Except.ok.inj h⟩

theorem exists_of_bind_eq_ok {x : Except DecodeError α} {f : α → Except DecodeError β} {b : β}
    (h : x.bind f = .ok b) : ∃ a, x = .ok a ∧ f a = .ok b := by
  cases x with
  | error e => cases h
  | ok a => exact ⟨a, rfl, h⟩

/-- Whatever is read has a property. -/
def Decoder.Yields (decode : Decoder α) (P : α → Prop) : Prop :=
  ∀ src d a, decode src d = .ok a → P a

/-! ## Parts of records -/

namespace Reading

theorem map_eq_ok_iff {x : Reading α} {f : α → β} {b : β} :
    f <$> x = .ok b ↔ ∃ a, x = .ok a ∧ f a = b := by
  cases x with
  | error e => exact iff_of_false nofun nofun
  | ok a =>
    constructor
    · intro h
      exact ⟨a, rfl, Except.ok.inj h⟩
    · rintro ⟨_, ⟨⟩, rfl⟩
      rfl

/-- The last field that is read comes first. -/
theorem seq_eq_ok_iff {f : Reading (α → β)} {x : Reading α} {b : β} :
    f <*> x = .ok b ↔ ∃ a, x = .ok a ∧ ∃ g, g a = b ∧ f = .ok g := by
  constructor
  · intro h
    cases f with
    | error e => cases x <;> cases h
    | ok g =>
      cases x with
      | error e => cases h
      | ok a => exact ⟨a, rfl, g, Except.ok.inj h, rfl⟩
  · rintro ⟨a, rfl, g, rfl, rfl⟩
    rfl

theorem eq_ok_of_finish {r : Reading α} {fault : Option (Nat × DecodeError)} {a : α}
    (h : r.finish fault = .ok a) : r = .ok a := by
  cases r with
  | error e => cases fault <;> cases h
  | ok b =>
    cases fault with
    | none => exact congrArg Except.ok (Except.ok.inj h)
    | some e => cases h

end Reading

namespace Decoder.Yields

variable {decode : Decoder α} {P : α → Prop} {fields : Fields} {name : String} {a : α}

theorem of_read (h : decode.Yields P) {found : Nat × Draft}
    (ha : fields.read decode found = .ok a) : P a := by
  rw [Fields.read] at ha
  split at ha
  · next b hb => exact Except.ok.inj ha ▸ h _ _ b hb
  · cases ha

theorem of_required (h : decode.Yields P) (ha : fields.required name decode = .ok a) : P a := by
  rw [Fields.required] at ha
  split at ha
  · exact h.of_read ha
  · cases ha

theorem of_optional (h : decode.Yields P) {default : α}
    (ha : fields.optional name decode default = .ok a) (hdefault : P default) : P a := by
  rw [Fields.optional] at ha
  split at ha
  · exact h.of_read ha
  · exact Except.ok.inj ha ▸ hdefault

/-- A list of records is empty by default. -/
theorem of_optional_list {l : List α} (h : (Decoder.list decode).Yields fun l => ∀ a ∈ l, P a)
    (hl : fields.optional name (.list decode) [] = .ok l) : ∀ a ∈ l, P a :=
  h.of_optional hl fun _ ha => absurd ha List.not_mem_nil

end Decoder.Yields

/-! ## Decoders -/

namespace Decoder.Yields

variable {decode : Decoder α} {P : α → Prop}

theorem record {names : List String} {build : Fields → Reading α}
    (h : ∀ fields a, build fields = .ok a → P a) : (Decoder.record names build).Yields P :=
  fun src d a ha => by
    unfold Decoder.record at ha
    split at ha
    · exact h _ a (Reading.eq_ok_of_finish ha)
    · exact h _ a (Reading.eq_ok_of_finish ha)
    · cases ha

theorem option (h : decode.Yields P) : (Decoder.option decode).Yields fun o => ∀ a ∈ o, P a :=
  fun src d o ho => by
    unfold Decoder.option at ho
    split at ho
    · cases ho
      nofun
    · obtain ⟨a, ha, rfl⟩ := exists_of_map_eq_ok ho
      exact fun b hb => Option.some.inj hb ▸ h src d a ha

theorem items (h : decode.Yields P) {src : Source} {ds : List Draft} {l : List α}
    (hl : Decoder.items decode src ds = .ok l) : ∀ a ∈ l, P a := by
  induction ds generalizing l with
  | nil =>
    cases hl
    exact fun _ h => absurd h List.not_mem_nil
  | cons d rest ih =>
    rw [Decoder.items] at hl
    split at hl
    · cases hl
    · next a ha =>
      obtain ⟨as, has, rfl⟩ := exists_of_map_eq_ok hl
      exact List.forall_mem_cons.mpr ⟨h src d a ha, ih has⟩

theorem list (h : decode.Yields P) : (Decoder.list decode).Yields fun l => ∀ a ∈ l, P a :=
  fun src d l hl => by
    unfold Decoder.list at hl
    split at hl
    · obtain ⟨as, has, hend⟩ := exists_of_bind_eq_ok hl
      rw [Decoder.atEnd] at hend
      split at hend
      · exact Except.ok.inj hend ▸ items h has
      · cases hend
    · cases hl

/-- What one of several alternatives reads has a property that all of them give. -/
theorem variants {alternatives : List (Variant α)}
    (h : ∀ v ∈ alternatives, (∀ a, v.bare = .ok a → P a) ∧ v.decode.Yields P) :
    (Decoder.variants alternatives).Yields P := by
  have hfound {name : String} {v : Variant α} (hv : findVariant alternatives name = .ok v) :
      (∀ a, v.bare = .ok a → P a) ∧ v.decode.Yields P := by
    rw [findVariant] at hv
    split at hv
    · next w hw => exact Except.ok.inj hv ▸ h w (List.mem_of_find?_eq_some hw)
    · cases hv
  have hbare {name : String} {a : α}
      (ha : (findVariant alternatives name).bind (·.bare) = .ok a) : P a := by
    obtain ⟨v, hv, hva⟩ := exists_of_bind_eq_ok ha
    exact (hfound hv).1 a hva
  have htext : (variantsOfText alternatives).Yields P := fun src d a ha => by
    unfold variantsOfText at ha
    split at ha
    · exact hbare ha
    · obtain ⟨v, hv, ha⟩ := exists_of_bind_eq_ok ha
      obtain ⟨b, hb, ha⟩ := exists_of_bind_eq_ok ha
      have hba : b = a := by
        unfold atEnd at ha
        split at ha
        · split at ha
          · exact Except.ok.inj ha
          · cases ha
        · cases ha
      exact hba ▸ (hfound hv).2 _ _ b hb
    · cases ha
    · cases ha
  have hvalue : (variantsOfValue alternatives).Yields P := fun src d a ha => by
    unfold variantsOfValue at ha
    split at ha
    · exact hbare ha
    · obtain ⟨v, hv, ha⟩ := exists_of_bind_eq_ok ha
      exact (hfound hv).2 _ _ a ha
    · cases ha
    · cases ha
  intro src d a ha
  cases src with
  | text => exact htext _ d a ha
  | _ => exact hvalue _ d a ha

/-- Every double that is read is finite. -/
theorem double : Decoder.double.Yields fun x => x.isFinite = true := fun src d x hx => by
  unfold Decoder.double at hx
  split at hx
  · next y => exact Except.ok.inj hx ▸ y.2
  · next n => exact Except.ok.inj hx ▸ Binary64.isFinite_ofInt n.2
  · cases hx

end Decoder.Yields

/-! ## Metrics -/

open Reading (map_eq_ok_iff seq_eq_ok_iff)

theorem NumberValue.yields_allFinite : NumberValue.decoder.Yields fun n => AllFinite n.doubles :=
  fun src d n hn => by
    unfold NumberValue.decoder at hn
    split at hn
    · split at hn
      · cases hn
        exact AllFinite.nil
      · next x hx _ =>
        cases hn
        exact AllFinite.cons.mpr ⟨Decoder.Yields.double _ _ x hx, AllFinite.nil⟩
      · cases hn
    · cases hn

theorem Decoder.Yields.option_double :
    (Decoder.option .double).Yields fun o => AllFinite o.toList :=
  fun src d o ho => AllFinite.toList.mpr (Yields.double.option src d o ho)

theorem NumberDataPoint.yields_allFinite :
    NumberDataPoint.decoder.Yields fun p => AllFinite p.value.doubles := by
  refine .record fun fields p hp => ?_
  simp only [seq_eq_ok_iff, map_eq_ok_iff] at hp
  obtain ⟨attributes, -, _, rfl,
    value, hvalue, _, rfl,
    startTime, -, _, rfl,
    time, -, rfl⟩ := hp
  exact NumberValue.yields_allFinite.of_required hvalue

theorem HistogramDataPoint.yields_allFinite :
    HistogramDataPoint.decoder.Yields fun p => AllFinite p.doubles := by
  refine .record fun fields p hp => ?_
  simp only [seq_eq_ok_iff, map_eq_ok_iff] at hp
  obtain ⟨attributes, -, _, rfl,
    max, hmax, _, rfl,
    min, hmin, _, rfl,
    explicitBounds, hbounds, _, rfl,
    bucketCounts, -, _, rfl,
    sum, hsum, _, rfl,
    count, -, _, rfl,
    startTime, -, _, rfl,
    time, -, rfl⟩ := hp
  have hoption := Decoder.Yields.option_double
  have hsum : AllFinite sum.toList := hoption.of_optional hsum .nil
  have hbounds : AllFinite explicitBounds := Decoder.Yields.double.list.of_optional_list hbounds
  have hmin : AllFinite min.toList := hoption.of_optional hmin .nil
  have hmax : AllFinite max.toList := hoption.of_optional hmax .nil
  simp only [HistogramDataPoint.doubles, AllFinite.append]
  exact ⟨⟨⟨hsum, hbounds⟩, hmin⟩, hmax⟩

theorem ExponentialHistogramDataPoint.yields_allFinite :
    ExponentialHistogramDataPoint.decoder.Yields fun p => AllFinite p.doubles := by
  refine .record fun fields p hp => ?_
  simp only [seq_eq_ok_iff, map_eq_ok_iff] at hp
  obtain ⟨attributes, -, _, rfl,
    negative, -, _, rfl,
    positive, -, _, rfl,
    zeroCount, -, _, rfl,
    scale, -, _, rfl,
    sum, hsum, _, rfl,
    count, -, _, rfl,
    startTime, -, _, rfl,
    time, -, rfl⟩ := hp
  exact Decoder.Yields.option_double.of_optional hsum .nil

theorem ValueAtQuantile.yields_allFinite :
    ValueAtQuantile.decoder.Yields fun q => AllFinite [q.quantile, q.value] := by
  refine .record fun fields q hq => ?_
  simp only [seq_eq_ok_iff, map_eq_ok_iff] at hq
  obtain ⟨value, hvalue, _, rfl, quantile, hquantile, rfl⟩ := hq
  simp only [AllFinite.cons]
  exact ⟨Decoder.Yields.double.of_required hquantile, Decoder.Yields.double.of_required hvalue,
    .nil⟩

theorem SummaryDataPoint.yields_allFinite :
    SummaryDataPoint.decoder.Yields fun p => AllFinite p.doubles := by
  refine .record fun fields p hp => ?_
  simp only [seq_eq_ok_iff, map_eq_ok_iff] at hp
  obtain ⟨attributes, -, _, rfl,
    quantileValues, hquantiles, _, rfl,
    sum, hsum, _, rfl,
    count, -, _, rfl,
    startTime, -, _, rfl,
    time, -, rfl⟩ := hp
  have hsum : sum.isFinite = true := Decoder.Yields.double.of_required hsum
  have hquantiles := ValueAtQuantile.yields_allFinite.list.of_optional_list hquantiles
  exact AllFinite.cons.mpr ⟨hsum, AllFinite.flatMap.mpr hquantiles⟩

/-- Data of every shape is read with finite doubles. -/
theorem MetricData.Shape.yields_allFinite (shape : Shape) :
    shape.dataDecoder.Yields fun data => AllFinite data.doubles := by
  cases shape with
  | gauge =>
    rw [Shape.dataDecoder]
    refine .record fun fields data h => ?_
    obtain ⟨points, hpoints, rfl⟩ := map_eq_ok_iff.mp h
    exact AllFinite.flatMap.mpr (NumberDataPoint.yields_allFinite.list.of_required hpoints)
  | sum =>
    rw [Shape.dataDecoder]
    refine .record fun fields data h => ?_
    simp only [seq_eq_ok_iff, map_eq_ok_iff] at h
    obtain ⟨temporality, -, _, rfl,
      isMonotonic, -, _, rfl,
      points, hpoints, rfl⟩ := h
    exact AllFinite.flatMap.mpr (NumberDataPoint.yields_allFinite.list.of_required hpoints)
  | histogram =>
    rw [Shape.dataDecoder]
    refine .record fun fields data h => ?_
    simp only [seq_eq_ok_iff, map_eq_ok_iff] at h
    obtain ⟨temporality, -, _, rfl, points, hpoints, rfl⟩ := h
    exact AllFinite.flatMap.mpr (HistogramDataPoint.yields_allFinite.list.of_required hpoints)
  | exponentialHistogram =>
    rw [Shape.dataDecoder]
    refine .record fun fields data h => ?_
    simp only [seq_eq_ok_iff, map_eq_ok_iff] at h
    obtain ⟨temporality, -, _, rfl, points, hpoints, rfl⟩ := h
    exact AllFinite.flatMap.mpr
      (ExponentialHistogramDataPoint.yields_allFinite.list.of_required hpoints)
  | summary =>
    rw [Shape.dataDecoder]
    refine .record fun fields data h => ?_
    obtain ⟨points, hpoints, rfl⟩ := map_eq_ok_iff.mp h
    exact AllFinite.flatMap.mpr (SummaryDataPoint.yields_allFinite.list.of_required hpoints)

theorem MetricData.yields_allFinite :
    MetricData.decoder.Yields fun data => AllFinite data.doubles := fun src d data h => by
  unfold MetricData.decoder at h
  split at h
  · obtain ⟨⟨shape, others⟩, -, h⟩ := exists_of_bind_eq_ok h
    cases shape with
    | none => cases h
    | some shape =>
      dsimp only at h
      split at h
      · exact shape.yields_allFinite _ _ data h
      · cases h
  · obtain ⟨shape, -, h⟩ := exists_of_bind_eq_ok h
    split at h
    · exact shape.yields_allFinite _ _ data h
    · cases h
  · cases h
  · cases h

/-- Every metric is read with finite doubles. -/
theorem Metric.yields_allFinite : Metric.decoder.Yields fun m => AllFinite m.doubles := by
  refine .record fun fields m hm => ?_
  simp only [seq_eq_ok_iff, map_eq_ok_iff] at hm
  obtain ⟨data, hdata, _, rfl,
    unit, -, _, rfl,
    description, -, _, rfl,
    name, -, rfl⟩ := hm
  exact MetricData.yields_allFinite.of_required hdata

end Telemetry
