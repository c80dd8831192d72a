import Telemetry.Proofs.List.EraseDups
import Telemetry.Proofs.Store.Arrivals
import Telemetry.Proofs.Store.View
import Telemetry.Proofs.Traces.Represents

/-!
# The shelf of spans and its index

What is held on the shelf of spans and what is in its index are changed separately, but
they never disagree: there is one list of records that both come from.

* `SpanShelf.Keeps s rs`: the index represents the records `rs`, and what is held is the
  representative of each of their pairs, in the order in which the pairs came up;
* `Keeps.take`: the records after one span more;
* `Keeps.foldl_take`: the records after a batch, which are those before and the fresh ones
  of the batch (`SpanShelf.fresh`);
* `Keeps.rotate`: the records after a rotation, which are those of the retained pairs.
-/

namespace Telemetry

/-- The list with a record in the place of the one of its pair. -/
def SpanRecord.reseat (held : List SpanRecord) (r : SpanRecord) : List SpanRecord :=
  held.map fun b => if b.pair = r.pair then r else b

open SpanRecord (reseat)

theorem map_pair_reseat (held : List SpanRecord) (r : SpanRecord) :
    (reseat held r).map (·.pair) = held.map (·.pair) := by
  rw [reseat, List.map_map]
  refine List.map_congr_left fun b _ => ?_
  show (if b.pair = r.pair then r else b).pair = b.pair
  split
  · rename_i e
    exact e.symm
  · rfl

theorem mem_reseat {held : List SpanRecord} {r b : SpanRecord} :
    b ∈ reseat held r ↔ (b = r ∧ r.pair ∈ held.map (·.pair)) ∨ (b ∈ held ∧ b.pair ≠ r.pair) := by
  rw [reseat, List.mem_map]
  constructor
  · rintro ⟨c, hc, rfl⟩
    split
    · rename_i e
      exact .inl ⟨rfl, List.mem_map.mpr ⟨c, hc, e⟩⟩
    · rename_i e
      exact .inr ⟨hc, e⟩
  · rintro (⟨rfl, hp⟩ | ⟨hb, e⟩)
    · obtain ⟨c, hc, e⟩ := List.mem_map.mp hp
      exact ⟨c, hc, if_pos e⟩
    · exact ⟨b, hb, if_neg e⟩

/-- Where no pair comes up twice, that is the list with one place changed. -/
theorem reseat_eq_set {held : List SpanRecord} {r b : SpanRecord} {i : Nat} (hi : held[i]? = some b)
    (hn : (held.map (·.pair)).Nodup) (e : r.pair = b.pair) : reseat held r = held.set i r := by
  rw [set_eq_map r hi hn, reseat, e]

namespace SpanShelf

/-- The pairs that are held, in the order in which they came up. -/
def pairs (s : SpanShelf) : List Pair := s.held.map (·.pair)

/-- Index and shelf come from the same records: the index represents them, and what is
held is the representative of each of their pairs. -/
structure Keeps (s : SpanShelf) (rs : List SpanRecord) : Prop where
  index : s.index.Represents (.own rs)
  pairs : s.pairs = (rs.map (·.pair)).eraseDups
  roots : ∀ r ∈ s.held, s.index.representative? r.pair = some r
  serials : (rs.map (·.serial)).Pairwise (· < ·)
  serials_lt : ∀ r ∈ rs, r.serial < s.nextSerial

theorem keeps_empty (limit : Nat) : (empty limit).Keeps [] where
  index := TraceIndex.represents_empty
  pairs := rfl
  roots _ hr := absurd hr List.not_mem_nil
  serials := List.Pairwise.nil
  serials_lt _ hr := absurd hr List.not_mem_nil

variable {s : SpanShelf} {rs : List SpanRecord}

namespace Keeps

variable (h : s.Keeps rs)
include h

theorem nodup_pairs : s.pairs.Nodup := h.pairs ▸ nodup_eraseDups _

theorem mem_pairs {p : Pair} : p ∈ s.pairs ↔ p ∈ rs.map (·.pair) := by
  rw [h.pairs, List.mem_eraseDups]

theorem mem_of_held {r : SpanRecord} (hr : r ∈ s.held) : r ∈ rs := by
  obtain ⟨root, hroot, rfl⟩ := Option.map_eq_some_iff.mp (h.roots r hr)
  have hm := h.index.mem_of_root? hroot
  rw [Ledger.ofPair_own] at hm
  exact List.mem_of_mem_filter hm

theorem eq_of_pair {r r' : SpanRecord} (hr : r ∈ s.held) (hr' : r' ∈ s.held)
    (e : r.pair = r'.pair) : r = r' :=
  List.inj_on_of_nodup_map h.nodup_pairs hr hr' e

theorem nodup_spanIds : (rs.map (·.spanId)).Nodup := Ledger.ids_own rs ▸ h.index.nodup

theorem eq_of_spanId {r r' : SpanRecord} (hr : r ∈ rs) (hr' : r' ∈ rs)
    (e : r.spanId = r'.spanId) : r = r' :=
  List.inj_on_of_nodup_map h.nodup_spanIds hr hr' e

theorem eq_of_serial {r r' : SpanRecord} (hr : r ∈ rs) (hr' : r' ∈ rs)
    (e : r.serial = r'.serial) : r = r' :=
  List.inj_on_of_nodup_map (h.serials.imp Nat.ne_of_lt) hr hr' e

end Keeps

/-! ## One span more -/

/-- A record in the place of the representative of its pair. -/
theorem roots_reseat {t t' : TraceIndex} {held : List SpanRecord} {r : SpanRecord}
    (hroots : ∀ b ∈ held, t.representative? b.pair = some b)
    (ht : ∀ q, t'.representative? q = if r.pair = q then some r else t.representative? q) :
    ∀ b ∈ reseat held r, t'.representative? b.pair = some b := by
  intro b hb
  rcases mem_reseat.mp hb with ⟨rfl, -⟩ | ⟨hb, e⟩
  · rw [ht, if_pos rfl]
  · rw [ht, if_neg (Ne.symm e)]
    exact hroots b hb

/-- The span that is replaced is found by its identifier and trace. -/
theorem Keeps.replaceIn_eq (h : s.Keeps rs) {r : SpanRecord} {root : Representative}
    (hroot : s.index.root? r.pair = some root) :
    replaceIn s.held r root.span.spanId = reseat s.held r := by
  have hm := h.index.mem_of_root? hroot
  rw [Ledger.ofPair_own, List.mem_filter, decide_eq_true_eq] at hm
  refine replaceFirst_eq_map r (fun b hb => ?_) h.nodup_pairs
  rw [Bool.and_eq_true, beq_iff_eq, beq_iff_eq]
  constructor
  · rintro ⟨e, -⟩
    rw [h.eq_of_spanId (h.mem_of_held hb) hm.1 e]
    exact hm.2
  · intro e
    have hb' := h.roots b hb
    rw [TraceIndex.representative?, e, hroot] at hb'
    exact ⟨congrArg (·.spanId) (Option.some.inj hb').symm, congrArg (·.traceId) e⟩

/-- A span is held by what its insertion into the index did. -/
theorem held_take_of_outcome {a : Arrival Span} {outcome : InsertOutcome}
    (h : (s.index.insert (s.record a).service (s.record a)).2 = outcome) :
    (s.take a).held =
      if outcome.isNewPair then s.held ++ [s.record a]
      else outcome.replaced.elim s.held (replaceIn s.held (s.record a)) := by
  subst h
  rcases hi : s.index.insert (s.record a).service (s.record a) with ⟨index, isNewPair, replaced⟩
  simp only [take, hi]
  cases replaced <;> rfl

/-- What a span does to what is held: nothing, if its identifier is taken; else it opens a
pair, or takes the place of the representative of its pair, or leaves it. -/
theorem Keeps.held_take (h : s.Keeps rs) (a : Arrival Span) :
    let r := s.record a
    (r.spanId ∈ rs.map (·.spanId) ∧ (s.take a).index = s.index ∧ (s.take a).held = s.held) ∨
    (r.spanId ∉ rs.map (·.spanId) ∧ r.pair ∉ rs.map (·.pair) ∧ (s.take a).held = s.held ++ [r] ∧
      ∀ q, (s.take a).index.representative? q =
        if r.pair = q then some r else s.index.representative? q) ∨
    (r.spanId ∉ rs.map (·.spanId) ∧ r.pair ∈ rs.map (·.pair) ∧
      (((s.take a).held = s.held ∧
          ∀ q, (s.take a).index.representative? q = s.index.representative? q) ∨
        ((s.take a).held = reseat s.held r ∧
          ∀ q, (s.take a).index.representative? q =
            if r.pair = q then some r else s.index.representative? q))) := by
  intro r
  have hindex : (s.take a).index = (s.index.insert r.service r).1 := rfl
  have hcases := h.index.insert_cases r.service r
  rw [Ledger.ids_own] at hcases
  rcases hcases with ⟨hi, e⟩ | ⟨hi, hp, ho, hroot⟩ | ⟨hi, hp, root, hr, ho, hroot⟩
  · refine .inl ⟨hi, ?_, ?_⟩
    · rw [hindex, e]
    · exact held_take_of_outcome (congrArg (·.2) e)
  · refine .inr (.inl ⟨hi, Ledger.ofPair_own_eq_nil.mp hp, ?_, fun q => ?_⟩)
    · exact held_take_of_outcome ho
    · rw [hindex, TraceIndex.representative?, hroot, apply_ite (Option.map _)]
      rfl
  · refine .inr (.inr ⟨hi, by_contra fun hn => hp (Ledger.ofPair_own_eq_nil.mpr hn), ?_⟩)
    by_cases hy : root.yieldsTo r
    · refine .inr ⟨?_, fun q => ?_⟩
      · rw [held_take_of_outcome ho, if_pos hy]
        exact h.replaceIn_eq hr
      · simp only [hy, and_true] at hroot
        rw [hindex, TraceIndex.representative?, hroot, apply_ite (Option.map _)]
        rfl
    · refine .inl ⟨?_, fun q => ?_⟩
      · rw [held_take_of_outcome ho, if_neg hy]
        rfl
      · rw [hindex, TraceIndex.representative?, hroot, if_neg fun e => hy e.2]
        rfl

theorem Keeps.index_take (h : s.Keeps rs) (a : Arrival Span) :
    (s.take a).index.Represents (.own (Ledger.enroll rs (s.record a))) :=
  Ledger.insert_own rs _ ▸ h.index.insert _ _

theorem Keeps.serials_take (h : s.Keeps rs) (a : Arrival Span) :
    ((Ledger.enroll rs (s.record a)).map (·.serial)).Pairwise (· < ·) ∧
      ∀ r ∈ Ledger.enroll rs (s.record a), r.serial < (s.take a).nextSerial := by
  have hlater : ∀ r ∈ rs, r.serial < (s.take a).nextSerial := fun r hr =>
    Nat.lt_succ_of_lt (h.serials_lt r hr)
  rw [Ledger.enroll]
  split
  · exact ⟨h.serials, hlater⟩
  · rw [List.map_append, List.pairwise_append]
    refine ⟨⟨h.serials, List.pairwise_singleton _ _, fun n hn m hm => ?_⟩, fun r hr => ?_⟩
    · obtain ⟨r, hr, rfl⟩ := List.mem_map.mp hn
      rw [List.mem_singleton.mp hm]
      exact h.serials_lt r hr
    · rcases List.mem_append.mp hr with hr | hr
      · exact hlater r hr
      · rw [List.mem_singleton.mp hr]
        exact Nat.lt_succ_self _

theorem Keeps.take (h : s.Keeps rs) (a : Arrival Span) :
    (s.take a).Keeps (Ledger.enroll rs (s.record a)) := by
  obtain ⟨hserials, hlt⟩ := h.serials_take a
  suffices hs : (s.take a).pairs = ((Ledger.enroll rs (s.record a)).map (·.pair)).eraseDups ∧
      ∀ b ∈ (s.take a).held, (s.take a).index.representative? b.pair = some b from
    ⟨h.index_take a, hs.1, hs.2, hserials, hlt⟩
  rw [SpanShelf.pairs, Ledger.enroll]
  rcases h.held_take a with ⟨hi, ht, hheld⟩ | ⟨hi, hp, hheld, hroot⟩ | ⟨hi, hp, hcase⟩
  · rw [if_pos hi, hheld, ht]
    exact ⟨h.pairs, h.roots⟩
  · rw [if_neg hi, hheld, List.map_append, List.map_append, List.map_cons, List.map_nil,
      eraseDups_concat, if_neg hp]
    refine ⟨congrArg (· ++ _) h.pairs, fun b hb => ?_⟩
    rw [hroot]
    rcases List.mem_append.mp hb with hb | hb
    · have hne : (s.record a).pair ≠ b.pair := fun e =>
        hp (h.mem_pairs.mp (e ▸ List.mem_map_of_mem hb))
      rw [if_neg hne]
      exact h.roots b hb
    · rw [List.mem_singleton.mp hb, if_pos rfl]
  · rw [if_neg hi, List.map_append, List.map_cons, List.map_nil, eraseDups_concat, if_pos hp]
    rcases hcase with ⟨hheld, hroot⟩ | ⟨hheld, hroot⟩
    · rw [hheld]
      exact ⟨h.pairs, fun b hb => (hroot _).trans (h.roots b hb)⟩
    · rw [hheld, map_pair_reseat]
      exact ⟨h.pairs, roots_reseat h.roots hroot⟩

/-! ## A batch of spans -/

/-- The records that the spans of a batch are made into. -/
def arriving (s : SpanShelf) (groups : List (Group Span)) : List SpanRecord :=
  numbered .ofArrival s.nextSerial (Group.flatten groups)

/-- The spans of a batch that are taken in: those whose identifiers are not in the index,
and of several with the same identifier the first. -/
def fresh (s : SpanShelf) (groups : List (Group Span)) : List SpanRecord :=
  ((s.arriving groups).filter fun r => (s.index.span? r.spanId).isNone).eraseDupsBy
    fun r r' => r.spanId == r'.spanId

theorem Keeps.foldl_enroll (h : s.Keeps rs) (arrivals : List (Arrival Span)) :
    (arrivals.foldl SpanShelf.take s).Keeps
      ((numbered .ofArrival s.nextSerial arrivals).foldl Ledger.enroll rs) := by
  induction arrivals generalizing s rs with
  | nil => exact h
  | cons a arrivals ih =>
    rw [numbered_cons]
    exact ih (h.take a)

theorem Keeps.span?_eq_none (h : s.Keeps rs) {i : SpanId} :
    s.index.span? i = none ↔ i ∉ rs.map (·.spanId) := by
  rw [h.index.span?_eq_none, Ledger.ids_own]

theorem Keeps.append_fresh (h : s.Keeps rs) (groups : List (Group Span)) :
    rs ++ s.fresh groups = (s.arriving groups).foldl Ledger.enroll rs := by
  have hfresh : (s.arriving groups).filter (fun r => r.spanId ∉ rs.map (·.spanId)) =
      (s.arriving groups).filter fun r => (s.index.span? r.spanId).isNone :=
    List.filter_congr fun r _ => by
      rw [Bool.eq_iff_iff, decide_eq_true_eq, Option.isNone_iff_eq_none, h.span?_eq_none]
  rw [fresh, ← hfresh, ← Ledger.foldl_enroll]

theorem Keeps.foldl_take (h : s.Keeps rs) (groups : List (Group Span)) :
    ((Group.flatten groups).foldl SpanShelf.take s).Keeps (rs ++ s.fresh groups) := by
  rw [h.append_fresh]
  exact h.foldl_enroll _

/-- After a batch all its identifiers are known, whether its spans were taken in or not. -/
theorem Keeps.mem_ids_append_fresh (h : s.Keeps rs) (groups : List (Group Span)) {i : SpanId} :
    i ∈ (rs ++ s.fresh groups).map (·.spanId) ↔
      i ∈ rs.map (·.spanId) ∨ i ∈ (Group.flatten groups).map (·.record.spanId) := by
  have hids : (s.arriving groups).map (·.spanId) =
      (Group.flatten groups).map (·.record.spanId) := by
    refine map_numbered ?_ _ _
    exact fun _ _ => rfl
  rw [h.append_fresh, Ledger.mem_ids_foldl_enroll, hids]

theorem limit_foldl_take (s : SpanShelf) (arrivals : List (Arrival Span)) :
    (arrivals.foldl take s).limit = s.limit :=
  foldl_unchanged SpanShelf.limit take (fun _ _ => rfl) arrivals s

/-! ## Rotation -/

theorem pairs_rotate (s : SpanShelf) : s.rotate.pairs = retained s.limit s.pairs :=
  map_retained ..

theorem Keeps.mem_pairs_rotate (h : s.Keeps rs) {r : SpanRecord} (hr : r ∈ rs) :
    r.pair ∈ s.rotate.pairs ↔ r.pair ∉ (overflow s.limit s.held).map (·.pair) := by
  rw [pairs_rotate, map_overflow]
  exact mem_retained_iff h.nodup_pairs (h.mem_pairs.mpr (List.mem_map_of_mem hr))

theorem Keeps.rotate (h : s.Keeps rs) :
    s.rotate.Keeps (rs.filter fun r => r.pair ∈ s.rotate.pairs) where
  index := by
    have hdelete := h.index.delete (overflow s.limit s.held)
    rw [Ledger.delete_own] at hdelete
    rwa [List.filter_congr fun r hr => decide_eq_decide.mpr (h.mem_pairs_rotate hr)]
  pairs := by
    have hcomm : (rs.filter fun r => r.pair ∈ s.rotate.pairs).map (·.pair) =
        (rs.map (·.pair)).filter fun p => p ∈ s.rotate.pairs := by
      rw [List.filter_map]
      rfl
    rw [hcomm, eraseDups_filter, ← h.pairs, pairs_rotate]
    exact (filter_mem_retained s.limit h.nodup_pairs).symm
  roots r hr := by
    have hm : r ∈ s.held := List.mem_of_mem_drop hr
    have hp : r.pair ∈ s.rotate.pairs := List.mem_map_of_mem hr
    have hroot := h.index.root?_delete (overflow s.limit s.held) r.pair
    rw [if_neg ((h.mem_pairs_rotate (h.mem_of_held hm)).mp hp)] at hroot
    exact (congrArg (Option.map _) hroot).trans (h.roots r hm)
  serials := h.serials.sublist (List.filter_sublist.map _)
  serials_lt r hr := h.serials_lt r (List.mem_of_mem_filter hr)

end SpanShelf

end Telemetry
