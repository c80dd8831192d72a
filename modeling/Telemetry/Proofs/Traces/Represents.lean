import Telemetry.Proofs.Traces.Ledger
import Telemetry.Proofs.Traces.Readers

/-!
# An index of spans represents a ledger

`TraceIndex.Represents t l`: what the index gives is what the ledger gives, and no
entry is empty. Every operation of the index keeps this up, with the ledger that the
same operation makes:

* `Represents.insert`, with `Represents.insert_cases` for the outcome and the
  representatives;
* `Represents.delete`, with `Represents.root?_delete`;
* `Represents.recalculate`.
-/

namespace Telemetry

namespace TraceIndex

/-- The index gives what the ledger gives. The representative of a pair is one of its
spans. -/
structure Represents (t : TraceIndex) (l : Ledger) : Prop where
  nodup : l.ids.Nodup
  span? : ∀ i, t.span? i = l.span? i
  spansOfTrace? : ∀ traceId, t.spansOfTrace? traceId = filled (l.ofTrace traceId)
  spansOfPair? : ∀ p, t.spansOfPair? p = filled (l.ofPair p)
  hasError? : ∀ p, t.hasError? p = (filled (l.ofPair p)).map fun rs => rs.any (·.hasError)
  root : ∀ p, l.ofPair p ≠ [] → ∃ root, t.root? p = some root ∧ root.span ∈ l.ofPair p
  noRoot : ∀ p, l.ofPair p = [] → t.root? p = none
  byService : t.byService.Pruned
  errors : t.errors.Pruned
  representatives : t.representatives.Pruned

theorem represents_empty : empty.Represents [] where
  nodup := List.nodup_nil
  span? i := by simp [TraceIndex.span?, empty, Ledger.span?]
  spansOfTrace? traceId := by simp [TraceIndex.spansOfTrace?, empty, Ledger.ofTrace]
  spansOfPair? p := Nested.at?_empty ..
  hasError? p := Nested.at?_empty ..
  root p h := absurd rfl h
  noRoot p _ := Nested.at?_empty ..
  byService := Nested.pruned_empty
  errors := Nested.pruned_empty
  representatives := Nested.pruned_empty

variable {t : TraceIndex} {l : Ledger}

theorem Represents.span?_eq_none (h : t.Represents l) {i : SpanId} :
    t.span? i = none ↔ i ∉ l.ids := by
  rw [h.span?]
  exact Ledger.span?_eq_none

theorem Represents.isSome_span? (h : t.Represents l) {i : SpanId} :
    (t.span? i).isSome ↔ i ∈ l.ids := by
  rw [← not_iff_not, ← h.span?_eq_none]
  simp

theorem Represents.mem_of_root? (h : t.Represents l) {p : Pair} {root : Representative}
    (hr : t.root? p = some root) : root.span ∈ l.ofPair p := by
  by_cases hp : l.ofPair p = []
  · rw [h.noRoot p hp] at hr
    cases hr
  · obtain ⟨root', hr', hm⟩ := h.root p hp
    rw [hr] at hr'
    exact Option.some.inj hr' ▸ hm

/-- No two spans of a pair have one identifier. -/
theorem Represents.eq_of_spanId (h : t.Represents l) {p : Pair} {r r' : SpanRecord}
    (hr : r ∈ l.ofPair p) (hr' : r' ∈ l.ofPair p) (e : r.spanId = r'.spanId) : r = r' := by
  obtain ⟨f, hf, rfl, -⟩ := Ledger.mem_ofPair.mp hr
  obtain ⟨f', hf', rfl, -⟩ := Ledger.mem_ofPair.mp hr'
  rw [Ledger.eq_of_spanId h.nodup hf hf' e]

/-! ## Insertion -/

variable {service : String} {r : SpanRecord}

theorem Represents.insert_new (h : t.Represents l) (hi : r.spanId ∉ l.ids)
    (hp : l.ofPair ⟨r.traceId, service⟩ = []) :
    ((t.enter r).openPair service r).Represents (l ++ [⟨service, r⟩]) where
  nodup := Ledger.nodup_ids_concat service h.nodup hi
  span? i := by rw [span?_openPair, span?_enter, Ledger.span?_concat service hi, h.span?]
  spansOfTrace? traceId := by
    rw [spansOfTrace?_openPair, spansOfTrace?_enter, Ledger.ofTrace_concat, h.spansOfTrace?]
    split <;> simp
  spansOfPair? q := by
    rw [spansOfPair?_openPair, spansOfPair?_enter, Ledger.ofPair_concat, h.spansOfPair?]
    split
    · rename_i e
      rw [← e, hp]
      rfl
    · rfl
  hasError? q := by
    rw [hasError?_openPair, hasError?_enter, Ledger.ofPair_concat, h.hasError?]
    split
    · rename_i e
      rw [← e, hp]
      simp [filled]
    · rfl
  root q hq := by
    rw [root?_openPair, root?_enter]
    rw [Ledger.ofPair_concat] at hq ⊢
    split
    · exact ⟨_, rfl, by simp [Representative.choose]⟩
    · rename_i e
      rw [if_neg e] at hq
      exact h.root q hq
  noRoot q hq := by
    rw [root?_openPair, root?_enter]
    rw [Ledger.ofPair_concat] at hq
    split
    · rename_i e
      simp [e] at hq
    · rename_i e
      rw [if_neg e] at hq
      exact h.noRoot q hq
  byService := h.byService.put _ _ _
  errors := h.errors.put _ _ _
  representatives := h.representatives.put _ _ _

/-- Another span of a pair as its representative. -/
theorem Represents.setRoot (h : t.Represents l) {p : Pair} {root : Representative}
    (hm : root.span ∈ l.ofPair p) : (t.setRoot p root).Represents l :=
  { h with
    root q hq := by
      rw [root?_setRoot]
      split
      · rename_i e
        exact ⟨_, rfl, e ▸ hm⟩
      · exact h.root q hq
    noRoot q hq := by
      rw [root?_setRoot, if_neg]
      · exact h.noRoot q hq
      · rintro rfl
        rw [hq] at hm
        cases hm
    representatives := h.representatives.put _ _ _ }

theorem Represents.joinPair (h : t.Represents l) (hi : r.spanId ∉ l.ids)
    (hp : l.ofPair ⟨r.traceId, service⟩ ≠ []) :
    ((t.enter r).joinPair service (l.ofPair ⟨r.traceId, service⟩) r).Represents
      (l ++ [⟨service, r⟩]) where
  nodup := Ledger.nodup_ids_concat service h.nodup hi
  span? i := by rw [span?_joinPair, span?_enter, Ledger.span?_concat service hi, h.span?]
  spansOfTrace? traceId := by
    rw [spansOfTrace?_joinPair, spansOfTrace?_enter, Ledger.ofTrace_concat, h.spansOfTrace?]
    split <;> simp
  spansOfPair? q := by
    rw [spansOfPair?_joinPair, spansOfPair?_enter, Ledger.ofPair_concat, h.spansOfPair?]
    split
    · rename_i e
      rw [← e, filled_concat]
    · rfl
  hasError? q := by
    rw [hasError?_joinPair, hasError?_enter, Ledger.ofPair_concat, h.hasError?]
    by_cases e : (⟨r.traceId, service⟩ : Pair) = q
    · rw [if_pos e, filled_concat, ← e, filled_of_ne_nil hp]
      cases hr : r.hasError <;> simp [hr]
    · simp only [e, if_false, false_and]
  root q hq := by
    rw [root?_joinPair, root?_enter]
    rw [Ledger.ofPair_concat] at hq ⊢
    split
    · rename_i e
      obtain ⟨root, hroot, hm⟩ := h.root q (e ▸ hp)
      exact ⟨root, hroot, List.mem_append_left _ hm⟩
    · rename_i e
      rw [if_neg e] at hq
      exact h.root q hq
  noRoot q hq := by
    rw [root?_joinPair, root?_enter]
    rw [Ledger.ofPair_concat] at hq
    split at hq
    · simp at hq
    · exact h.noRoot q hq
  byService := h.byService.put _ _ _
  errors := by
    simp only [TraceIndex.joinPair]
    split
    · exact h.errors.put _ _ _
    · exact h.errors
  representatives := h.representatives

/-- The span joins its pair, and takes the place of a representative that waits for it. -/
theorem Represents.insert_old_eq (h : t.Represents l) (hi : r.spanId ∉ l.ids)
    (hp : l.ofPair ⟨r.traceId, service⟩ ≠ []) {root : Representative}
    (hroot : t.root? ⟨r.traceId, service⟩ = some root) :
    let t' := (t.enter r).joinPair service (l.ofPair ⟨r.traceId, service⟩) r
    t.insert service r =
      (if root.yieldsTo r then t'.setRoot ⟨r.traceId, service⟩ { root with span := r } else t',
        ⟨false, if root.yieldsTo r then some root.span.spanId else none⟩) := by
  rw [insert_of_old (h.span?_eq_none.mpr hi) (by rw [h.spansOfPair?, filled_of_ne_nil hp])]
  exact promote_eq hroot

/-- What an insertion does: nothing, if the identifier is taken; else the span opens its
pair, or it joins the pair and takes the place of a representative that waits for it. -/
theorem Represents.insert_cases (h : t.Represents l) (service : String) (r : SpanRecord) :
    (r.spanId ∈ l.ids ∧ t.insert service r = (t, .unchanged)) ∨
    (r.spanId ∉ l.ids ∧ l.ofPair ⟨r.traceId, service⟩ = [] ∧
      (t.insert service r).2 = ⟨true, none⟩ ∧
      ∀ q, (t.insert service r).1.root? q =
        if ⟨r.traceId, service⟩ = q then some (.choose r) else t.root? q) ∨
    (r.spanId ∉ l.ids ∧ l.ofPair ⟨r.traceId, service⟩ ≠ [] ∧
      ∃ root, t.root? ⟨r.traceId, service⟩ = some root ∧
      (t.insert service r).2 =
        ⟨false, if root.yieldsTo r then some root.span.spanId else none⟩ ∧
      ∀ q, (t.insert service r).1.root? q =
        if ⟨r.traceId, service⟩ = q ∧ root.yieldsTo r then some { root with span := r }
        else t.root? q) := by
  by_cases hi : r.spanId ∈ l.ids
  · exact .inl ⟨hi, insert_of_taken (h.isSome_span?.mpr hi)⟩
  by_cases hp : l.ofPair ⟨r.traceId, service⟩ = []
  · refine .inr (.inl ⟨hi, hp, ?_⟩)
    rw [insert_of_new (h.span?_eq_none.mpr hi) (by rw [h.spansOfPair?, hp]; rfl)]
    exact ⟨rfl, fun q => by rw [root?_openPair, root?_enter]⟩
  · obtain ⟨root, hroot, -⟩ := h.root _ hp
    refine .inr (.inr ⟨hi, hp, root, hroot, ?_⟩)
    rw [h.insert_old_eq hi hp hroot]
    refine ⟨rfl, fun q => ?_⟩
    by_cases hy : root.yieldsTo r
    · simp only [hy, if_true, root?_setRoot, root?_joinPair, root?_enter, and_true]
    · simp only [hy, if_false, root?_joinPair, root?_enter, and_false, Bool.false_eq_true]

theorem Represents.insert (h : t.Represents l) (service : String) (r : SpanRecord) :
    (t.insert service r).1.Represents (l.insert service r) := by
  by_cases hi : r.spanId ∈ l.ids
  · rw [insert_of_taken (h.isSome_span?.mpr hi), Ledger.insert, if_pos hi]
    exact h
  rw [Ledger.insert, if_neg hi]
  by_cases hp : l.ofPair ⟨r.traceId, service⟩ = []
  · rw [insert_of_new (h.span?_eq_none.mpr hi) (by rw [h.spansOfPair?, hp]; rfl)]
    exact h.insert_new hi hp
  · obtain ⟨root, hroot, hm⟩ := h.root _ hp
    rw [h.insert_old_eq hi hp hroot]
    split
    · exact (h.joinPair hi hp).setRoot (by simp [Ledger.ofPair_concat])
    · exact h.joinPair hi hp

/-! ## Eviction -/

section

variable (h : t.Represents l) (p : Pair)
include h

theorem Represents.span?_removePair (i : SpanId) :
    (t.removePair p (l.ofPair p)).span? i = (l.without p).span? i := by
  rw [TraceIndex.span?_removePair, Ledger.span?_without h.nodup, h.span?]

theorem Represents.spansOfPair?_removePair (q : Pair) :
    (t.removePair p (l.ofPair p)).spansOfPair? q = filled ((l.without p).ofPair q) := by
  rw [TraceIndex.spansOfPair?_removePair, Ledger.ofPair_without, h.spansOfPair?]
  split <;> rfl

theorem Represents.hasError?_removePair (q : Pair) :
    (t.removePair p (l.ofPair p)).hasError? q =
      (filled ((l.without p).ofPair q)).map fun rs => rs.any (·.hasError) := by
  rw [TraceIndex.hasError?_removePair, Ledger.ofPair_without, h.hasError?]
  split <;> rfl

theorem Represents.spansOfTrace?_removePair_of_ne {traceId : TraceId} (ht : p.traceId ≠ traceId) :
    (t.removePair p (l.ofPair p)).spansOfTrace? traceId =
      filled ((l.without p).ofTrace traceId) := by
  rw [TraceIndex.spansOfTrace?_removePair, if_neg ht, Ledger.ofTrace_without_of_ne ht,
    h.spansOfTrace?]

theorem Represents.spansOfTrace?_removePair_self (hp : l.ofPair p ≠ []) :
    (t.removePair p (l.ofPair p)).spansOfTrace? p.traceId =
      some ((l.without p).ofTrace p.traceId) := by
  have ht : l.ofTrace p.traceId ≠ [] := fun ht => hp (Ledger.ofPair_eq_nil_of_ofTrace ht)
  rw [TraceIndex.spansOfTrace?_removePair, if_pos rfl, Ledger.ofTrace_without h.nodup,
    h.spansOfTrace?, filled_of_ne_nil ht]
  rfl

/-- Whether a trace has services left is whether it has spans left. -/
theorem Represents.isEmpty_removePair :
    ((t.removePair p (l.ofPair p)).byService.getD p.traceId ∅).isEmpty ↔
      (l.without p).ofTrace p.traceId = [] := by
  rw [Std.ExtTreeMap.isEmpty_iff]
  constructor
  · intro he
    by_contra ht
    obtain ⟨service, hne⟩ := Ledger.exists_ofPair_of_ofTrace ht
    have hn : (t.removePair p (l.ofPair p)).spansOfPair? ⟨p.traceId, service⟩ = none :=
      Nested.at?_eq_none_of_empty he service
    rw [h.spansOfPair?_removePair, filled_eq_none] at hn
    exact hne hn
  · intro ht
    by_contra he
    obtain ⟨service, spans, hs⟩ := Nested.exists_at? he
    have hs : (t.removePair p (l.ofPair p)).spansOfPair? ⟨p.traceId, service⟩ = some spans := hs
    have hn : (l.without p).ofPair ⟨p.traceId, service⟩ = [] := Ledger.ofPair_eq_nil_of_ofTrace ht
    rw [h.spansOfPair?_removePair, hn] at hs
    cases hs

theorem Represents.root_removePair (q : Pair) (hq : (l.without p).ofPair q ≠ []) :
    ∃ root, (t.removePair p (l.ofPair p)).root? q = some root ∧
      root.span ∈ (l.without p).ofPair q := by
  rw [root?_removePair]
  rw [Ledger.ofPair_without] at hq ⊢
  split at hq
  · exact absurd rfl hq
  · rename_i e
    simp only [e, if_false]
    exact h.root q hq

theorem Represents.noRoot_removePair (q : Pair) (hq : (l.without p).ofPair q = []) :
    (t.removePair p (l.ofPair p)).root? q = none := by
  rw [root?_removePair]
  rw [Ledger.ofPair_without] at hq
  split
  · rfl
  · rename_i e
    rw [if_neg e] at hq
    exact h.noRoot q hq

/-- The trace keeps another service. -/
theorem Represents.removePair (hp : l.ofPair p ≠ []) (ht : (l.without p).ofTrace p.traceId ≠ []) :
    (t.removePair p (l.ofPair p)).Represents (l.without p) := by
  obtain ⟨service, hne⟩ := Ledger.exists_ofPair_of_ofTrace ht
  have hs : (t.removePair p (l.ofPair p)).spansOfPair? ⟨p.traceId, service⟩ = some _ :=
    (h.spansOfPair?_removePair p _).trans (filled_of_ne_nil hne)
  have he : (t.removePair p (l.ofPair p)).hasError? ⟨p.traceId, service⟩ = some _ :=
    (h.hasError?_removePair p _).trans (congrArg _ (filled_of_ne_nil hne))
  obtain ⟨root, hr, -⟩ := h.root_removePair p _ hne
  exact {
    nodup := h.nodup.sublist (Ledger.ids_without_sublist l p)
    span? := h.span?_removePair p
    spansOfTrace? traceId := by
      by_cases e : p.traceId = traceId
      · rw [← e, h.spansOfTrace?_removePair_self p hp, filled_of_ne_nil ht]
      · exact h.spansOfTrace?_removePair_of_ne p e
    spansOfPair? := h.spansOfPair?_removePair p
    hasError? := h.hasError?_removePair p
    root := h.root_removePair p
    noRoot := h.noRoot_removePair p
    byService := h.byService.drop (Nested.ne_empty_of_at? hs)
    errors := h.errors.drop (Nested.ne_empty_of_at? he)
    representatives := h.representatives.drop (Nested.ne_empty_of_at? hr) }

/-- The trace loses its last service. -/
theorem Represents.removeTrace (ht : (l.without p).ofTrace p.traceId = []) :
    ((t.removePair p (l.ofPair p)).removeTrace p.traceId).Represents (l.without p) := by
  have hn : ∀ q : Pair, p.traceId = q.traceId → (l.without p).ofPair q = [] :=
    fun q e => Ledger.ofPair_eq_nil_of_ofTrace (e ▸ ht)
  exact {
    nodup := h.nodup.sublist (Ledger.ids_without_sublist l p)
    span? := h.span?_removePair p
    spansOfTrace? traceId := by
      rw [spansOfTrace?_removeTrace]
      split
      · rename_i e
        rw [← e, ht]
        rfl
      · rename_i e
        exact h.spansOfTrace?_removePair_of_ne p e
    spansOfPair? q := by
      rw [spansOfPair?_removeTrace]
      split
      · rename_i e
        rw [hn q e]
        rfl
      · exact h.spansOfPair?_removePair p q
    hasError? q := by
      rw [hasError?_removeTrace]
      split
      · rename_i e
        rw [hn q e]
        rfl
      · exact h.hasError?_removePair p q
    root q hq := by
      rw [root?_removeTrace, if_neg fun e => hq (hn q e)]
      exact h.root_removePair p q hq
    noRoot q hq := by
      rw [root?_removeTrace]
      split
      · rfl
      · exact h.noRoot_removePair p q hq
    byService := h.byService.erase_drop _ _
    errors := h.errors.erase_drop _ _
    representatives := h.representatives.erase_drop _ _ }

theorem Represents.evict : (t.evict p).Represents (l.without p) := by
  by_cases hp : l.ofPair p = []
  · rw [Ledger.without_of_ofPair_eq_nil hp]
    simpa only [TraceIndex.evict, h.spansOfPair?, hp, filled_nil] using h
  simp only [TraceIndex.evict, h.spansOfPair?, filled_of_ne_nil hp]
  split
  · rename_i he
    exact h.removeTrace p ((h.isEmpty_removePair p).mp he)
  · rename_i he
    exact h.removePair p hp fun ht => he ((h.isEmpty_removePair p).mpr ht)

theorem Represents.root?_evict (q : Pair) :
    (t.evict p).root? q = if p = q then none else t.root? q := by
  by_cases hq : (l.without p).ofPair q = []
  · rw [(h.evict p).noRoot q hq]
    split
    · rfl
    · rename_i e
      rw [Ledger.ofPair_without, if_neg e] at hq
      exact (h.noRoot q hq).symm
  · have e : p ≠ q := by
      rintro rfl
      exact hq (by rw [Ledger.ofPair_without, if_pos rfl])
    rw [if_neg e]
    by_cases hp : l.ofPair p = []
    · simp only [TraceIndex.evict, h.spansOfPair?, hp, filled_nil]
    simp only [TraceIndex.evict, h.spansOfPair?, filled_of_ne_nil hp]
    split
    · rename_i he
      rw [root?_removeTrace, root?_removePair, if_neg e, if_neg]
      exact fun ht => hq (Ledger.ofPair_eq_nil_of_ofTrace (ht ▸ (h.isEmpty_removePair p).mp he))
    · rw [root?_removePair, if_neg e]

end

theorem Represents.delete (h : t.Represents l) (records : List SpanRecord) :
    (t.delete records).Represents (l.delete records) := by
  induction records generalizing t l with
  | nil => rwa [Ledger.delete_nil]
  | cons r records ih =>
    rw [Ledger.delete_cons]
    exact ih (h.evict r.pair)

theorem Represents.root?_delete (h : t.Represents l) (records : List SpanRecord) (q : Pair) :
    (t.delete records).root? q = if q ∈ records.map (·.pair) then none else t.root? q := by
  induction records generalizing t l with
  | nil => rfl
  | cons r records ih =>
    rw [TraceIndex.delete, List.foldl_cons, ← TraceIndex.delete, ih (h.evict r.pair), h.root?_evict]
    by_cases e : r.pair = q
    · simp [e]
    · simp [e, Ne.symm e]

/-! ## Recalculation -/

theorem mem_of_entryOf? {spans : List SpanRecord} {r : SpanRecord} (h : entryOf? spans = some r) :
    r ∈ spans := by
  rcases Option.or_eq_some_iff.mp h with h | ⟨-, h⟩
  · exact List.mem_of_find?_eq_some h
  · exact List.mem_of_mem_head? h

theorem exists_entryOf? {spans : List SpanRecord} (h : spans ≠ []) : ∃ r, entryOf? spans = some r := by
  obtain ⟨r, rest, rfl⟩ := List.exists_cons_of_ne_nil h
  rw [entryOf?]
  cases (r :: rest).find? _ with
  | none => exact ⟨r, rfl⟩
  | some r' => exact ⟨r', rfl⟩

/-- What a recalculation does: nothing, if there is no span of the pair; else it chooses
one of them. -/
theorem Represents.recalculate_cases (h : t.Represents l) (p : Pair) :
    (l.ofPair p = [] ∧ t.recalculate p = (t, none)) ∨
    ∃ r ∈ l.ofPair p, entryOf? (l.ofPair p) = some r ∧
      t.recalculate p = (t.setRoot p (.choose r), some r) := by
  by_cases hp : l.ofPair p = []
  · refine .inl ⟨hp, ?_⟩
    simp only [TraceIndex.recalculate, h.spansOfPair?, hp, filled_nil, Option.bind_none]
  · obtain ⟨r, hr⟩ := exists_entryOf? hp
    refine .inr ⟨r, mem_of_entryOf? hr, hr, ?_⟩
    simp only [TraceIndex.recalculate, h.spansOfPair?, filled_of_ne_nil hp, Option.bind_some, hr]

theorem Represents.recalculate_of_entryOf? (h : t.Represents l) {p : Pair}
    (hr : entryOf? (l.ofPair p) = some r) : t.recalculate p = (t.setRoot p (.choose r), some r) := by
  rcases h.recalculate_cases p with ⟨hnil, -⟩ | ⟨r', -, hr', e⟩
  · rw [hnil] at hr
    cases hr
  · rw [e, Option.some.inj (hr'.symm.trans hr)]

theorem Represents.recalculate (h : t.Represents l) (p : Pair) :
    (t.recalculate p).1.Represents l := by
  rcases h.recalculate_cases p with ⟨-, e⟩ | ⟨r, hr, -, e⟩
  · rwa [e]
  · rw [e]
    exact h.setRoot hr

end TraceIndex

end Telemetry
