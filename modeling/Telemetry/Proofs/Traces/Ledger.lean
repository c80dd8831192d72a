import Mathlib.Data.List.Nodup
import Telemetry.Index.Traces
import Telemetry.Proofs.Index.Entries

/-!
# Ledgers of spans

The plainest index of spans is a list: every span as it arrived, with the service it
was filed under. Reading is filtering.

* `Ledger.insert`, `Ledger.delete`: what the operations of an index do to the list;
* `Ledger.own`: records under the services that they name themselves, and `foldl_enroll`:
  which of several records that arrive find their identifiers free;
* `ofTrace_without`, `ofPair_without`, `span?_without`: what is left to read of a ledger
  without a pair, if no two spans have the same identifier.
-/

namespace Telemetry

/-- The pair that a filed record belongs to. -/
def Filing.pair (f : Filing SpanRecord) : Pair := ⟨f.record.traceId, f.service⟩

/-- Filed span records in the order of arrival. -/
abbrev Ledger := List (Filing SpanRecord)

namespace Ledger

/-- The identifiers of all spans. -/
def ids (l : Ledger) : List SpanId := l.map (·.record.spanId)

/-- The spans of a trace in the order of arrival. -/
def ofTrace (l : Ledger) (traceId : TraceId) : List SpanRecord :=
  (l.filter fun f => f.record.traceId = traceId).map (·.record)

/-- The spans of a pair in the order of arrival. -/
def ofPair (l : Ledger) (p : Pair) : List SpanRecord :=
  (l.filter fun f => f.pair = p).map (·.record)

/-- The first span with an identifier. -/
def span? (l : Ledger) (i : SpanId) : Option SpanRecord :=
  (l.find? fun f => f.record.spanId = i).map (·.record)

/-- Adds a span under a service, unless its identifier is taken. -/
def insert (l : Ledger) (service : String) (r : SpanRecord) : Ledger :=
  if r.spanId ∈ l.ids then l else l ++ [⟨service, r⟩]

/-- Drops the pairs that some records belong to by their own resources. -/
def delete (l : Ledger) (records : List SpanRecord) : Ledger :=
  l.filter fun f => f.pair ∉ records.map (·.pair)

/-- The ledger without the spans of a pair. -/
def without (l : Ledger) (p : Pair) : Ledger := l.filter fun f => f.pair ≠ p

variable {l : Ledger}

/-! ## Membership -/

theorem mem_ofTrace {traceId : TraceId} {r : SpanRecord} :
    r ∈ l.ofTrace traceId ↔ ∃ f ∈ l, f.record = r ∧ r.traceId = traceId := by
  simp only [ofTrace, List.mem_map, List.mem_filter, decide_eq_true_eq]
  exact ⟨fun ⟨f, ⟨hf, ht⟩, e⟩ => ⟨f, hf, e, e ▸ ht⟩, fun ⟨f, hf, e, ht⟩ => ⟨f, ⟨hf, e ▸ ht⟩, e⟩⟩

theorem mem_ofPair {p : Pair} {r : SpanRecord} :
    r ∈ l.ofPair p ↔ ∃ f ∈ l, f.record = r ∧ f.pair = p := by
  simp only [ofPair, List.mem_map, List.mem_filter, decide_eq_true_eq]
  exact ⟨fun ⟨f, ⟨hf, hp⟩, e⟩ => ⟨f, hf, e, hp⟩, fun ⟨f, hf, e, hp⟩ => ⟨f, ⟨hf, hp⟩, e⟩⟩

theorem ofPair_eq_nil {p : Pair} : l.ofPair p = [] ↔ ∀ f ∈ l, f.pair ≠ p := by
  simp [ofPair, List.filter_eq_nil_iff]

theorem ofTrace_eq_nil {traceId : TraceId} :
    l.ofTrace traceId = [] ↔ ∀ f ∈ l, f.record.traceId ≠ traceId := by
  simp [ofTrace, List.filter_eq_nil_iff]

theorem ofPair_eq_nil_of_ofTrace {p : Pair} (h : l.ofTrace p.traceId = []) : l.ofPair p = [] :=
  ofPair_eq_nil.mpr fun f hf e => ofTrace_eq_nil.mp h f hf (e ▸ rfl)

theorem exists_ofPair_of_ofTrace {traceId : TraceId} (h : l.ofTrace traceId ≠ []) :
    ∃ service, l.ofPair ⟨traceId, service⟩ ≠ [] := by
  obtain ⟨r, hr⟩ := List.exists_mem_of_ne_nil _ h
  obtain ⟨f, hf, rfl, ht⟩ := mem_ofTrace.mp hr
  exact ⟨f.service, List.ne_nil_of_mem (mem_ofPair.mpr ⟨f, hf, rfl, ht ▸ rfl⟩)⟩

theorem mem_of_span? {i : SpanId} {r : SpanRecord} (h : l.span? i = some r) :
    (∃ f ∈ l, f.record = r) ∧ r.spanId = i := by
  obtain ⟨f, hf, rfl⟩ := Option.map_eq_some_iff.mp h
  exact ⟨⟨f, List.mem_of_find?_eq_some hf, rfl⟩, by simpa using List.find?_some hf⟩

theorem span?_eq_none {i : SpanId} : l.span? i = none ↔ i ∉ l.ids := by
  simp [span?, ids]

/-- Where identifiers are unique, a span is found by its own. -/
theorem span?_of_mem (h : l.ids.Nodup) {f : Filing SpanRecord} (hf : f ∈ l) :
    l.span? f.record.spanId = some f.record := by
  induction l with
  | nil => cases hf
  | cons g l ih =>
    rw [ids, List.map_cons, List.nodup_cons] at h
    rcases List.mem_cons.mp hf with rfl | hf
    · simp [span?]
    · have hne : g.record.spanId ≠ f.record.spanId := fun e =>
        h.1 (e ▸ List.mem_map_of_mem (f := fun f : Filing SpanRecord => f.record.spanId) hf)
      rw [span?, List.find?_cons_of_neg (by simpa using hne)]
      exact ih h.2 hf

theorem eq_of_spanId (h : l.ids.Nodup) {f g : Filing SpanRecord} (hf : f ∈ l) (hg : g ∈ l)
    (e : f.record.spanId = g.record.spanId) : f = g :=
  List.inj_on_of_nodup_map h hf hg e

/-! ## One span more -/

theorem ids_append (l l' : Ledger) : ids (l ++ l') = l.ids ++ l'.ids := List.map_append

theorem ofTrace_append (l l' : Ledger) (traceId : TraceId) :
    ofTrace (l ++ l') traceId = l.ofTrace traceId ++ l'.ofTrace traceId := by
  simp [ofTrace]

theorem ofPair_append (l l' : Ledger) (p : Pair) :
    ofPair (l ++ l') p = l.ofPair p ++ l'.ofPair p := by
  simp [ofPair]

section

variable (l) (service : String) (r : SpanRecord)

theorem ofTrace_concat (traceId : TraceId) :
    ofTrace (l ++ [⟨service, r⟩]) traceId =
      if r.traceId = traceId then l.ofTrace traceId ++ [r] else l.ofTrace traceId := by
  rw [ofTrace_append]
  split <;> simp_all [ofTrace]

theorem ofPair_concat (p : Pair) :
    ofPair (l ++ [⟨service, r⟩]) p =
      if ⟨r.traceId, service⟩ = p then l.ofPair p ++ [r] else l.ofPair p := by
  rw [ofPair_append]
  split <;> simp_all [ofPair, Filing.pair]

variable {l r} in
theorem span?_concat (h : r.spanId ∉ l.ids) (i : SpanId) :
    span? (l ++ [⟨service, r⟩]) i = if r.spanId = i then some r else l.span? i := by
  rw [span?, List.find?_append]
  split
  · rename_i e
    subst e
    have hn : l.find? (fun g => g.record.spanId = r.spanId) = none :=
      Option.map_eq_none_iff.mp (span?_eq_none.mpr h)
    simp [hn]
  · rename_i e
    simp [e, span?]

variable {l r} in
theorem nodup_ids_concat (hl : l.ids.Nodup) (h : r.spanId ∉ l.ids) :
    (ids (l ++ [⟨service, r⟩])).Nodup := by
  rw [ids_append]
  exact List.nodup_append.mpr ⟨hl, List.nodup_singleton _, fun i hi j hj e =>
    h (by rwa [← show j = r.spanId from List.mem_singleton.mp hj, ← e])⟩

end

/-! ## A pair less -/

theorem ids_without_sublist (l : Ledger) (p : Pair) : (l.without p).ids.Sublist l.ids :=
  List.filter_sublist.map _

theorem ofPair_without (l : Ledger) (p q : Pair) :
    (l.without p).ofPair q = if p = q then [] else l.ofPair q := by
  simp only [ofPair, without, List.filter_filter]
  split
  · rename_i e
    simp [e]
  · rename_i e
    congr 1
    refine List.filter_congr fun f _ => ?_
    by_cases hq : f.pair = q
    · simp [hq, Ne.symm e]
    · simp [hq]

theorem without_of_ofPair_eq_nil {p : Pair} (h : l.ofPair p = []) : l.without p = l :=
  List.filter_eq_self.mpr fun f hf => by simpa using ofPair_eq_nil.mp h f hf

theorem ofTrace_without_of_ne {p : Pair} {traceId : TraceId} (h : p.traceId ≠ traceId) :
    (l.without p).ofTrace traceId = l.ofTrace traceId := by
  simp only [ofTrace, without, List.filter_filter]
  congr 1
  refine List.filter_congr fun f _ => ?_
  have hp : f.record.traceId = traceId → f.pair ≠ p := fun ht e => h (e ▸ ht)
  by_cases ht : f.record.traceId = traceId
  · simp [ht, hp ht]
  · simp [ht]

theorem delete_nil (l : Ledger) : l.delete [] = l := by simp [delete]

theorem delete_cons (l : Ledger) (r : SpanRecord) (records : List SpanRecord) :
    l.delete (r :: records) = (l.without r.pair).delete records := by
  simp only [delete, without, List.filter_filter]
  refine List.filter_congr fun f _ => ?_
  simp [not_or, Bool.and_comm]

theorem ofPair_delete (l : Ledger) (records : List SpanRecord) (p : Pair) :
    (l.delete records).ofPair p = if p ∈ records.map (·.pair) then [] else l.ofPair p := by
  induction records generalizing l with
  | nil => rw [delete_nil, List.map_nil, if_neg List.not_mem_nil]
  | cons r records ih =>
    rw [delete_cons, ih, ofPair_without]
    by_cases e : r.pair = p
    · simp [e]
    · simp [e, Ne.symm e]

/-- Where identifiers are unique, those of a pair tell its spans from the others. -/
theorem spanId_mem_ofPair (h : l.ids.Nodup) {f : Filing SpanRecord} (hf : f ∈ l) (p : Pair) :
    f.record.spanId ∈ (l.ofPair p).map (·.spanId) ↔ f.pair = p := by
  rw [List.mem_map]
  constructor
  · rintro ⟨r, hr, e⟩
    obtain ⟨g, hg, rfl, hp⟩ := mem_ofPair.mp hr
    rw [← eq_of_spanId h hg hf e]
    exact hp
  · intro hp
    exact ⟨f.record, mem_ofPair.mpr ⟨f, hf, rfl, hp⟩, rfl⟩

theorem ofTrace_without (h : l.ids.Nodup) (p : Pair) (traceId : TraceId) :
    (l.without p).ofTrace traceId =
      (l.ofTrace traceId).filter fun r => r.spanId ∉ (l.ofPair p).map (·.spanId) := by
  simp only [ofTrace, without, List.filter_map, List.filter_filter]
  congr 1
  refine List.filter_congr fun f hf => ?_
  have := spanId_mem_ofPair h hf p
  simp only [Function.comp_apply, this, Bool.and_comm]

theorem span?_without (h : l.ids.Nodup) (p : Pair) (i : SpanId) :
    (l.without p).span? i = if i ∈ (l.ofPair p).map (·.spanId) then none else l.span? i := by
  have hsub : (l.without p).ids.Nodup := h.sublist (ids_without_sublist l p)
  split
  · rename_i hi
    refine span?_eq_none.mpr fun hm => ?_
    obtain ⟨f, hf, rfl⟩ := List.mem_map.mp hm
    obtain ⟨hf, hp⟩ := List.mem_filter.mp hf
    exact absurd ((spanId_mem_ofPair h hf p).mp hi) (by simpa using hp)
  · rename_i hi
    cases hs : l.span? i with
    | none =>
      exact span?_eq_none.mpr fun hm => span?_eq_none.mp hs ((ids_without_sublist l p).subset hm)
    | some r =>
      obtain ⟨⟨f, hf, rfl⟩, rfl⟩ := mem_of_span? hs
      have hp : f.pair ≠ p := fun e => hi ((spanId_mem_ofPair h hf p).mpr e)
      exact span?_of_mem hsub (List.mem_filter.mpr ⟨hf, by simpa using hp⟩)

/-! ## Records under their own services -/

/-- Span records, each filed under the service that its resource names. -/
def own (rs : List SpanRecord) : Ledger := rs.map fun r => ⟨r.service, r⟩

/-- The records with one more, unless its identifier is taken. -/
def enroll (rs : List SpanRecord) (r : SpanRecord) : List SpanRecord :=
  if r.spanId ∈ rs.map (·.spanId) then rs else rs ++ [r]

theorem exists_own {rs : List SpanRecord} {r : SpanRecord} : (∃ f ∈ own rs, f.record = r) ↔ r ∈ rs := by
  simp [own]

theorem ids_own (rs : List SpanRecord) : (own rs).ids = rs.map (·.spanId) := by
  simp [own, ids]

theorem ofPair_own (rs : List SpanRecord) (p : Pair) :
    (own rs).ofPair p = rs.filter fun r => r.pair = p := by
  rw [own, ofPair, List.filter_map, List.map_map]
  exact List.map_id' _

theorem ofTrace_own (rs : List SpanRecord) (traceId : TraceId) :
    (own rs).ofTrace traceId = rs.filter fun r => r.traceId = traceId := by
  simp [own, ofTrace, List.filter_map, Function.comp_def]

theorem ofPair_own_eq_nil {rs : List SpanRecord} {p : Pair} :
    (own rs).ofPair p = [] ↔ p ∉ rs.map (·.pair) := by
  rw [ofPair_own]
  simp

theorem insert_own (rs : List SpanRecord) (r : SpanRecord) :
    (own rs).insert r.service r = own (enroll rs r) := by
  rw [insert, enroll, ids_own]
  split
  · rfl
  · simp [own]

theorem delete_own (rs records : List SpanRecord) :
    (own rs).delete records = own (rs.filter fun r => r.pair ∉ records.map (·.pair)) := by
  simp [own, delete, List.filter_map, Function.comp_def, Filing.pair, SpanRecord.pair]

/-- Records that come one after the other: those whose identifiers are new, and of several
with the same identifier the first. -/
theorem foldl_enroll (rs arriving : List SpanRecord) :
    arriving.foldl enroll rs = rs ++
      (arriving.filter fun r => r.spanId ∉ rs.map (·.spanId)).eraseDupsBy
        fun r r' => r.spanId == r'.spanId := by
  induction arriving generalizing rs with
  | nil => simp
  | cons r arriving ih =>
    rw [List.foldl_cons, ih, enroll]
    by_cases hr : r.spanId ∈ rs.map (·.spanId)
    · rw [if_pos hr, List.filter_cons_of_neg (by simpa using hr)]
    · rw [if_neg hr, List.filter_cons_of_pos (by simpa using hr), List.eraseDupsBy_cons,
        List.filter_filter, List.append_assoc, List.singleton_append]
      refine congrArg (fun l => rs ++ r :: List.eraseDupsBy _ l) (List.filter_congr fun r' _ => ?_)
      simp [not_or, Bool.and_comm]

theorem mem_ids_foldl_enroll {rs arriving : List SpanRecord} {i : SpanId} :
    i ∈ (arriving.foldl enroll rs).map (·.spanId) ↔
      i ∈ rs.map (·.spanId) ∨ i ∈ arriving.map (·.spanId) := by
  induction arriving generalizing rs with
  | nil => simp
  | cons r arriving ih =>
    have henroll : i ∈ (enroll rs r).map (·.spanId) ↔ i ∈ rs.map (·.spanId) ∨ i = r.spanId := by
      rw [enroll]
      split
      · rename_i hr
        exact ⟨.inl, fun h => h.elim id fun e => e ▸ hr⟩
      · rw [List.map_append, List.mem_append, List.map_singleton, List.mem_singleton]
    rw [List.foldl_cons, ih, henroll, List.map_cons, List.mem_cons, or_assoc]

end Ledger

end Telemetry
