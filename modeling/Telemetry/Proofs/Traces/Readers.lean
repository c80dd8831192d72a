import Telemetry.Index.Traces

/-!
# Reading the index of spans after a change

What `span?`, `spansOfTrace?`, `spansOfPair?`, `hasError?` and `root?` give
after each of the steps that insertion, eviction and recalculation are made of, and
which of these steps they take (`insert_of_taken`, `insert_of_new`, `insert_of_old`,
`promote_eq`).
-/

namespace Telemetry

variable {β : Type}

theorem Pair.ext_iff {p q : Pair} : p = q ↔ p.traceId = q.traceId ∧ p.service = q.service := by
  cases p; cases q; simp

theorem Nested.at?_put_pair (m : Nested TraceId String β) (p q : Pair) (b : β) :
    (m.put p.traceId p.service b).at? q.traceId q.service =
      if p = q then some b else m.at? q.traceId q.service := by
  rw [Nested.at?_put]
  simp only [Pair.ext_iff]

theorem Nested.at?_drop_pair (m : Nested TraceId String β) (p q : Pair) :
    (m.drop p.traceId p.service).at? q.traceId q.service =
      if p = q then none else m.at? q.traceId q.service := by
  rw [Nested.at?_drop]
  simp only [Pair.ext_iff]

namespace TraceIndex

variable (t : TraceIndex) (service : String) (spans : List SpanRecord) (r : SpanRecord)

/-! ## One span more -/

theorem span?_enter (i : SpanId) :
    (t.enter r).span? i = if r.spanId = i then some r else t.span? i := by
  simp only [span?, enter, Std.ExtTreeMap.getElem?_insert, Std.LawfulEqCmp.compare_eq_iff_eq]

theorem spansOfTrace?_enter (traceId : TraceId) :
    (t.enter r).spansOfTrace? traceId =
      if r.traceId = traceId then some ((t.spansOfTrace? traceId).getD [] ++ [r])
      else t.spansOfTrace? traceId := by
  simp only [spansOfTrace?, enter, Std.ExtTreeMap.getElem?_insert, Std.LawfulEqCmp.compare_eq_iff_eq,
    Std.ExtTreeMap.getD_eq_getD_getElem?]
  split
  · rename_i h; rw [h]
  · rfl

@[simp] theorem spansOfPair?_enter (p : Pair) : (t.enter r).spansOfPair? p = t.spansOfPair? p := rfl

@[simp] theorem hasError?_enter (p : Pair) : (t.enter r).hasError? p = t.hasError? p := rfl

@[simp] theorem root?_enter (p : Pair) : (t.enter r).root? p = t.root? p := rfl

@[simp] theorem span?_openPair (i : SpanId) : (t.openPair service r).span? i = t.span? i := rfl

@[simp] theorem spansOfTrace?_openPair (traceId : TraceId) :
    (t.openPair service r).spansOfTrace? traceId = t.spansOfTrace? traceId := rfl

theorem spansOfPair?_openPair (q : Pair) :
    (t.openPair service r).spansOfPair? q =
      if ⟨r.traceId, service⟩ = q then some [r] else t.spansOfPair? q :=
  Nested.at?_put_pair _ ⟨r.traceId, service⟩ q _

theorem hasError?_openPair (q : Pair) :
    (t.openPair service r).hasError? q =
      if ⟨r.traceId, service⟩ = q then some r.hasError else t.hasError? q :=
  Nested.at?_put_pair _ ⟨r.traceId, service⟩ q _

theorem root?_openPair (q : Pair) :
    (t.openPair service r).root? q =
      if ⟨r.traceId, service⟩ = q then some (.choose r) else t.root? q :=
  Nested.at?_put_pair _ ⟨r.traceId, service⟩ q _

@[simp] theorem span?_joinPair (i : SpanId) : (t.joinPair service spans r).span? i = t.span? i := rfl

@[simp] theorem spansOfTrace?_joinPair (traceId : TraceId) :
    (t.joinPair service spans r).spansOfTrace? traceId = t.spansOfTrace? traceId := rfl

theorem spansOfPair?_joinPair (q : Pair) :
    (t.joinPair service spans r).spansOfPair? q =
      if ⟨r.traceId, service⟩ = q then some (spans ++ [r]) else t.spansOfPair? q :=
  Nested.at?_put_pair _ ⟨r.traceId, service⟩ q _

theorem hasError?_joinPair (q : Pair) :
    (t.joinPair service spans r).hasError? q =
      if ⟨r.traceId, service⟩ = q ∧ r.hasError then some true else t.hasError? q := by
  by_cases h : r.hasError
  · simp only [h, and_true, hasError?, joinPair, if_true]
    exact Nested.at?_put_pair _ ⟨r.traceId, service⟩ q _
  · simp only [h, and_false, hasError?, joinPair, if_false, Bool.false_eq_true]

@[simp] theorem root?_joinPair (p : Pair) : (t.joinPair service spans r).root? p = t.root? p := rfl

theorem root?_setRoot (p : Pair) (root : Representative) (q : Pair) :
    (t.setRoot p root).root? q = if p = q then some root else t.root? q :=
  Nested.at?_put_pair _ p q _

theorem representative?_setRoot (p : Pair) (root : Representative) (q : Pair) :
    (t.setRoot p root).representative? q = if p = q then some root.span else t.representative? q := by
  rw [representative?, root?_setRoot, apply_ite (Option.map _)]
  rfl

variable {t service r} in
/-- A promotion, where there is a representative. -/
theorem promote_eq {root : Representative} (h : t.root? ⟨r.traceId, service⟩ = some root) :
    t.promote service r =
      (if root.yieldsTo r then t.setRoot ⟨r.traceId, service⟩ { root with span := r } else t,
        ⟨false, if root.yieldsTo r then some root.span.spanId else none⟩) := by
  simp only [promote, h]
  split <;> rfl

/-! ## Which steps an insertion takes -/

variable {t service spans r}

theorem insert_of_taken (h : (t.span? r.spanId).isSome) : t.insert service r = (t, .unchanged) :=
  if_pos h

theorem insert_of_new (h : t.span? r.spanId = none)
    (hp : t.spansOfPair? ⟨r.traceId, service⟩ = none) :
    t.insert service r = ((t.enter r).openPair service r, ⟨true, none⟩) := by
  simp only [insert, h, hp, Option.isSome_none, Bool.false_eq_true, if_false]

theorem insert_of_old (h : t.span? r.spanId = none)
    (hp : t.spansOfPair? ⟨r.traceId, service⟩ = some spans) :
    t.insert service r = ((t.enter r).joinPair service spans r).promote service r := by
  simp only [insert, h, hp, Option.isSome_none, Bool.false_eq_true, if_false]

/-! ## A pair less -/

variable (t spans) (p : Pair)

theorem getElem?_foldl_erase (m : Std.ExtTreeMap SpanId SpanRecord) (ids : List SpanId) (i : SpanId) :
    (ids.foldl (fun m i => m.erase i) m)[i]? = if i ∈ ids then none else m[i]? := by
  induction ids generalizing m with
  | nil => simp
  | cons j ids ih =>
    rw [List.foldl_cons, ih, Std.ExtTreeMap.getElem?_erase]
    by_cases hj : i = j
    · simp [hj]
    · simp [hj, Ne.symm hj]

theorem span?_removePair (i : SpanId) :
    (t.removePair p spans).span? i = if i ∈ spans.map (·.spanId) then none else t.span? i :=
  getElem?_foldl_erase ..

theorem spansOfTrace?_removePair (traceId : TraceId) :
    (t.removePair p spans).spansOfTrace? traceId =
      if p.traceId = traceId then
        (t.spansOfTrace? traceId).map fun rs => rs.filter fun r => r.spanId ∉ spans.map (·.spanId)
      else t.spansOfTrace? traceId := by
  simp only [spansOfTrace?, removePair, Std.ExtTreeMap.getElem?_modify,
    Std.LawfulEqCmp.compare_eq_iff_eq]
  split
  · rename_i h
    simp only [h, List.contains_eq_mem, decide_not]
  · rfl

theorem spansOfPair?_removePair (q : Pair) :
    (t.removePair p spans).spansOfPair? q = if p = q then none else t.spansOfPair? q :=
  Nested.at?_drop_pair ..

theorem hasError?_removePair (q : Pair) :
    (t.removePair p spans).hasError? q = if p = q then none else t.hasError? q :=
  Nested.at?_drop_pair ..

theorem root?_removePair (q : Pair) :
    (t.removePair p spans).root? q = if p = q then none else t.root? q :=
  Nested.at?_drop_pair ..

variable (traceId : TraceId)

theorem spansOfTrace?_removeTrace (traceId' : TraceId) :
    (t.removeTrace traceId).spansOfTrace? traceId' =
      if traceId = traceId' then none else t.spansOfTrace? traceId' := by
  simp only [spansOfTrace?, removeTrace, Std.ExtTreeMap.getElem?_erase,
    Std.LawfulEqCmp.compare_eq_iff_eq]

theorem spansOfPair?_removeTrace (q : Pair) :
    (t.removeTrace traceId).spansOfPair? q =
      if traceId = q.traceId then none else t.spansOfPair? q :=
  Nested.at?_erase ..

theorem hasError?_removeTrace (q : Pair) :
    (t.removeTrace traceId).hasError? q = if traceId = q.traceId then none else t.hasError? q :=
  Nested.at?_erase ..

theorem root?_removeTrace (q : Pair) :
    (t.removeTrace traceId).root? q = if traceId = q.traceId then none else t.root? q :=
  Nested.at?_erase ..

end TraceIndex

end Telemetry
