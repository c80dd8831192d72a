import Telemetry.Index.Logs
import Telemetry.Proofs.Index.Entries
import Telemetry.Proofs.List.EraseDups
import Telemetry.Proofs.List.Parts

/-!
# The index of logs represents a list

* `LogIndex.Represents x l`: the logs of a trace are those of the list, all of which belong
  to a trace;
* `Represents.insert`, `Represents.erase`, `Represents.delete_append`: the lists after the
  operations;
* `Represents.logsOfSpan`, `Represents.traceCount`, `Represents.size`: what else the list says
  of the index, and `Represents.ext`: which index it is.
-/

namespace Telemetry

/-- Whether a log belongs to a trace. -/
def LogRecord.traced (r : LogRecord) : Bool := !r.traceId.isZero

/-- A log is of no span that stands for none. -/
theorem LogRecord.spanId?_eq_some_iff {r : LogRecord} {spanId : SpanId} :
    r.spanId? = some spanId ↔ ¬spanId.isZero ∧ r.log.spanId = spanId := by
  rw [LogRecord.spanId?, Option.ite_none_left_eq_some, Option.some.injEq]
  constructor
  · rintro ⟨hz, rfl⟩
    exact ⟨hz, rfl⟩
  · rintro ⟨hz, rfl⟩
    exact ⟨hz, rfl⟩

namespace LogIndex

/-- The logs of a trace are those of the list, which are all of some trace. -/
structure Represents (x : LogIndex) (l : List LogRecord) : Prop where
  logsOfTrace? : ∀ traceId, x.logsOfTrace? traceId = filled (l.filter fun r => r.traceId = traceId)
  traced : ∀ r ∈ l, r.traced

theorem represents_empty : empty.Represents [] where
  logsOfTrace? traceId := by simp [LogIndex.logsOfTrace?, empty]
  traced r hr := absurd hr List.not_mem_nil

variable {x x' : LogIndex} {l : List LogRecord}

/-! ## Reading after a change -/

theorem logsOfTrace?_insert (x : LogIndex) (r : LogRecord) (traceId : TraceId) :
    (x.insert r).logsOfTrace? traceId =
      if r.traced ∧ r.traceId = traceId then some ((x.logsOfTrace? traceId).getD [] ++ [r])
      else x.logsOfTrace? traceId := by
  unfold insert LogRecord.traced
  cases r.traceId.isZero with
  | true => simp
  | false =>
    simp only [LogIndex.logsOfTrace?, Std.ExtTreeMap.getElem?_insert, Bool.false_eq_true, if_false,
      Std.LawfulEqCmp.compare_eq_iff_eq, Std.ExtTreeMap.getD_eq_getD_getElem?, Bool.not_false,
      true_and]
    split
    · rename_i e
      rw [e]
    · rfl

theorem logsOfTrace?_erase (x : LogIndex) (r : LogRecord) (traceId : TraceId) :
    (x.erase r).logsOfTrace? traceId =
      if r.traceId = traceId then
        filled (((x.logsOfTrace? traceId).getD []).eraseP (·.serial == r.serial))
      else x.logsOfTrace? traceId := by
  unfold LogIndex.logsOfTrace? erase
  split
  · rename_i hx
    split
    · rename_i e
      rw [← e, hx]
      rfl
    · rfl
  · rename_i logs hx
    refine (getElem?_replace x.byTrace r.traceId traceId _).trans ?_
    split
    · rename_i e
      rw [← e, hx, Option.getD_some]
    · rfl

/-! ## Representation -/

theorem Represents.insert (h : x.Represents l) (r : LogRecord) :
    (x.insert r).Represents (l ++ [r].filter LogRecord.traced) where
  logsOfTrace? traceId := by
    rw [logsOfTrace?_insert, h.logsOfTrace?, getD_filled, List.filter_append]
    by_cases hr : r.traced
    · by_cases e : r.traceId = traceId
      · simp [hr, e]
      · simp [hr, e]
    · simp [hr]
  traced b hb := by
    rcases List.mem_append.mp hb with hb | hb
    · exact h.traced b hb
    · exact (List.mem_filter.mp hb).2

theorem Represents.erase (h : x.Represents l) (r : LogRecord) :
    (x.erase r).Represents (l.eraseP fun b => b.serial == r.serial && b.traceId = r.traceId) where
  logsOfTrace? traceId := by
    rw [logsOfTrace?_erase, h.logsOfTrace?, getD_filled]
    split
    · rename_i e
      rw [filter_eraseP_of_imp fun b => by rw [e]]
    · rename_i e
      rw [filter_eraseP_of_not fun b hb => ?_]
      rw [Bool.and_eq_true, decide_eq_true_eq] at hb
      exact decide_eq_false (hb.2 ▸ e)
  traced b hb := h.traced b (List.mem_of_mem_eraseP hb)

/-- Erasing the oldest logs one after the other. Those without a trace are passed over. -/
theorem Represents.delete_append {evicted kept : List LogRecord}
    (h : x.Represents ((evicted ++ kept).filter LogRecord.traced)) :
    (x.delete evicted).Represents (kept.filter LogRecord.traced) := by
  induction evicted generalizing x with
  | nil => exact h
  | cons r evicted ih =>
    refine ih ?_
    have he := h.erase r
    rw [List.cons_append] at he
    by_cases hr : r.traced
    · rwa [List.filter_cons_of_pos hr, List.eraseP_cons_of_pos (by simp)] at he
    · rw [List.filter_cons_of_neg hr, List.eraseP_of_forall_not] at he
      · exact he
      · intro b hb hm
        rw [Bool.and_eq_true, decide_eq_true_eq] at hm
        have hb := (List.mem_filter.mp hb).2
        rw [LogRecord.traced, hm.2] at hb
        exact hr hb

theorem Represents.iter_perm (h : x.Represents l) : x.iter.Perm l :=
  flatMap_toList_perm h.logsOfTrace?

theorem Represents.ext (h : x.Represents l) (h' : x'.Represents l) : x = x' := by
  cases x
  cases x'
  refine congrArg LogIndex.mk (Std.ExtTreeMap.ext_getElem? fun traceId => ?_)
  exact (h.logsOfTrace? traceId).trans (h'.logsOfTrace? traceId).symm

/-! ## What can be read -/

theorem Represents.logsOfSpan (h : x.Represents l) (traceId : TraceId) (spanId : SpanId) :
    x.logsOfSpan traceId spanId =
      if spanId.isZero then []
      else l.filter fun r => r.traceId = traceId ∧ r.log.spanId = spanId := by
  rw [LogIndex.logsOfSpan, h.logsOfTrace?, getD_filled, List.filter_filter]
  split
  · next hz =>
    refine List.filter_eq_nil_iff.mpr fun r _ => ?_
    simp [LogRecord.spanId?_eq_some_iff, hz]
  · next hz =>
    refine List.filter_congr fun r _ => ?_
    rw [Bool.eq_iff_iff, Bool.and_eq_true, beq_iff_eq, LogRecord.spanId?_eq_some_iff,
      and_iff_right hz, decide_eq_true_eq, decide_eq_true_eq]
    exact and_comm

theorem Represents.traceCount (h : x.Represents l) :
    x.traceCount = (l.map (·.traceId)).eraseDups.length := by
  refine size_eq_length x.byTrace (nodup_eraseDups _) fun traceId => ?_
  have hget : x.byTrace[traceId]? = filled (l.filter fun r => r.traceId = traceId) :=
    h.logsOfTrace? traceId
  rw [hget, List.mem_eraseDups, ← not_iff_not, Bool.not_eq_true, Option.isSome_eq_false_iff,
    Option.isNone_iff_eq_none, filled_eq_none]
  simp

theorem Represents.size (h : x.Represents l) : x.size = l.length :=
  h.iter_perm.length_eq

theorem Represents.isEmpty_iff (h : x.Represents l) : x.isEmpty ↔ l = [] := by
  constructor
  · intro hx
    have hx : x = empty := congrArg LogIndex.mk (Std.ExtTreeMap.isEmpty_iff.mp hx)
    have hempty : empty.iter.Perm l := hx ▸ h.iter_perm
    exact hempty.nil_eq.symm
  · rintro rfl
    rw [h.ext represents_empty]
    rfl

end LogIndex

end Telemetry
