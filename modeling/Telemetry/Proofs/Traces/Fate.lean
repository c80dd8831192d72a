import Telemetry.Proofs.Traces.Refinement

/-!
# What an action does to a pair

A pair is seeded with a span when that span opens it, and again whenever its representative is
chosen anew. Any other action lets a span join the pair, empties it, or leaves it alone.

* `TraceAction.seed?`: the span that an action seeds a pair with;
* `Fate`, `Represents.fate`: all that an action can do to the spans of a pair and to its
  representative.
-/

namespace Telemetry

/-- The span that an action seeds a pair with: one that opens the pair, or the one that is chosen
among its spans. -/
def TraceAction.seed? (t : TraceIndex) (p : Pair) : TraceAction → Option SpanRecord
  | .insert service r =>
    if ⟨r.traceId, service⟩ = p ∧ t.span? r.spanId = none ∧ t.spansOfPair? p = none then some r
    else none
  | .recalculate q => if q = p then (t.recalculate q).2 else none
  | .delete _ | .flush => none

namespace TraceIndex

variable {t : TraceIndex} {l : Ledger} {p : Pair}

/-- What an action does to a pair. -/
inductive Fate (t : TraceIndex) (l : Ledger) (p : Pair) (a : TraceAction) : Prop
  /-- The pair is seeded with one of its spans, which may have opened it. -/
  | seeded (seed : SpanRecord) (hseed : a.seed? t p = some seed)
    (hroot : (t.act a).root? p = some (.choose seed)) (hne : (l.act a).ofPair p ≠ [])
    (hopened : ∀ service r, a = .insert service r → (l.act a).ofPair p = [seed])
  /-- A new span joins the others, and the representative yields to it or not. -/
  | joined (r : SpanRecord) (root : Representative) (hseed : a.seed? t p = none)
    (hr : r.spanId ∉ l.ids) (hne : l.ofPair p ≠ []) (hjoined : (l.act a).ofPair p = l.ofPair p ++ [r])
    (hold : t.root? p = some root)
    (hroot : (t.act a).root? p = some (if root.yieldsTo r then { root with span := r } else root))
  /-- Nothing changes. -/
  | kept (hseed : a.seed? t p = none) (hkept : (l.act a).ofPair p = l.ofPair p)
    (hroot : (t.act a).root? p = t.root? p)
  /-- The pair loses all its spans. -/
  | gone (hseed : a.seed? t p = none) (hgone : (l.act a).ofPair p = [])

theorem Represents.spansOfPair?_ne_none (h : t.Represents l) :
    t.spansOfPair? p ≠ none ↔ l.ofPair p ≠ [] := by
  rw [h.spansOfPair?, Ne, filled_eq_none]

/-- A pair that has spans is not opened by another one. -/
theorem seed?_insert_of_old {service : String} {r : SpanRecord} (h : t.spansOfPair? p ≠ none) :
    TraceAction.seed? t p (.insert service r) = none :=
  if_neg fun e => h e.2.2

theorem Represents.fate_insert_of_ne (h : t.Represents l) {service : String} {r : SpanRecord}
    (hp : ⟨r.traceId, service⟩ ≠ p) : Fate t l p (.insert service r) := by
  refine .kept (if_neg fun e => hp e.1) ?_ ?_
  · rw [Ledger.act, Ledger.insert]
    split
    · rfl
    · rw [Ledger.ofPair_concat, if_neg hp]
  · rw [TraceIndex.act]
    rcases h.insert_cases service r with ⟨-, e⟩ | ⟨-, -, -, hroot⟩ | ⟨-, -, root, -, -, hroot⟩
    · rw [e]
    · rw [hroot, if_neg hp]
    · rw [hroot, if_neg fun e => hp e.1]

theorem Represents.fate_insert (h : t.Represents l) (service : String) (r : SpanRecord) :
    Fate t l ⟨r.traceId, service⟩ (.insert service r) := by
  have hconcat (hi : r.spanId ∉ l.ids) : (l.act (.insert service r)).ofPair ⟨r.traceId, service⟩ =
      l.ofPair ⟨r.traceId, service⟩ ++ [r] := by
    rw [Ledger.act, Ledger.insert, if_neg hi, Ledger.ofPair_concat, if_pos rfl]
  rcases h.insert_cases service r with
    ⟨hi, e⟩ | ⟨hi, hp, -, hroot⟩ | ⟨hi, hp, root, hold, -, hroot⟩
  · refine .kept (if_neg fun e => h.span?_eq_none.mp e.2.1 hi) ?_ ?_
    · rw [Ledger.act, Ledger.insert, if_pos hi]
    · rw [TraceIndex.act, e]
  · have hopened := hconcat hi
    rw [hp, List.nil_append] at hopened
    have hnew : t.spansOfPair? ⟨r.traceId, service⟩ = none := by rw [h.spansOfPair?, hp, filled_nil]
    refine .seeded r (if_pos ⟨rfl, h.span?_eq_none.mpr hi, hnew⟩) ?_ ?_ fun _ _ _ => hopened
    · rw [TraceIndex.act, hroot, if_pos rfl]
    · rw [hopened]
      exact List.cons_ne_nil r []
  · refine .joined r root (seed?_insert_of_old (h.spansOfPair?_ne_none.mpr hp)) hi hp (hconcat hi)
      hold ?_
    rw [TraceIndex.act, hroot, hold]
    by_cases hy : root.yieldsTo r
    · rw [if_pos ⟨rfl, hy⟩, if_pos hy]
    · rw [if_neg fun e => hy e.2, if_neg hy]

theorem Represents.fate_recalculate (h : t.Represents l) (p q : Pair) :
    Fate t l p (.recalculate q) := by
  by_cases e : q = p
  · subst e
    have hseed : TraceAction.seed? t q (.recalculate q) = (t.recalculate q).2 := if_pos rfl
    rcases h.recalculate_cases q with ⟨-, hr⟩ | ⟨r, hm, -, hr⟩
    · rw [hr] at hseed
      refine .kept hseed rfl ?_
      rw [TraceIndex.act, hr]
    · rw [hr] at hseed
      refine .seeded r hseed ?_ (List.ne_nil_of_mem hm) fun _ _ => nofun
      rw [TraceIndex.act, hr, root?_setRoot, if_pos rfl]
  · refine .kept (if_neg e) rfl ?_
    rw [TraceIndex.act]
    rcases h.recalculate_cases q with ⟨-, hr⟩ | ⟨r, -, -, hr⟩
    · rw [hr]
    · rw [hr, root?_setRoot, if_neg e]

/-- An action seeds a pair, lets a span join it, empties it or leaves it alone. -/
theorem Represents.fate (h : t.Represents l) (p : Pair) (a : TraceAction) : Fate t l p a := by
  cases a with
  | insert service r =>
    by_cases hp : (⟨r.traceId, service⟩ : Pair) = p
    · exact hp ▸ h.fate_insert service r
    · exact h.fate_insert_of_ne hp
  | delete records =>
    by_cases hp : p ∈ records.map (·.pair)
    · exact .gone rfl ((Ledger.ofPair_delete ..).trans (if_pos hp))
    · exact .kept rfl ((Ledger.ofPair_delete ..).trans (if_neg hp))
        ((h.root?_delete records p).trans (if_neg hp))
  | recalculate q => exact h.fate_recalculate p q
  | flush => exact .gone rfl rfl

end TraceIndex

end Telemetry
