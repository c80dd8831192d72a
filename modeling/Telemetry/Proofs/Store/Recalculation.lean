import Telemetry.Proofs.Store.Agreement
import Telemetry.Proofs.Traces.Entry

/-!
# Recalculation at a position

A recalculation is asked for by the position of a record in the view. The index chooses another
record for the pair, and that one is put into two places: the position in the view, and the slot
on the shelf where the record that is shown was found by its number.

* `Settled.recalculate_of_shown`: there is such a slot, whatever has been done to the shelf, and
  `Keeps.eq_slot`: no other one holds a record of the pair;
* `Settled.recalculate_again`: what has been put into both places is put there again;
* `Store.Corrects`: all that a recalculation does to a store;
* `Store.serveAll_recalculates`: it does so in every state, or nothing.
-/

namespace Telemetry

namespace SpanShelf

variable {s : SpanShelf} {rs : List SpanRecord} {position slot : Nat} {current root : SpanRecord}

/-- The shelf with what the index chooses for a pair, in a slot and at a position of the view. -/
def seat (s : SpanShelf) (p : Pair) (slot position : Nat) (root : SpanRecord) : SpanShelf :=
  { s with
    index := (s.index.recalculate p).1
    held := s.held.set slot root
    shown := s.shown.set position root }

theorem recalculate_of_length_le (h : s.shown.length ≤ position) :
    s.recalculate position = (s, none) := by
  rw [recalculate, List.getElem?_eq_none h]

/-- No other slot is that of the pair. -/
theorem Keeps.eq_slot (h : s.Keeps rs) (hslot : s.held[slot]? = some current) {j : Nat}
    {r : SpanRecord} (hj : s.held[j]? = some r) (hpair : r.pair = current.pair) : j = slot := by
  have hlt : j < s.pairs.length := by
    rw [SpanShelf.pairs, List.length_map]
    exact (List.getElem?_eq_some_iff.mp hj).1
  refine (List.getElem?_inj hlt h.nodup_pairs).mp ?_
  rw [SpanShelf.pairs, List.getElem?_map, List.getElem?_map, hj, hslot, Option.map_some, Option.map_some,
    hpair]

/-- The record that is shown is held in some slot, which takes the root with the position. -/
theorem Settled.recalculate_of_shown (h : s.Settled rs) (hshown : s.shown[position]? = some current) :
    ∃ slot root, s.held[slot]? = some current ∧ root.pair = current.pair ∧
      (s.index.recalculate current.pair).2 = some root ∧
      s.recalculate position = (s.seat current.pair slot position root, some root) := by
  rcases h.recalculate_cases position with ⟨hnone, -⟩ | ⟨c, root, hc, hpair, hroot, e⟩
  · exact nomatch hnone.symm.trans hshown
  obtain rfl : c = current := Option.some.inj (hc.symm.trans hshown)
  obtain ⟨slot, hslot⟩ := List.mem_iff_getElem?.mp (h.shown_subset (List.mem_of_getElem? hshown))
  rw [← Ledger.ofPair_own] at hroot
  have hindex := h.index.recalculate_of_entryOf? hroot
  refine ⟨slot, root, hslot, hpair, congrArg Prod.snd hindex, ?_⟩
  rw [e, seat, hindex, hpair, reseat_eq_set hslot h.nodup_pairs hpair,
    reseat_eq_set hshown h.shown_nodup hpair]

/-- What is in both places already is put there again. -/
theorem seat_self {p : Pair} (hindex : (s.index.recalculate p).1 = s.index)
    (hslot : s.held[slot]? = some root) (hshown : s.shown[position]? = some root) :
    s.seat p slot position root = s := by
  obtain ⟨hlt, e⟩ := List.getElem?_eq_some_iff.mp hslot
  obtain ⟨hlt', e'⟩ := List.getElem?_eq_some_iff.mp hshown
  have hheld : s.held.set slot root = s.held := e ▸ List.set_getElem_self hlt
  have hview : s.shown.set position root = s.shown := e' ▸ List.set_getElem_self hlt'
  rw [seat, hindex, hheld, hview]

theorem Settled.recalculate_again (h : s.Settled rs) (hshown : s.shown[position]? = some root)
    (hindex : s.index.recalculate root.pair = (s.index, some root)) :
    s.recalculate position = (s, some root) := by
  obtain ⟨slot, root', hslot, -, hroot, e⟩ := h.recalculate_of_shown hshown
  rw [hindex] at hroot
  obtain rfl : root = root' := Option.some.inj hroot
  rw [e, seat_self (congrArg Prod.fst hindex) hslot hshown]

end SpanShelf

namespace Store

/-- What a recalculation does at a position where `current` is shown. -/
structure Corrects (s : Store) (position slot : Nat) (current root : SpanRecord) : Prop where
  /-- The root is what the index chooses for the pair, and becomes its representative. -/
  chosen : (s.spans.index.recalculate current.pair).2 = some root
  pair : root.pair = current.pair
  index : s.spans.index.Recalculates current.pair root
  /-- The record that is shown is held in the only slot of its pair. -/
  found : s.spans.held[slot]? = some current
  single : ∀ (j : Nat) (r : SpanRecord), s.spans.held[j]? = some r → r.pair = current.pair → j = slot
  /-- Nothing changes but the index, that slot and that position. -/
  recalculated : s.recalculate position =
    ({ s with spans := s.spans.seat current.pair slot position root, revision := s.revision + 1 },
      some root)
  held : (s.recalculate position).1.spans.held[slot]? = some root
  shown : (s.recalculate position).1.spans.shown[position]? = some root
  /-- A second recalculation gives back the same root and changes nothing. -/
  again : (s.recalculate position).1.recalculate position =
    ((s.recalculate position).1.touch, some root)

variable {limits : StoreSettings} {s s₀ : Store} {rs : List SpanRecord} {position : Nat}
  {current root : SpanRecord}

theorem recalculate_of_length_le (h : s.spans.shown.length ≤ position) :
    s.recalculate position = (s, none) := by
  rw [recalculate, SpanShelf.recalculate_of_length_le h]

theorem recalculate_of_some {spans : SpanShelf} (h : s.spans.recalculate position = (spans, some root)) :
    s.recalculate position = ({ s with spans }.touch, some root) := by
  rw [recalculate, h]

theorem exists_corrects (h : s.spans.Settled rs) (hshown : s.spans.shown[position]? = some current) :
    ∃ slot root, s.Corrects position slot current root := by
  obtain ⟨slot, root, hslot, hpair, hroot, e⟩ := h.recalculate_of_shown hshown
  have hs := recalculate_of_some e
  have hindex : s.spans.index.Recalculates current.pair root := h.index.recalculates hroot
  have hheld : (s.spans.held.set slot root)[slot]? = some root :=
    List.getElem?_set_self (List.getElem?_eq_some_iff.mp hslot).1
  have hview : (s.spans.shown.set position root)[position]? = some root :=
    List.getElem?_set_self (List.getElem?_eq_some_iff.mp hshown).1
  have h' : (s.spans.seat current.pair slot position root).Settled rs := by
    have h' := h.recalculate position
    rwa [e] at h'
  have hagain := h'.recalculate_again hview (hpair ▸ hindex.again)
  refine ⟨slot, root, hroot, hpair, hindex, hslot, fun _ _ => h.eq_slot hslot, hs, ?_, ?_, ?_⟩
  · rw [hs]
    exact hheld
  · rw [hs]
    exact hview
  · rw [hs]
    exact recalculate_of_some hagain

/-- A recalculation is done completely or not at all, in every state of a store. At a position
that shows nothing it gives back nothing, and the store stays as it is. At any other position it
gives back the root that the index chooses for the pair which is shown there. The root is then at
that position and in the only slot of the pair on the shelf; nothing else changes, and a second
recalculation gives back the same root. -/
theorem serveAll_recalculates (h : create limits = .ok s₀) (requests : List Request)
    (position : Nat) :
    let s := (s₀.serveAll requests).1
    ((s.recalculate position).2 = none ↔ s.spans.shown.length ≤ position) ∧
    (s.spans.shown.length ≤ position → s.recalculate position = (s, none)) ∧
    ∀ current, s.spans.shown[position]? = some current →
      ∃ slot root, s.Corrects position slot current root := by
  intro s
  obtain ⟨rs, hs⟩ := exists_settled_serveAll (settled_of_create h) requests
  refine ⟨⟨fun hnone => ?_, fun hle => ?_⟩, recalculate_of_length_le, fun _ => exists_corrects hs⟩
  · by_contra hlt
    have hshown := List.getElem?_eq_getElem (Nat.lt_of_not_le hlt)
    obtain ⟨slot, root, hdone⟩ := exists_corrects hs hshown
    rw [hdone.recalculated] at hnone
    cases hnone
  · rw [recalculate_of_length_le hle]

/-- Three generations of a pair, which is the second on the shelf and shown alone. -/
theorem serveAll_recalculates_of_generations :
    let requests : List Request := [.act (addSpan "db" 2 9 0), .act (addSpan "web" 1 3 2),
      .act (addSpan "web" 1 1 0), .act (addSpan "web" 1 2 1), .act (.filterSpans "web" .arrival)]
    let s := ((empty ⟨2, 2, 2⟩).serveAll requests).1
    create ⟨2, 2, 2⟩ = .ok (empty ⟨2, 2, 2⟩) ∧ s.spans.shown.map (·.spanId) = [.ofNat 2] ∧
      s.recalculate 1 = (s, none) ∧
      ∃ current slot root, s.Corrects 0 slot current root ∧
        (s.recalculate 0).2.map (·.spanId) = some (.ofNat 1) ∧
        (s.recalculate 0).1.spans.held.map (·.spanId) = [.ofNat 9, .ofNat 1] := by
  intro requests s
  have hcreate : create ⟨2, 2, 2⟩ = .ok (empty ⟨2, 2, 2⟩) := rfl
  have hlength : s.spans.shown.length = 1 := rfl
  obtain ⟨-, hbeyond, -⟩ := serveAll_recalculates hcreate requests 1
  obtain ⟨-, -, hshown⟩ := serveAll_recalculates hcreate requests 0
  obtain ⟨slot, root, hcorrects⟩ := hshown s.spans.shown[0] (List.getElem?_eq_getElem (by decide))
  exact ⟨hcreate, rfl, hbeyond hlength.le, _, slot, root, hcorrects, rfl, rfl⟩

end Store

end Telemetry
