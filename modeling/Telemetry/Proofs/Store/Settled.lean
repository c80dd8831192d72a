import Telemetry.Proofs.Store.SpanOrder
import Telemetry.Proofs.Store.SpanShelf

/-!
# The shelf of spans between two actions

During a batch the shelf may hold more than its limit, and the view may show what is no
longer held. Between two actions neither is so.

* `SpanShelf.Settled`: the records are kept, within the limit, and what is shown is held;
* `Settled.ingest`: the records after a batch are those before and the fresh ones, of the
  pairs that are retained;
* `Settled.recalculate_cases`: a recalculation changes nothing, or it puts another record
  of the same pair on the shelf and into the view;
* `exists_settled_foldl`: a shelf stays settled whatever is done to it.
-/

namespace Telemetry

open SpanRecord (reseat)

namespace SpanShelf

/-- The records are kept, no more pairs than the limit allows, and what is shown is held,
once at most. -/
structure Settled (s : SpanShelf) (rs : List SpanRecord) : Prop extends s.Keeps rs where
  within : s.held.length ≤ s.limit
  shown_subset : s.shown ⊆ s.held
  shown_nodup : (s.shown.map (·.pair)).Nodup

theorem settled_empty (limit : Nat) : (empty limit).Settled [] where
  toKeeps := keeps_empty limit
  within := Nat.zero_le _
  shown_subset := List.Subset.refl _
  shown_nodup := List.nodup_nil

variable {s : SpanShelf} {rs : List SpanRecord}

/-- A view that is brought up to date shows what is held. -/
theorem Keeps.refresh (h : s.Keeps rs) (hw : s.held.length ≤ s.limit) : s.refresh.Settled rs where
  index := h.index
  pairs := h.pairs
  roots := h.roots
  serials := h.serials
  serials_lt := h.serials_lt
  within := hw
  shown_subset _ hr := List.mem_of_mem_filter ((s.order.sort_perm _).mem_iff.mp hr)
  shown_nodup :=
    ((s.order.sort_perm _).map _).nodup_iff.mpr (h.nodup_pairs.sublist (List.filter_sublist.map _))

theorem Settled.filter (h : s.Settled rs) (query : String) (order : SpanOrder) :
    (s.filter query order).Settled rs :=
  have hkeeps : ({ s with query, order } : SpanShelf).Keeps rs :=
    ⟨h.index, h.pairs, h.roots, h.serials, h.serials_lt⟩
  hkeeps.refresh h.within

theorem pairs_ingest (s : SpanShelf) (groups : List (Group Span)) :
    (s.ingest groups).pairs = retained s.limit ((Group.flatten groups).foldl take s).pairs := by
  have hlimit := limit_foldl_take s (Group.flatten groups)
  exact hlimit ▸ pairs_rotate ((Group.flatten groups).foldl take s)

theorem Settled.ingest (h : s.Settled rs) (groups : List (Group Span)) :
    (s.ingest groups).Settled
      ((rs ++ s.fresh groups).filter fun r => r.pair ∈ (s.ingest groups).pairs) := by
  refine (h.foldl_take groups).rotate.refresh ?_
  show (retained _ _).length ≤ _
  rw [length_retained]
  exact Nat.min_le_right ..

/-! ## Recalculation -/

/-- What a recalculation does: nothing, if nothing is shown at the position; else it puts
the entry of the pair that is shown there into the places of that pair. -/
theorem Settled.recalculate_cases (h : s.Settled rs) (position : Nat) :
    (s.shown[position]? = none ∧ s.recalculate position = (s, none)) ∨
    ∃ current root, s.shown[position]? = some current ∧ root.pair = current.pair ∧
      entryOf? (rs.filter fun r => r.pair = current.pair) = some root ∧
      s.recalculate position =
        ({ s with
            index := s.index.setRoot root.pair (.choose root)
            held := reseat s.held root
            shown := reseat s.shown root }, some root) := by
  cases hc : s.shown[position]? with
  | none => exact .inl ⟨rfl, by simp only [SpanShelf.recalculate, hc]⟩
  | some current =>
    have hheld : current ∈ s.held := h.shown_subset (List.mem_of_getElem? hc)
    have hcases := h.index.recalculate_cases current.pair
    rw [Ledger.ofPair_own] at hcases
    rcases hcases with ⟨hnil, -⟩ | ⟨root, hm, hroot, e⟩
    · have hp : current.pair ∈ rs.map (·.pair) := List.mem_map_of_mem (h.mem_of_held hheld)
      exact absurd hp (Ledger.ofPair_own_eq_nil.mp ((Ledger.ofPair_own ..).trans hnil))
    · have hpair : root.pair = current.pair := of_decide_eq_true (List.mem_filter.mp hm).2
      have hslot : replaceFirst (·.serial == current.serial) root s.held = reseat s.held root := by
        refine replaceFirst_eq_map root (fun b hb => ?_) h.nodup_pairs
        rw [beq_iff_eq, hpair]
        exact ⟨fun e => congrArg _ (h.eq_of_serial (h.mem_of_held hb) (h.mem_of_held hheld) e),
          fun e => congrArg _ (h.eq_of_pair hb hheld e)⟩
      have hview : s.shown.set position root = reseat s.shown root :=
        (reseat_eq_set hc h.shown_nodup hpair).symm
      refine .inr ⟨current, root, rfl, hpair, hroot, ?_⟩
      simp only [SpanShelf.recalculate, hc, e, hslot, hview, hpair]

theorem Settled.recalculate (h : s.Settled rs) (position : Nat) :
    (s.recalculate position).1.Settled rs := by
  rcases h.recalculate_cases position with ⟨-, e⟩ | ⟨current, root, hc, hpair, hroot, e⟩
  · rwa [e]
  · have hheld : current ∈ s.held := h.shown_subset (List.mem_of_getElem? hc)
    have hmem : root ∈ (Ledger.own rs).ofPair root.pair := by
      rw [Ledger.ofPair_own, hpair]
      exact TraceIndex.mem_of_entryOf? hroot
    rw [e]
    exact {
      index := h.index.setRoot hmem
      pairs := (map_pair_reseat ..).trans h.pairs
      roots := roots_reseat h.roots fun q => TraceIndex.representative?_setRoot ..
      serials := h.serials
      serials_lt := h.serials_lt
      within := (List.length_map ..).trans_le h.within
      shown_subset b hb := by
        rcases mem_reseat.mp hb with ⟨rfl, -⟩ | ⟨hb, hne⟩
        · exact mem_reseat.mpr (.inl ⟨rfl, hpair ▸ List.mem_map_of_mem hheld⟩)
        · exact mem_reseat.mpr (.inr ⟨h.shown_subset hb, hne⟩)
      shown_nodup := (map_pair_reseat ..).symm ▸ h.shown_nodup }

theorem Settled.pairs_recalculate (h : s.Settled rs) (position : Nat) :
    (s.recalculate position).1.pairs = s.pairs := by
  rcases h.recalculate_cases position with ⟨-, e⟩ | ⟨current, root, -, -, -, e⟩
  · rw [e]
  · rw [e]
    exact map_pair_reseat ..

/-! ## Any action -/

theorem limit_recalculate (s : SpanShelf) (position : Nat) :
    (s.recalculate position).1.limit = s.limit := by
  unfold recalculate
  split
  · rfl
  · split <;> rfl

theorem limit_act (s : SpanShelf) (a : Action) : (s.act a).limit = s.limit := by
  cases a with
  | addSpans groups => exact limit_foldl_take ..
  | recalculate position => exact limit_recalculate ..
  | _ => rfl

theorem limit_foldl_act (s : SpanShelf) (actions : List Action) :
    (actions.foldl act s).limit = s.limit :=
  foldl_unchanged SpanShelf.limit act limit_act actions s

theorem Settled.act (h : s.Settled rs) (a : Action) : ∃ rs', (s.act a).Settled rs' := by
  cases a with
  | addSpans groups => exact ⟨_, h.ingest groups⟩
  | filterSpans query order => exact ⟨_, h.filter query order⟩
  | recalculate position => exact ⟨_, h.recalculate position⟩
  | flush => exact ⟨_, settled_empty s.limit⟩
  | addLogs | addMetrics | filterLogs | filterMetrics => exact ⟨rs, h⟩

theorem exists_settled_foldl (h : s.Settled rs) (actions : List Action) :
    ∃ rs', (actions.foldl SpanShelf.act s).Settled rs' := by
  induction actions generalizing s rs with
  | nil => exact ⟨rs, h⟩
  | cons a actions ih =>
    obtain ⟨rs', h'⟩ := h.act a
    exact ih h'

end SpanShelf

end Telemetry
