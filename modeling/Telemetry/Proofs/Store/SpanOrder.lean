import Telemetry.Proofs.List.Sorting
import Telemetry.SpanOrder

/-!
# Stable orders

A sorted list is determined by the list that it is made of: it has the same records, by
ascending rank, and those of equal rank as they came. So it makes no difference whether some
records are left out before the sorting or after it.

* `SpanOrder.Arranges order l result`: `result` is `l` in that order, and `Arranges.unique`
  says that there is no other;
* `SpanOrder.sort_arranges`;
* `SpanOrder.sort_filter`: sorting commutes with filtering.
-/

namespace Telemetry.SpanOrder

/-- The rank of a record in an order. -/
def rank (order : SpanOrder) (r : SpanRecord) : Int :=
  match order with
  | .arrival => 0
  | .latencyDesc => -r.latency
  | .latencyAsc => r.latency

variable {order : SpanOrder}

theorem isLE_compare {a b : SpanRecord} :
    (order.compare a b).isLE ↔ order.rank a ≤ order.rank b := by
  cases order with
  | arrival => simp [compare, rank]
  | latencyDesc =>
    rw [compare, Nat.isLE_compare, rank, rank]
    omega
  | latencyAsc =>
    rw [compare, Nat.isLE_compare, rank, rank]
    omega

theorem compare_eq_eq {a b : SpanRecord} :
    order.compare a b = .eq ↔ order.rank a = order.rank b := by
  cases order with
  | arrival => simp [compare, rank]
  | latencyDesc =>
    rw [compare, Nat.compare_eq_eq, rank, rank]
    omega
  | latencyAsc =>
    rw [compare, Nat.compare_eq_eq, rank, rank]
    omega

/-- The records of a list that have a given rank. -/
def ofRank (order : SpanOrder) (n : Int) (l : List SpanRecord) : List SpanRecord :=
  l.filter fun r => order.rank r = n

theorem ofRank_cons (order : SpanOrder) (n : Int) (a : SpanRecord) (l : List SpanRecord) :
    order.ofRank n (a :: l) =
      if order.rank a = n then a :: order.ofRank n l else order.ofRank n l := by
  rw [ofRank, List.filter_cons]
  simp only [decide_eq_true_eq, ofRank]

/-- The list is another one in an order: the same records by ascending rank, and those of
equal rank in the order in which they came. -/
structure Arranges (order : SpanOrder) (l result : List SpanRecord) : Prop where
  perm : result.Perm l
  sorted : result.Pairwise fun a b => (order.compare a b).isLE
  stable : ∀ a, result.filter (order.compare a · = .eq) = l.filter (order.compare a · = .eq)

namespace Arranges

variable {l result other : List SpanRecord}

theorem ofRank_eq (h : order.Arranges l result) (n : Int) :
    order.ofRank n result = order.ofRank n l := by
  by_cases hn : ∃ a, order.rank a = n
  · obtain ⟨a, rfl⟩ := hn
    have hclass : (fun b => decide (order.compare a b = .eq)) =
        fun b => decide (order.rank b = order.rank a) :=
      funext fun b => decide_eq_decide.mpr (compare_eq_eq.trans eq_comm)
    have hstable := h.stable a
    rwa [hclass] at hstable
  · have hnone (l : List SpanRecord) : order.ofRank n l = [] :=
      List.filter_eq_nil_iff.mpr fun a _ ha => hn ⟨a, of_decide_eq_true ha⟩
    rw [hnone, hnone]

/-- The first record has the least rank of all. -/
theorem rank_head_le {a b : SpanRecord} {rest : List SpanRecord}
    (h : (a :: rest).Pairwise fun a b => (order.compare a b).isLE) (hb : b ∈ a :: rest) :
    order.rank a ≤ order.rank b := by
  rcases List.mem_cons.mp hb with rfl | hb
  · exact Int.le_refl _
  · exact isLE_compare.mp ((List.pairwise_cons.mp h).1 b hb)

/-- Sorted lists with the same records of every rank, in the same order, are the same. -/
theorem eq_of_ofRank (hperm : result.Perm other)
    (hsorted : result.Pairwise fun a b => (order.compare a b).isLE)
    (hsorted' : other.Pairwise fun a b => (order.compare a b).isLE)
    (hranks : ∀ n, order.ofRank n result = order.ofRank n other) : result = other := by
  induction result generalizing other with
  | nil => exact (List.nil_perm.mp hperm).symm
  | cons a rest ih =>
    cases other with
    | nil => exact absurd hperm List.not_perm_cons_nil
    | cons b rest' =>
      have hab : order.rank a = order.rank b := Int.le_antisymm
        (rank_head_le hsorted (hperm.mem_iff.mpr List.mem_cons_self))
        (rank_head_le hsorted' (hperm.mem_iff.mp List.mem_cons_self))
      -- of the records with the least rank, `a` and `b` are the first
      have hfirst := hranks (order.rank a)
      rw [ofRank_cons, ofRank_cons, if_pos rfl, if_pos hab.symm] at hfirst
      obtain ⟨rfl, -⟩ := List.cons.inj hfirst
      refine congrArg (a :: ·) (ih hperm.cons_inv hsorted.tail hsorted'.tail fun n => ?_)
      have hn := hranks n
      rw [ofRank_cons, ofRank_cons] at hn
      split at hn
      · exact (List.cons.inj hn).2
      · exact hn

/-- There is one list at most that is another one in an order. -/
theorem unique (h : order.Arranges l result) (h' : order.Arranges l other) : result = other :=
  eq_of_ofRank (h.perm.trans h'.perm.symm) h.sorted h'.sorted fun n =>
    (h.ofRank_eq n).trans (h'.ofRank_eq n).symm

/-- Records that are left out of a list are left out of the sorted list. -/
theorem filter (h : order.Arranges l result) (p : SpanRecord → Bool) :
    order.Arranges (l.filter p) (result.filter p) where
  perm := h.perm.filter p
  sorted := h.sorted.filter p
  stable a := by
    rw [List.filter_filter, List.filter_filter]
    simp only [Bool.and_comm _ (p _)]
    rw [← List.filter_filter, ← List.filter_filter, h.stable a]

end Arranges

/-- Sorting arranges a list in the order. -/
theorem sort_arranges (order : SpanOrder) (l : List SpanRecord) :
    order.Arranges l (order.sort l) := by
  have hmerge : order.Arranges l (l.mergeSort fun a b => (order.compare a b).isLE) := by
    have htrans : ∀ a b c, (order.compare a b).isLE → (order.compare b c).isLE →
        (order.compare a c).isLE := fun a b c hab hbc =>
      isLE_compare.mpr (Int.le_trans (isLE_compare.mp hab) (isLE_compare.mp hbc))
    have htotal : ∀ a b, (order.compare a b).isLE || (order.compare b a).isLE := fun a b => by
      rw [Bool.or_eq_true, isLE_compare, isLE_compare]
      exact Int.le_total ..
    -- the records of one rank are in order as they stand, so they stay as they are
    have hclass : ∀ a b c, order.compare a b = .eq → order.compare a c = .eq →
        (order.compare b c).isLE := fun a b c hb hc =>
      isLE_compare.mpr (compare_eq_eq.mp hb ▸ compare_eq_eq.mp hc ▸ Int.le_refl _)
    refine ⟨List.mergeSort_perm .., List.pairwise_mergeSort htrans htotal l, fun a => ?_⟩
    exact filter_mergeSort htrans htotal
      (fun b c hb hc => hclass a b c (of_decide_eq_true hb) (of_decide_eq_true hc)) l
  cases order with
  | arrival =>
    refine ⟨.refl l, ?_, fun _ => rfl⟩
    exact List.pairwise_of_forall fun _ _ => rfl
  | latencyDesc => exact hmerge
  | latencyAsc => exact hmerge

theorem sort_perm (order : SpanOrder) (l : List SpanRecord) : (order.sort l).Perm l :=
  (order.sort_arranges l).perm

/-- Sorting commutes with filtering. -/
theorem sort_filter (order : SpanOrder) (p : SpanRecord → Bool) (l : List SpanRecord) :
    order.sort (l.filter p) = (order.sort l).filter p :=
  (order.sort_arranges (l.filter p)).unique ((order.sort_arranges l).filter p)

end Telemetry.SpanOrder
