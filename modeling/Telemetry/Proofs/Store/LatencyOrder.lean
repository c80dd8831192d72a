import Mathlib.Data.List.Induction
import Telemetry.Proofs.Store.SpanOrder

/-!
# Spans by latency

Spans that are sorted by latency stand as they came wherever their latencies are equal, be it
that clocks were inverted and both are zero. This fixes the sorted list, and it makes no
difference in which order the spans were shown before.

* `Presents order l result`: what is expected of `l` in an order, said by latencies;
  `presents_iff` says that it is what a stable sort does;
* `KeepsTies`: records of equal latency stay as they stand, under every order;
* `sort_sort`: of two sorts the latter counts, if it is by latency;
* `latest_sort_governs`: the sorted list is the only one with these properties, and of many
  sorts the last one by latency counts.
-/

namespace Telemetry.SpanOrder

variable {order : SpanOrder} {l l' result : List SpanRecord}

/-! ## Ties -/

/-- Records of equal latency stand in the second list as they stand in the first. -/
def KeepsTies (l result : List SpanRecord) : Prop :=
  ∀ n, result.filter (·.latency = n) = l.filter (·.latency = n)

theorem KeepsTies.trans (h : KeepsTies l l') (h' : KeepsTies l' result) : KeepsTies l result :=
  fun n => (h' n).trans (h n)

/-- By latency, records of equal rank are those of equal latency. -/
theorem compare_eq_eq_iff (hne : order ≠ .arrival) {a b : SpanRecord} :
    order.compare a b = .eq ↔ b.latency = a.latency := by
  rw [compare_eq_eq]
  cases order with
  | arrival => exact absurd rfl hne
  | latencyDesc =>
    rw [rank, rank]
    omega
  | latencyAsc =>
    rw [rank, rank]
    omega

theorem exists_ofRank_eq (hne : order ≠ .arrival) (n : Nat) :
    ∃ k, ∀ l : List SpanRecord, order.ofRank k l = l.filter (·.latency = n) := by
  cases order with
  | arrival => exact absurd rfl hne
  | latencyDesc =>
    refine ⟨-n, fun l => List.filter_congr fun r _ => decide_eq_decide.mpr ?_⟩
    rw [rank]
    omega
  | latencyAsc =>
    refine ⟨n, fun l => List.filter_congr fun r _ => decide_eq_decide.mpr ?_⟩
    rw [rank]
    omega

theorem Arranges.keepsTies (h : order.Arranges l result) (hne : order ≠ .arrival) :
    KeepsTies l result := by
  intro n
  obtain ⟨k, hk⟩ := exists_ofRank_eq hne n
  rw [← hk, ← hk, h.ofRank_eq k]

theorem KeepsTies.stable (h : KeepsTies l result) (hne : order ≠ .arrival) (a : SpanRecord) :
    result.filter (order.compare a · = .eq) = l.filter (order.compare a · = .eq) := by
  simp only [compare_eq_eq_iff hne]
  exact h a.latency

/-- No order changes how records of equal latency stand to each other. -/
theorem keepsTies_sort (order : SpanOrder) (l : List SpanRecord) : KeepsTies l (order.sort l) := by
  by_cases hne : order = .arrival
  · subst hne
    exact fun _ => rfl
  · exact (order.sort_arranges l).keepsTies hne

/-! ## The list in an order -/

/-- What is expected of a list that is shown in an order: in that of arrival that it is left
as it is, and in one of latency that it holds the same records, that no latency is greater, or
none smaller, than the one before it, and that ties stay as they came. -/
def Presents (order : SpanOrder) (l result : List SpanRecord) : Prop :=
  match order with
  | .arrival => result = l
  | .latencyDesc =>
    result.Perm l ∧ (result.Pairwise fun a b => b.latency ≤ a.latency) ∧ KeepsTies l result
  | .latencyAsc =>
    result.Perm l ∧ (result.Pairwise fun a b => a.latency ≤ b.latency) ∧ KeepsTies l result

/-- This is what it is to be a list in an order. -/
theorem presents_iff : order.Presents l result ↔ order.Arranges l result := by
  cases order with
  | arrival =>
    constructor
    · rintro rfl
      exact sort_arranges .arrival result
    · intro h
      exact h.unique (sort_arranges .arrival l)
  | latencyDesc =>
    constructor
    · rintro ⟨hperm, hsorted, hties⟩
      exact ⟨hperm, hsorted.imp Nat.isLE_compare.mpr, hties.stable nofun⟩
    · intro h
      exact ⟨h.perm, h.sorted.imp Nat.isLE_compare.mp, h.keepsTies nofun⟩
  | latencyAsc =>
    constructor
    · rintro ⟨hperm, hsorted, hties⟩
      exact ⟨hperm, hsorted.imp Nat.isLE_compare.mpr, hties.stable nofun⟩
    · intro h
      exact ⟨h.perm, h.sorted.imp Nat.isLE_compare.mp, h.keepsTies nofun⟩

/-! ## One sort after the other -/

/-- Sorting by latency after another sort is sorting by latency. -/
theorem sort_sort (hne : order ≠ .arrival) (first : SpanOrder) (l : List SpanRecord) :
    order.sort (first.sort l) = order.sort l := by
  have h := order.sort_arranges (first.sort l)
  -- the first sort has the same records, and ties stand in it as they came
  have harranges : order.Arranges l (order.sort (first.sort l)) :=
    ⟨h.perm.trans (first.sort_perm l), h.sorted,
      ((keepsTies_sort first l).trans (h.keepsTies hne)).stable hne⟩
  exact harranges.unique (order.sort_arranges l)

/-- The last of some orders that is one of latency, if any is. -/
def governing (orders : List SpanOrder) : SpanOrder :=
  (orders.filter (· ≠ .arrival)).getLast?.getD .arrival

theorem governing_concat (orders : List SpanOrder) (order : SpanOrder) :
    governing (orders ++ [order]) = if order = .arrival then governing orders else order := by
  rw [governing, List.filter_append]
  split
  · rename_i h
    have hnone : [order].filter (· ≠ .arrival) = [] :=
      List.filter_eq_nil_iff.mpr fun o ho hne =>
        of_decide_eq_true hne (List.mem_singleton.mp ho ▸ h)
    rw [hnone, List.append_nil, governing]
  · rename_i h
    have hlast : [order].filter (· ≠ .arrival) = [order] :=
      List.filter_eq_self.mpr fun o ho => decide_eq_true (List.mem_singleton.mp ho ▸ h)
    rw [hlast, List.getLast?_concat, Option.getD_some]

/-- Of many sorts one after the other the last one by latency counts. -/
theorem foldl_sort (orders : List SpanOrder) (l : List SpanRecord) :
    orders.foldl (fun l order => order.sort l) l = (governing orders).sort l := by
  induction orders using List.reverseRecOn with
  | nil => rfl
  | append_singleton orders order ih =>
    rw [List.foldl_append, ih, List.foldl_cons, List.foldl_nil, governing_concat]
    split
    · rename_i h
      rw [h]
      rfl
    · rename_i h
      exact sort_sort h (governing orders) l

/-- Sorting gives the list in the given order: in that of arrival the list as it is, and in
one of latency the same records, their latencies never increasing, or never decreasing, and
those of equal latency as they came. There is no other such list. Whatever the order was
before, sorting by latency gives the same list as if it were the first sort; and of many sorts
one after the other, only the last one by latency counts. The latency of a record is the time
from the start of its span to the end, with a leap second that it runs across, or zero when
the clocks were inverted. -/
theorem latest_sort_governs (order : SpanOrder) (l : List SpanRecord) :
    order.Presents l (order.sort l) ∧
    (∀ other, order.Presents l other → other = order.sort l) ∧
    (order ≠ .arrival → ∀ first : SpanOrder, order.sort (first.sort l) = order.sort l) ∧
    (∀ orders : List SpanOrder,
      orders.foldl (fun l order => order.sort l) l = (governing orders).sort l) ∧
    ∀ r : SpanRecord,
      let elapsed := r.span.endTime.total - r.span.startTime.total +
        r.span.startTime.leapAdjustment r.span.endTime * secondNanos
      (r.latency : Int) = if elapsed < 0 then 0 else elapsed := by
  refine ⟨presents_iff.mpr (order.sort_arranges l), fun other h => ?_, fun hne first => ?_,
    fun orders => ?_, fun r => r.span.duration_eq⟩
  · exact (presents_iff.mp h).unique (order.sort_arranges l)
  · exact sort_sort hne first l
  · exact foldl_sort orders l

end Telemetry.SpanOrder
