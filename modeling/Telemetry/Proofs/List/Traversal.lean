import Mathlib.Data.List.Forall2

/-!
# Reading a list up to the first error

A list is read element by element, and not beyond the first one that cannot be read.

* `mapM_eq_ok_iff`: all elements are read;
* `mapM_eq_error_iff`: the error is that of the first element that cannot be read;
* `mapM_eq_some`: if each one has a value, so has the list;
* `forall₂_exists_iff`: what makes the elements of two lists go together, as a list of its own.
-/

namespace Telemetry

variable {α β γ ε : Type} {f : α → Except ε β}

theorem mapM_cons (f : α → Except ε β) (a : α) (as : List α) :
    (a :: as).mapM f = (f a).bind fun b => (as.mapM f).map (b :: ·) := by
  rw [List.mapM_cons]
  cases f a with
  | error e => rfl
  | ok b => cases as.mapM f <;> rfl

theorem mapM_eq_ok_iff {as : List α} {bs : List β} :
    as.mapM f = .ok bs ↔ List.Forall₂ (fun a b => f a = .ok b) as bs := by
  induction as generalizing bs with
  | nil => cases bs <;> simp [pure, Except.pure]
  | cons a as ih =>
    rw [mapM_cons]
    cases ha : f a with
    | error e => cases bs <;> simp [Except.bind, ha]
    | ok b =>
      cases has : as.mapM f with
      | error e => cases bs <;> simp [Except.bind, Except.map, ← ih, ha, has]
      | ok bs' => cases bs <;> simp [Except.bind, Except.map, ← ih, ha, has]

theorem mapM_eq_error_iff {as : List α} {e : ε} :
    as.mapM f = .error e ↔
      ∃ before a after, as = before ++ a :: after ∧ (∀ b ∈ before, ∃ c, f b = .ok c) ∧
        f a = .error e := by
  constructor
  · intro h
    induction as with
    | nil => cases h
    | cons a as ih =>
      rw [mapM_cons] at h
      cases ha : f a with
      | error e' =>
        rw [ha] at h
        obtain rfl := Except.error.inj h
        exact ⟨[], a, as, rfl, List.forall_mem_nil _, ha⟩
      | ok b =>
        cases has : as.mapM f with
        | error e' =>
          rw [ha, has] at h
          obtain rfl := Except.error.inj h
          obtain ⟨before, a', after, rfl, hbefore, ha'⟩ := ih has
          exact ⟨a :: before, a', after, rfl, List.forall_mem_cons.mpr ⟨⟨b, ha⟩, hbefore⟩, ha'⟩
        | ok bs =>
          rw [ha, has] at h
          cases h
  · rintro ⟨before, a, after, rfl, hbefore, ha⟩
    induction before with
    | nil =>
      rw [List.nil_append, mapM_cons, ha]
      rfl
    | cons b before ih =>
      obtain ⟨⟨c, hc⟩, hbefore⟩ := List.forall_mem_cons.mp hbefore
      rw [List.cons_append, mapM_cons, hc, ih hbefore]
      rfl

theorem mapM_eq_some {f : α → Option β} {g : α → β} {as : List α}
    (h : ∀ a ∈ as, f a = some (g a)) : as.mapM f = some (as.map g) := by
  induction as with
  | nil => rfl
  | cons a as ih =>
    obtain ⟨ha, has⟩ := List.forall_mem_cons.mp h
    rw [List.mapM_cons, ha, ih has]
    rfl

/-- Lists whose elements go together are read off one list of what makes them do so. -/
theorem forall₂_exists_iff {p : γ → Prop} {t : γ → α} {r : γ → β} {as : List α} {bs : List β} :
    List.Forall₂ (fun a b => ∃ s, p s ∧ t s = a ∧ r s = b) as bs ↔
      ∃ ss : List γ, (∀ s ∈ ss, p s) ∧ ss.map t = as ∧ ss.map r = bs := by
  constructor
  · intro h
    induction h with
    | nil => exact ⟨[], List.forall_mem_nil _, rfl, rfl⟩
    | cons hab _ ih =>
      obtain ⟨s, hs, rfl, rfl⟩ := hab
      obtain ⟨ss, hss, rfl, rfl⟩ := ih
      exact ⟨s :: ss, List.forall_mem_cons.mpr ⟨hs, hss⟩, rfl, rfl⟩
  · rintro ⟨ss, hss, rfl, rfl⟩
    rw [List.forall₂_map_left_iff, List.forall₂_map_right_iff, List.forall₂_same]
    exact fun s hs => ⟨s, hss s hs, rfl, rfl⟩

end Telemetry
