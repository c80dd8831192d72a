/-!
# A queue of limited capacity

First in, first out; what does not fit is refused.

* `Queue.offer`: one more element at the end, if there is room;
* `Queue.takeUpTo`, `Queue.take?`, `Queue.drain`: some, one, or all from the front.

`elements_of_offer` and `elements_of_take?` say what both ends do to the elements, and
`takeUpTo_succ` that to take some is to take one after the other.
-/

namespace Telemetry

/-- A queue that holds at most `capacity` elements. -/
structure Queue (α : Type) where
  capacity : Nat
  /-- The elements, the oldest one first. -/
  elements : List α
  within : elements.length ≤ capacity := by simp

/-- A queue has no room. -/
inductive QueueError where
  | full
  deriving DecidableEq

/-- The wording of the error. -/
def QueueError.message : QueueError → String
  | .full => "Failed to capture batch: queue is full"

namespace Queue

variable {α : Type}

/-- The queue without elements. -/
def empty (capacity : Nat) : Queue α := { capacity, elements := [] }

/-- How many elements wait. -/
def size (q : Queue α) : Nat := q.elements.length

/-- Whether no element waits. -/
def isEmpty (q : Queue α) : Bool := q.elements.isEmpty

/-- Adds an element at the end, if there is room. -/
def offer (q : Queue α) (a : α) : Except QueueError (Queue α) :=
  if h : q.elements.length < q.capacity then
    .ok
      { q with
        elements := q.elements ++ [a]
        within := by simp only [List.length_append, List.length_singleton]; omega }
  else .error .full

/-- What is offered and fits stands last. -/
theorem elements_of_offer {q q' : Queue α} {a : α} (h : q.offer a = .ok q') :
    q'.elements = q.elements ++ [a] ∧ q'.capacity = q.capacity := by
  simp only [offer] at h
  split at h
  · obtain rfl := Except.ok.inj h
    exact ⟨rfl, rfl⟩
  · exact absurd h (by simp)

/-- What is refused finds no room. -/
theorem size_of_offer_eq_error {q : Queue α} {a : α} {err : QueueError}
    (h : q.offer a = .error err) : q.size = q.capacity := by
  simp only [offer] at h
  split at h
  · cases h
  · have := q.within
    simp only [size]
    omega

/-- Takes up to `count` elements from the front: them, and the queue without them. -/
def takeUpTo (q : Queue α) (count : Nat) : List α × Queue α :=
  (q.elements.take count,
    { q with
      elements := q.elements.drop count
      within := by have := q.within; simp only [List.length_drop]; omega })

/-- Takes the oldest element, if there is one. -/
def take? (q : Queue α) : Option (α × Queue α) :=
  match q.takeUpTo 1 with
  | (a :: _, rest) => some (a, rest)
  | ([], _) => none

/-- What is taken stood first. -/
theorem elements_of_take? {q q' : Queue α} {a : α} (h : q.take? = some (a, q')) :
    q.elements = a :: q'.elements ∧ q'.capacity = q.capacity := by
  obtain ⟨capacity, elements, within⟩ := q
  cases elements with
  | nil => cases h
  | cons x rest =>
    obtain ⟨rfl, rfl⟩ := Prod.mk.inj (Option.some.inj h)
    exact ⟨rfl, rfl⟩

theorem take?_eq_none {q : Queue α} : q.take? = none ↔ q.elements = [] := by
  obtain ⟨capacity, elements, within⟩ := q
  cases elements with
  | nil => exact iff_of_true rfl rfl
  | cons x rest => exact iff_of_false nofun nofun

/-- To take one more is to take the oldest one first. -/
theorem takeUpTo_succ {q q' : Queue α} {a : α} (h : q.take? = some (a, q')) (count : Nat) :
    q.takeUpTo (count + 1) = (a :: (q'.takeUpTo count).1, (q'.takeUpTo count).2) := by
  obtain ⟨capacity, elements, within⟩ := q
  cases elements with
  | nil => cases h
  | cons x rest =>
    obtain ⟨rfl, rfl⟩ := Prod.mk.inj (Option.some.inj h)
    rfl

theorem takeUpTo_of_take?_eq_none {q : Queue α} (h : q.take? = none) (count : Nat) :
    q.takeUpTo count = ([], q) := by
  have helements : q.elements = [] := take?_eq_none.mp h
  obtain ⟨capacity, elements, within⟩ := q
  obtain rfl : elements = [] := helements
  simp only [takeUpTo, List.take_nil, List.drop_nil]

/-- Takes all elements. -/
def drain (q : Queue α) : List α × Queue α :=
  q.takeUpTo q.size

end Queue

end Telemetry
