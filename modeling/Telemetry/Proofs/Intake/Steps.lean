import Telemetry.Intake.Engine
import Telemetry.Proofs.Store.Run

/-!
# An engine among others

Others capture batches, write to the store, and start and stop the engine, while its worker
takes one batch after the other from the queue and applies it. Every order in which these
steps can come is a run; calls of start and stop wait for each other.

* `Engine.Moment`: an engine with what its worker is at;
* `Engine.Step`, `Engine.Run`: a step, and steps one after the other, with the events that
  can be told of them;
* `Engine.accepted`, `Engine.applied`, `Engine.actions`: what was accepted, what was applied,
  and what was done to the store, told from the events;
* `Step.conserves`, `Run.conserves`: what is taken from the queue is at hand or applied.
-/

namespace Telemetry.Engine

/-- What the worker is at. A round begins and ends at rest. -/
inductive Work where
  | rest
  /-- Taking up to `room` batches more. -/
  | take (room : Nat) (hand : List Batch)
  /-- Taking all that wait. -/
  | drain (hand : List Batch)
  /-- Applying what is at hand; `last` if the worker ends then. -/
  | apply (hand : List Batch) (last : Bool)

namespace Work

/-- What has been taken and not been applied yet. -/
def hand : Work → List Batch
  | .rest => []
  | .take _ hand | .drain hand | .apply hand _ => hand

/-- Whether nothing will be taken any more. -/
def last : Work → Bool
  | .apply _ last => last
  | .rest | .take _ _ | .drain _ => false

/-- Whether the worker has seen that it has to end. -/
def ending : Work → Bool
  | .drain _ => true
  | .apply _ last => last
  | .rest | .take _ _ => false

theorem ending_of_last {w : Work} (h : w.last = true) : w.ending = true := by
  cases w with
  | apply => exact h
  | _ => cases h

end Work

/-- An engine at some moment of a run. -/
structure Moment where
  engine : Engine
  work : Work
  /-- Whether a call of stop has not returned yet. -/
  stopping : Bool

/-- What can be told of a step. -/
inductive Event where
  | accepted (b : Batch)
  | refused (b : Batch)
  /-- Somebody else does something to the store. -/
  | wrote (a : Action)
  | started
  | stopCalled
  | stopReturned
  | applied (b : Batch)
  /-- The worker, which is about to end, has found the queue empty. -/
  | drained
  /-- The worker goes on. -/
  | turned

/-- Whether the step is one of the worker. -/
def Event.ofWorker : Event → Bool
  | .applied _ | .drained | .turned => true
  | _ => false

/-- One step of an engine, of somebody who uses it or of its worker. -/
inductive Step : Moment → Event → Moment → Prop
  -- what others do
  | capture {e e' : Engine} {w : Work} {p : Bool} {b : Batch} (h : e.capture b = .ok e') :
      Step ⟨e, w, p⟩ (.accepted b) ⟨e', w, p⟩
  | refuse {e : Engine} {w : Work} {p : Bool} {b : Batch} {err : QueueError}
      (h : e.capture b = .error err) : Step ⟨e, w, p⟩ (.refused b) ⟨e, w, p⟩
  | write {e : Engine} {w : Work} {p : Bool} (a : Action) :
      Step ⟨e, w, p⟩ (.wrote a) ⟨{ e with store := (e.store.act a).1 }, w, p⟩
  | start {e : Engine} {w : Work} : Step ⟨e, w, false⟩ .started ⟨e.start, w, false⟩
  | callStop {e : Engine} {w : Work} : Step ⟨e, w, false⟩ .stopCalled ⟨e.requestStop, w, true⟩
  | returnStop {e : Engine} {w : Work} (h : e.hasWorker = false) :
      Step ⟨e, w, true⟩ .stopReturned ⟨e, w, false⟩
  -- a round of the worker while the engine runs; the flag is read where the round begins
  | beginTake {e : Engine} {p : Bool} (hw : e.hasWorker = true) (hr : e.running = true) :
      Step ⟨e, .rest, p⟩ .turned ⟨e, .take e.settings.batchSize [], p⟩
  | take {e : Engine} {p : Bool} {room : Nat} {hand : List Batch} {b : Batch} {q : Queue Batch}
      (h : e.queue.take? = some (b, q)) :
      Step ⟨e, .take (room + 1) hand, p⟩ .turned ⟨{ e with queue := q }, .take room (hand ++ [b]), p⟩
  | endTake {e : Engine} {p : Bool} {room : Nat} {hand : List Batch}
      (h : room = 0 ∨ e.queue.take? = none) :
      Step ⟨e, .take room hand, p⟩ .turned ⟨e, .apply hand false, p⟩
  -- the last round; what is captured before the queue is found empty is still taken
  | beginDrain {e : Engine} {p : Bool} (hw : e.hasWorker = true) (hr : e.running = false) :
      Step ⟨e, .rest, p⟩ .turned ⟨e, .drain [], p⟩
  | drain {e : Engine} {p : Bool} {hand : List Batch} {b : Batch} {q : Queue Batch}
      (h : e.queue.take? = some (b, q)) :
      Step ⟨e, .drain hand, p⟩ .turned ⟨{ e with queue := q }, .drain (hand ++ [b]), p⟩
  | endDrain {e : Engine} {p : Bool} {hand : List Batch} (h : e.queue.take? = none) :
      Step ⟨e, .drain hand, p⟩ .drained ⟨e, .apply hand true, p⟩
  -- the end of a round
  | apply {e : Engine} {p : Bool} {b : Batch} {hand : List Batch} {last : Bool} :
      Step ⟨e, .apply (b :: hand) last, p⟩ (.applied b)
        ⟨{ e with store := (e.store.apply b).1 }, .apply hand last, p⟩
  | endApply {e : Engine} {p : Bool} : Step ⟨e, .apply [] false, p⟩ .turned ⟨e, .rest, p⟩
  | finish {e : Engine} {p : Bool} :
      Step ⟨e, .apply [] true, p⟩ .turned ⟨{ e with hasWorker := false }, .rest, p⟩

/-- Steps one after the other, in any order that is possible. -/
inductive Run : Moment → List Event → Moment → Prop
  | nil {s : Moment} : Run s [] s
  | step {s s₁ s' : Moment} {ev : Event} {events : List Event} (hstep : Step s ev s₁)
      (hrun : Run s₁ events s') : Run s (ev :: events) s'

theorem run_append {s s' : Moment} {events later : List Event} :
    Run s (events ++ later) s' ↔ ∃ s₁, Run s events s₁ ∧ Run s₁ later s' := by
  constructor
  · intro h
    induction events generalizing s with
    | nil => exact ⟨s, .nil, h⟩
    | cons ev events ih =>
      obtain _ | ⟨hstep, hrun⟩ := h
      obtain ⟨s₁, h₁, h₂⟩ := ih hrun
      exact ⟨s₁, .step hstep h₁, h₂⟩
  · rintro ⟨s₁, h₁, h₂⟩
    induction h₁ with
    | nil => exact h₂
    | step hstep _ ih => exact .step hstep (ih h₂)

/-! ## What the events tell -/

/-- The batch that has been accepted, if one has. -/
def Event.accepted? : Event → Option Batch
  | .accepted b => some b
  | _ => none

/-- The batch that has been applied to the store, if one has. -/
def Event.applied? : Event → Option Batch
  | .applied b => some b
  | _ => none

/-- What has been done to the store, be it by a batch or by a write of others, if anything. -/
def Event.action? : Event → Option Action
  | .applied b => some b.action
  | .wrote a => some a
  | _ => none

/-- The batches that were accepted, in order. -/
def accepted (events : List Event) : List Batch := events.filterMap Event.accepted?

/-- The batches that were applied to the store, in order. -/
def applied (events : List Event) : List Batch := events.filterMap Event.applied?

/-- What was done to the store, by the worker or by others, in order. -/
def actions (events : List Event) : List Action := events.filterMap Event.action?

@[simp] theorem accepted_nil : accepted [] = [] := rfl

@[simp] theorem accepted_cons (ev : Event) (events : List Event) :
    accepted (ev :: events) = ev.accepted?.toList ++ accepted events := by
  cases ev <;> rfl

@[simp] theorem accepted_append (events later : List Event) :
    accepted (events ++ later) = accepted events ++ accepted later :=
  List.filterMap_append

@[simp] theorem applied_nil : applied [] = [] := rfl

@[simp] theorem applied_cons (ev : Event) (events : List Event) :
    applied (ev :: events) = ev.applied?.toList ++ applied events := by
  cases ev <;> rfl

@[simp] theorem applied_append (events later : List Event) :
    applied (events ++ later) = applied events ++ applied later :=
  List.filterMap_append

theorem actions_append (events later : List Event) :
    actions (events ++ later) = actions events ++ actions later :=
  List.filterMap_append

/-- Where nobody else writes to the store, batches are all that is done to it. -/
theorem actions_eq_map_applied {events : List Event} (h : ∀ a, .wrote a ∉ events) :
    actions events = (applied events).map Batch.action := by
  rw [actions, applied, List.map_filterMap]
  refine List.filterMap_congr fun ev hev => ?_
  cases ev with
  | wrote a => exact absurd hev (h a)
  | _ => rfl

variable {s s' : Moment} {ev : Event}

/-! ## What is conserved -/

theorem capture_eq_ok {e e' : Engine} {b : Batch} (h : e.capture b = .ok e') :
    ∃ q, e.queue.offer b = .ok q ∧ e' = { e with queue := q } := by
  unfold capture at h
  split at h
  · rename_i q hq
    exact ⟨q, hq, (Except.ok.inj h).symm⟩
  · cases h

theorem size_of_capture_eq_error {e : Engine} {b : Batch} {err : QueueError}
    (h : e.capture b = .error err) : e.queue.size = e.queue.capacity := by
  unfold capture at h
  split at h
  · cases h
  · rename_i hq
    exact Queue.size_of_offer_eq_error hq

theorem start_eq (e : Engine) :
    e.start.queue = e.queue ∧ e.start.store = e.store ∧ e.start.running = true := by
  unfold start
  split
  · rename_i hr
    exact ⟨rfl, rfl, hr⟩
  · exact ⟨rfl, rfl, rfl⟩

/-- What is at hand or waits before a step, or is accepted in it, is applied in it, or at
hand or waiting after it, in the same order. -/
theorem Step.conserves (h : Step s ev s') :
    applied [ev] ++ s'.work.hand ++ s'.engine.queue.elements =
      s.work.hand ++ s.engine.queue.elements ++ accepted [ev] := by
  cases h with
  | capture hc =>
    obtain ⟨q, hq, rfl⟩ := capture_eq_ok hc
    obtain ⟨helements, -⟩ := Queue.elements_of_offer hq
    simp [Event.accepted?, Event.applied?, helements]
  | take ht | drain ht =>
    obtain ⟨helements, -⟩ := Queue.elements_of_take? ht
    simp [Event.accepted?, Event.applied?, Work.hand, helements]
  | @start e w =>
    simp [Event.accepted?, Event.applied?, (start_eq e).1]
  | _ => simp [Event.accepted?, Event.applied?, Work.hand, requestStop]

theorem Step.capacity_eq (h : Step s ev s') :
    s'.engine.queue.capacity = s.engine.queue.capacity := by
  cases h with
  | capture hc =>
    obtain ⟨q, hq, rfl⟩ := capture_eq_ok hc
    exact (Queue.elements_of_offer hq).2
  | take ht | drain ht => exact (Queue.elements_of_take? ht).2
  | @start e w => rw [(start_eq e).1]
  | _ => rfl

/-- Only batches that are applied, and others, change the store. -/
theorem Step.store_eq (h : Step s ev s') : s'.engine.store = s.engine.store.run (actions [ev]) := by
  cases h with
  | capture hc =>
    obtain ⟨q, -, rfl⟩ := capture_eq_ok hc
    rfl
  | @start e w => exact (start_eq e).2.1
  | _ => rfl

section

variable {events : List Event}

/-- All that was accepted has been applied, is at hand or waits, in this order. -/
theorem Run.conserves (h : Run s events s') :
    applied events ++ s'.work.hand ++ s'.engine.queue.elements =
      s.work.hand ++ s.engine.queue.elements ++ accepted events := by
  induction h with
  | nil => exact (List.append_nil _).symm
  | @step s s₁ s' ev events hstep _ ih =>
    calc applied ([ev] ++ events) ++ s'.work.hand ++ s'.engine.queue.elements
        = applied [ev] ++ (applied events ++ s'.work.hand ++ s'.engine.queue.elements) := by
          rw [applied_append, List.append_assoc, List.append_assoc, List.append_assoc]
      _ = applied [ev] ++ s₁.work.hand ++ s₁.engine.queue.elements ++ accepted events := by
          rw [ih, List.append_assoc, List.append_assoc, List.append_assoc]
      _ = s.work.hand ++ s.engine.queue.elements ++ accepted ([ev] ++ events) := by
          rw [hstep.conserves, accepted_append, List.append_assoc _ (accepted [ev])]

theorem Run.capacity_eq (h : Run s events s') :
    s'.engine.queue.capacity = s.engine.queue.capacity := by
  induction h with
  | nil => rfl
  | step hstep _ ih => exact ih.trans hstep.capacity_eq

theorem Run.store_eq (h : Run s events s') :
    s'.engine.store = s.engine.store.run (actions events) := by
  induction h with
  | nil => rfl
  | @step s s₁ s' ev events hstep _ ih =>
    change _ = s.engine.store.run (actions ([ev] ++ events))
    rw [ih, hstep.store_eq, actions_append, Store.run, Store.run, Store.run, List.foldl_append]

end

end Telemetry.Engine
