import Mathlib.Logic.Relation
import Telemetry.Proofs.Intake.Steps

/-!
# Starting and stopping

* `Control`: what running, having a worker and what the worker is at have to do with each
  other;
* `Stops`: what holds from the moment that a running engine is told to stop until the call
  returns;
* `turns_round`, `exists_turns_end`: the steps of a worker that nobody disturbs are a round,
  and lead to its end when it has been told to end;
* `exists_run_returned`, `exists_run_stop`: a stop can return, and undisturbed it does what
  `Engine.stop` does.
-/

namespace Telemetry.Engine

variable {s s' : Moment} {ev : Event}

/-! ## Running and ending -/

/-- What running, having a worker and what the worker is at have to do with each other. -/
structure Control (s : Moment) : Prop where
  resting : s.engine.hasWorker = false → s.work = .rest
  /-- Only a call of stop makes a difference between running and having a worker. -/
  calm : s.stopping = false → s.engine.hasWorker = s.engine.running
  stopping : s.stopping = true → s.engine.running = false
  ending : s.work.ending = true → s.engine.running = false

theorem Control.hasWorker (h : Control s) (hw : s.work ≠ .rest) : s.engine.hasWorker = true :=
  (Bool.eq_false_or_eq_true _).resolve_right fun hn => hw (h.resting hn)

/-- The worker goes on, and does not see yet that it has to end. -/
theorem Control.goOn {e e' : Engine} {w w' : Work} {p : Bool} (h : Control ⟨e, w, p⟩)
    (hrunning : e'.running = e.running) (hworker : e'.hasWorker = true) (he : e.hasWorker = true)
    (hending : w'.ending = true → e.running = false) : Control ⟨e', w', p⟩ where
  resting hn := absurd hworker (Bool.not_eq_true _ ▸ hn)
  calm hp := hworker.trans (he.symm.trans ((h.calm hp).trans hrunning.symm))
  stopping hp := hrunning.trans (h.stopping hp)
  ending hw := hrunning.trans (hending hw)

theorem Step.control (h : Step s ev s') (hs : Control s) : Control s' := by
  cases h with
  | capture hc =>
    obtain ⟨q, -, rfl⟩ := capture_eq_ok hc
    exact ⟨hs.resting, hs.calm, hs.stopping, hs.ending⟩
  | @start e w =>
    cases hr : e.running with
    | true =>
      rw [Engine.start, if_pos hr]
      exact hs
    | false =>
      obtain rfl : w = .rest := hs.resting ((hs.calm rfl).trans hr)
      rw [Engine.start, if_neg (Bool.not_eq_true _ ▸ hr)]
      exact ⟨nofun, fun _ => rfl, nofun, nofun⟩
  | callStop => exact ⟨hs.resting, nofun, fun _ => rfl, fun _ => rfl⟩
  | returnStop hw =>
    exact ⟨hs.resting, fun _ => hw.trans (hs.stopping rfl).symm, nofun, hs.ending⟩
  | beginTake hw => exact hs.goOn rfl hw hw nofun
  | beginDrain hw hr => exact hs.goOn rfl hw hw fun _ => hr
  | take | drain | endTake | endDrain | apply | endApply =>
    exact hs.goOn rfl (hs.hasWorker nofun) (hs.hasWorker nofun) hs.ending
  | finish => exact ⟨fun _ => rfl, fun _ => (hs.ending rfl).symm, hs.stopping, nofun⟩
  | _ => exact ⟨hs.resting, hs.calm, hs.stopping, hs.ending⟩

theorem Run.control {events : List Event} (h : Run s events s') (hs : Control s) : Control s' := by
  induction h with
  | nil => exact hs
  | step hstep _ ih => exact ih (hstep.control hs)

/-! ## A stop -/

/-- What holds while a call of stop waits, on an engine that was running: first the worker
is on its way, then it has found the queue empty, and what waits was accepted later. -/
structure Stops (events : List Event) (s : Moment) : Prop where
  stopping : s.stopping = true
  stage : (s.engine.hasWorker = true ∧ s.work.last = false) ∨
    (s.engine.hasWorker = false ∨ s.work.last = true) ∧ ∃ sofar late,
      events = sofar ++ .drained :: late ∧ s.engine.queue.elements = accepted late

/-- A running engine is told to stop. -/
theorem Control.stops {called : Moment} (h : Control s) (hr : s.engine.running = true)
    (hstep : Step s .stopCalled called) : Stops [] called := by
  have hearly : s.work.last = false := by
    by_contra hlast
    have hending : s.engine.running = false :=
      h.ending (Work.ending_of_last (eq_true_of_ne_false hlast))
    exact Bool.false_ne_true (hending.symm.trans hr)
  cases hstep with
  | callStop => exact ⟨rfl, .inl ⟨(h.calm rfl).trans hr, hearly⟩⟩

/-- A step of somebody else, or one that the worker takes with nothing but its hand. -/
theorem Stops.keep {events : List Event} (h : Stops events s) (hstopping : s'.stopping = s.stopping)
    (hworker : s'.engine.hasWorker = s.engine.hasWorker) (hlast : s'.work.last = s.work.last)
    (hqueue : s'.engine.queue.elements = s.engine.queue.elements ++ accepted [ev]) :
    Stops (events ++ [ev]) s' := by
  obtain ⟨stopping, hearly | ⟨hlate, sofar, late, rfl, hq⟩⟩ := h
  · exact ⟨hstopping.trans stopping, .inl ⟨hworker.trans hearly.1, hlast.trans hearly.2⟩⟩
  · refine ⟨hstopping.trans stopping, .inr ⟨?_, sofar, late ++ [ev], ?_, ?_⟩⟩
    · exact hlate.imp hworker.trans hlast.trans
    · rw [List.append_assoc, List.cons_append]
    · rw [hqueue, hq, accepted_append]

theorem Step.stops {events : List Event} (h : Step s ev s') (hne : ev ≠ .stopReturned)
    (hs : Control s) (hstops : Stops events s) : Stops (events ++ [ev]) s' := by
  cases h with
  | capture hc =>
    obtain ⟨q, hq, rfl⟩ := capture_eq_ok hc
    exact hstops.keep rfl rfl rfl (Queue.elements_of_offer hq).1
  | refuse | write | apply => exact hstops.keep rfl rfl rfl (List.append_nil _).symm
  | start | callStop => exact absurd hstops.stopping Bool.false_ne_true
  | returnStop => exact absurd rfl hne
  | beginTake hw | beginDrain hw => exact ⟨hstops.stopping, .inl ⟨hw, rfl⟩⟩
  | take | endTake | drain | endApply =>
    -- a worker that is at this has not found the queue empty yet
    exact ⟨hstops.stopping, .inl ⟨hs.hasWorker nofun, rfl⟩⟩
  | endDrain ht =>
    exact ⟨hstops.stopping, .inr ⟨.inr rfl, events, [], rfl, Queue.take?_eq_none.mp ht⟩⟩
  | finish =>
    obtain ⟨stopping, hearly | ⟨-, sofar, late, rfl, hq⟩⟩ := hstops
    · exact absurd hearly.2.symm Bool.false_ne_true
    · refine ⟨stopping, .inr ⟨.inl rfl, sofar, late ++ [.turned], ?_, ?_⟩⟩
      · rw [List.append_assoc, List.cons_append]
      · rw [accepted_append]
        exact hq.trans (List.append_nil _).symm

theorem Run.stops {events before : List Event} (h : Run s events s')
    (hne : .stopReturned ∉ events) (hs : Control s) (hstops : Stops before s) :
    Stops (before ++ events) s' := by
  induction h generalizing before with
  | nil => rwa [List.append_nil]
  | step hstep _ ih =>
    obtain ⟨hev, hevents⟩ := List.ne_and_not_mem_of_not_mem_cons hne
    rw [List.append_cons]
    exact ih hevents (hstep.control hs) (hstep.stops (Ne.symm hev) hs hstops)

/-- When a stop of a running engine returns, the worker is gone, and what waits was accepted
after it had found the queue empty. -/
theorem Run.exists_drained {between : List Event} {returned : Moment}
    (h : Run s (.stopCalled :: between ++ [.stopReturned]) returned)
    (hne : .stopReturned ∉ between) (hs : Control s) (hr : s.engine.running = true) :
    returned.work = .rest ∧ ∃ sofar late, between = sofar ++ .drained :: late ∧
      returned.engine.queue.elements = accepted late := by
  obtain ⟨waiting, hwait, hlast⟩ := run_append.mp h
  obtain _ | ⟨hcall, hbetween⟩ := hwait
  obtain _ | ⟨hreturn, hnil⟩ := hlast
  cases hnil
  have hcalled : Control _ := hcall.control hs
  have hwaiting : Control waiting := hbetween.control hcalled
  obtain ⟨-, hstage⟩ := hbetween.stops hne hcalled (hs.stops hr hcall)
  cases hreturn with
  | returnStop hw =>
    rcases hstage with ⟨hworker, -⟩ | ⟨-, hdrained⟩
    · exact absurd (hw.symm.trans hworker) Bool.false_ne_true
    · exact ⟨hwaiting.resting hw, hdrained⟩

/-! ## The worker alone -/

/-- A step of the worker. -/
def Turn (s s' : Moment) : Prop := ∃ ev, ev.ofWorker = true ∧ Step s ev s'

open Relation (ReflTransGen)

theorem turns_take (e : Engine) (room : Nat) (hand : List Batch) (p : Bool) :
    ReflTransGen Turn ⟨e, .take room hand, p⟩
      ⟨{ e with queue := (e.queue.takeUpTo room).2 },
        .apply (hand ++ (e.queue.takeUpTo room).1) false, p⟩ := by
  induction room generalizing e hand with
  | zero =>
    have hnone : hand ++ (e.queue.takeUpTo 0).1 = hand := List.append_nil hand
    rw [hnone]
    exact .single ⟨.turned, rfl, .endTake (.inl rfl)⟩
  | succ room ih =>
    cases ht : e.queue.take? with
    | none =>
      rw [Queue.takeUpTo_of_take?_eq_none ht, List.append_nil]
      exact .single ⟨.turned, rfl, .endTake (.inr ht)⟩
    | some taken =>
      obtain ⟨b, q⟩ := taken
      rw [Queue.takeUpTo_succ ht, List.append_cons]
      exact (ih { e with queue := q } (hand ++ [b])).head ⟨.turned, rfl, .take ht⟩

theorem turns_drain (e : Engine) (hand : List Batch) (p : Bool) :
    ReflTransGen Turn ⟨e, .drain hand, p⟩
      ⟨{ e with queue := e.queue.drain.2 }, .apply (hand ++ e.queue.drain.1) true, p⟩ := by
  rw [Queue.drain]
  induction hn : e.queue.size generalizing e hand with
  | zero =>
    have ht : e.queue.take? = none := Queue.take?_eq_none.mpr (List.length_eq_zero_iff.mp hn)
    rw [Queue.takeUpTo_of_take?_eq_none ht, List.append_nil]
    exact .single ⟨.drained, rfl, .endDrain ht⟩
  | succ n ih =>
    cases ht : e.queue.take? with
    | none =>
      rw [Queue.size, Queue.take?_eq_none.mp ht] at hn
      cases hn
    | some taken =>
      obtain ⟨b, q⟩ := taken
      have hq : q.size = n := by
        rw [Queue.size, (Queue.elements_of_take? ht).1] at hn
        exact Nat.succ.inj hn
      rw [Queue.takeUpTo_succ ht, List.append_cons]
      exact (ih { e with queue := q } (hand ++ [b]) hq).head ⟨.turned, rfl, .drain ht⟩

theorem turns_apply (e : Engine) (hand : List Batch) (last p : Bool) :
    ReflTransGen Turn ⟨e, .apply hand last, p⟩
      ⟨{ e with store := (e.store.applyAll hand).1, hasWorker := e.hasWorker && !last }, .rest, p⟩ := by
  induction hand generalizing e with
  | nil =>
    cases last with
    | false =>
      rw [Bool.not_false, Bool.and_true]
      exact .single ⟨.turned, rfl, .endApply⟩
    | true =>
      rw [Bool.not_true, Bool.and_false]
      exact .single ⟨.turned, rfl, .finish⟩
  | cons b hand ih => exact (ih { e with store := (e.store.apply b).1 }).head ⟨.applied b, rfl, .apply⟩

/-- A worker that nobody disturbs goes through a round. -/
theorem turns_round {e : Engine} (hw : e.hasWorker = true) (p : Bool) :
    ReflTransGen Turn ⟨e, .rest, p⟩ ⟨e.round.1, .rest, p⟩ := by
  cases hr : e.running with
  | true =>
    have hround : e.round.1 = { e with
        queue := (e.queue.takeUpTo e.settings.batchSize).2
        store := (e.store.applyAll (e.queue.takeUpTo e.settings.batchSize).1).1
        hasWorker := e.hasWorker && !false } := by
      simp [round, hw, hr]
    rw [hround]
    exact ((turns_take e _ [] p).trans (turns_apply _ _ _ p)).head ⟨.turned, rfl, .beginTake hw hr⟩
  | false =>
    have hround : e.round.1 = { e with
        queue := e.queue.drain.2
        store := (e.store.applyAll e.queue.drain.1).1
        hasWorker := e.hasWorker && !true } := by
      simp [round, hw, hr]
    rw [hround]
    exact ((turns_drain e [] p).trans (turns_apply _ _ _ p)).head ⟨.turned, rfl, .beginDrain hw hr⟩

/-- Whatever the worker is at, it can come to rest. -/
theorem exists_turns_rest (s : Moment) :
    ∃ e, ReflTransGen Turn s ⟨e, .rest, s.stopping⟩ ∧ e.running = s.engine.running := by
  obtain ⟨e, w, p⟩ := s
  cases w with
  | rest => exact ⟨e, .refl, rfl⟩
  | take room hand => exact ⟨_, (turns_take e room hand p).trans (turns_apply _ _ _ p), rfl⟩
  | drain hand => exact ⟨_, (turns_drain e hand p).trans (turns_apply _ _ _ p), rfl⟩
  | apply hand last => exact ⟨_, turns_apply e hand last p, rfl⟩

/-- A worker that has been told to end can end. -/
theorem exists_turns_end (hr : s.engine.running = false) :
    ∃ e, ReflTransGen Turn s ⟨e, .rest, s.stopping⟩ ∧ e.hasWorker = false := by
  obtain ⟨e, hrest, he⟩ := exists_turns_rest s
  cases hw : e.hasWorker with
  | false => exact ⟨e, hrest, hw⟩
  | true =>
    refine ⟨e.round.1, hrest.trans (turns_round hw s.stopping), ?_⟩
    simp [round, hw, he.trans hr]

/-- The steps of the worker are a run. -/
theorem exists_run_of_turns (h : ReflTransGen Turn s s') :
    ∃ events, (∀ ev ∈ events, ev.ofWorker = true) ∧ Run s events s' := by
  induction h using ReflTransGen.head_induction_on with
  | refl => exact ⟨[], nofun, .nil⟩
  | head hturn _ ih =>
    obtain ⟨ev, hev, hstep⟩ := hturn
    obtain ⟨events, hevents, hrun⟩ := ih
    exact ⟨ev :: events, List.forall_mem_cons.mpr ⟨hev, hevents⟩, .step hstep hrun⟩

/-- A stop that waits can return, with nothing but steps of the worker before. -/
theorem exists_run_returned (hs : Control s) (hstopping : s.stopping = true) :
    ∃ events returned, (∀ ev ∈ events, ev.ofWorker = true) ∧
      Run s (events ++ [.stopReturned]) returned := by
  obtain ⟨e, hturns, hworker⟩ := exists_turns_end (hs.stopping hstopping)
  obtain ⟨events, hevents, hrun⟩ := exists_run_of_turns hturns
  rw [hstopping] at hrun
  exact ⟨events, _, hevents, run_append.mpr ⟨_, hrun, .step (.returnStop hworker) .nil⟩⟩

/-- A stop that nobody disturbs, of an engine with a worker at rest, is `Engine.stop`. -/
theorem exists_run_stop {e : Engine} (hw : e.hasWorker = true) :
    ∃ between, (∀ ev ∈ between, ev.ofWorker = true) ∧
      Run ⟨e, .rest, false⟩ (.stopCalled :: between ++ [.stopReturned]) ⟨e.stop.1, .rest, false⟩ := by
  have hround : e.requestStop.round.1.hasWorker = false := by
    simp [round, requestStop, hw]
  obtain ⟨between, hbetween, hrun⟩ := exists_run_of_turns (turns_round (e := e.requestStop) hw true)
  exact ⟨between, hbetween,
    run_append.mpr ⟨_, .step .callStop hrun, .step (.returnStop hround) .nil⟩⟩

end Telemetry.Engine
