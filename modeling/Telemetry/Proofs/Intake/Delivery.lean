import Telemetry.Proofs.Intake.Stopping

/-!
# What an engine delivers

* `run_delivers`: what is accepted is applied once and in order, and before a stop returns.
-/

namespace Telemetry.Engine

theorem eq_of_ofStore {settings : EngineSettings} {store : Store} {e : Engine}
    (h : ofStore settings store = .ok e) :
    e.queue = .empty settings.bufferSize ∧ e.store = store ∧ Control ⟨e, .rest, false⟩ := by
  unfold ofStore at h
  split at h
  · cases h
  · obtain rfl := Except.ok.inj h
    exact ⟨rfl, rfl, fun _ => rfl, fun _ => rfl, nofun, nofun⟩

variable {settings : EngineSettings} {store : Store} {e : Engine} {events : List Event} {s : Moment}

theorem Run.balance (h : Run ⟨e, .rest, false⟩ events s) (he : ofStore settings store = .ok e) :
    applied events ++ s.work.hand ++ s.engine.queue.elements = accepted events := by
  have hqueue : e.queue.elements = [] := by rw [(eq_of_ofStore he).1]; rfl
  rw [h.conserves]
  change [] ++ e.queue.elements ++ accepted events = accepted events
  rw [hqueue]
  rfl

/-- What an engine delivers, in every run from its creation.

Between two rounds of the worker, the batches that were applied and those that wait are the
batches that were accepted, each once and in order. Never do more wait than fit, and what is
refused changes nothing. When a stop of a running engine returns, every batch that was
accepted before the call has been applied, and what waits was accepted after the worker had
found the queue empty; if nothing was, and nobody else wrote to the store, the store is as if
the batches had been applied to it directly. A stop that waits can return. -/
theorem run_delivers (he : ofStore settings store = .ok e)
    (hrun : Run ⟨e, .rest, false⟩ events s) :
    (s.work = .rest → applied events ++ s.engine.queue.elements = accepted events) ∧
      s.engine.queue.size ≤ settings.bufferSize ∧
      (∀ b s', Step s (.refused b) s' → s.engine.queue.size = settings.bufferSize ∧ s' = s) ∧
      s.engine.store = store.run (actions events) ∧
      (∀ between returned, s.engine.running = true →
        Run s (.stopCalled :: between ++ [.stopReturned]) returned → .stopReturned ∉ between →
        let all := events ++ (.stopCalled :: between ++ [.stopReturned])
        accepted events <+: applied all ∧
          ∃ sofar late, between = sofar ++ .drained :: late ∧
            returned.engine.queue.elements = accepted late ∧
            (accepted late = [] → (∀ a, .wrote a ∉ all) →
              returned.engine.store = (store.applyAll (accepted all)).1)) ∧
      (s.stopping = true → ∃ rest returned, (∀ ev ∈ rest, ev.ofWorker = true) ∧
        Run s (rest ++ [.stopReturned]) returned) := by
  obtain ⟨hqueue, rfl, hcontrol⟩ := eq_of_ofStore he
  have hcapacity : s.engine.queue.capacity = settings.bufferSize := by
    rw [hrun.capacity_eq]
    exact congrArg Queue.capacity hqueue
  refine ⟨fun hrest => ?_, hcapacity ▸ s.engine.queue.within, fun b s' hstep => ?_, hrun.store_eq,
    fun between returned hrunning hstop hne => ?_, exists_run_returned (hrun.control hcontrol)⟩
  · have hbalance := hrun.balance he
    rwa [hrest, Work.hand, List.append_nil] at hbalance
  · cases hstep with
    | refuse h => exact ⟨(size_of_capture_eq_error h).trans hcapacity, rfl⟩
  · intro all
    have hall : Run ⟨e, .rest, false⟩ all returned := run_append.mpr ⟨s, hrun, hstop⟩
    obtain ⟨hrest, sofar, late, hbetween, hlate⟩ :=
      hstop.exists_drained hne (hrun.control hcontrol) hrunning
    have hbalance : applied all ++ accepted late = accepted all := by
      rw [← hall.balance he, hrest, hlate, Work.hand, List.append_nil]
    have hsplit : accepted all = (accepted events ++ accepted sofar) ++ accepted late := by
      simp [all, hbetween, Event.accepted?]
    have happlied : applied all = accepted events ++ accepted sofar :=
      List.append_cancel_right (hbalance.trans hsplit)
    refine ⟨happlied ▸ List.prefix_append .., sofar, late, hbetween, hlate, fun hnone hwrote => ?_⟩
    rw [hnone, List.append_nil] at hbalance
    rw [hall.store_eq, actions_eq_map_applied hwrote, ← Store.applyAll_eq_run, hbalance]

/-- A queue for one batch: a second one is refused, and a third one is accepted after the
worker has found the queue empty, so that the stop leaves it waiting. -/
theorem run_delivers_of_late_capture :
    let store := Store.empty ⟨1, 1, 1⟩
    let e : Engine :=
      { settings := ⟨1, 1, 5⟩, queue := .empty 1, running := false, hasWorker := false, store }
    let events : List Event := [.accepted (.logs []), .refused (.metrics []), .started]
    let between : List Event :=
      [.turned, .turned, .drained, .accepted (.spans []), .applied (.logs []), .turned]
    ofStore ⟨1, 1, 5⟩ store = .ok e ∧
      ∃ s returned, Run ⟨e, .rest, false⟩ events s ∧ s.engine.running = true ∧
        Run s (.stopCalled :: between ++ [.stopReturned]) returned ∧ .stopReturned ∉ between ∧
        [.logs []] <+: applied (events ++ (.stopCalled :: between ++ [.stopReturned])) ∧
        ∃ sofar late, between = sofar ++ .drained :: late ∧ accepted late = [.spans []] := by
  intro store e events between
  have he : ofStore ⟨1, 1, 5⟩ store = .ok e := rfl
  let started : Engine :=
    { e with queue := ⟨1, [.logs []], le_rfl⟩, running := true, hasWorker := true }
  have hrun : Run ⟨e, .rest, false⟩ events ⟨started, .rest, false⟩ :=
    .step (.capture rfl) (.step (.refuse rfl) (.step .start .nil))
  let returned : Engine :=
    { e with queue := ⟨1, [.spans []], le_rfl⟩, store := (store.apply (.logs [])).1 }
  have hstop : Run ⟨started, .rest, false⟩ (.stopCalled :: between ++ [.stopReturned])
      ⟨returned, .rest, false⟩ :=
    .step .callStop (.step (.beginDrain rfl rfl) (.step (.drain rfl) (.step (.endDrain rfl)
      (.step (.capture rfl) (.step .apply (.step .finish (.step (.returnStop rfl) .nil)))))))
  have hne : Event.stopReturned ∉ between := by simp [between]
  obtain ⟨-, -, -, -, hstopped, -⟩ := run_delivers he hrun
  obtain ⟨hbefore, sofar, late, hbetween, hlate, -⟩ := hstopped between _ rfl hstop hne
  exact ⟨he, _, _, hrun, rfl, hstop, hne, hbefore, sofar, late, hbetween, hlate.symm⟩

end Telemetry.Engine
