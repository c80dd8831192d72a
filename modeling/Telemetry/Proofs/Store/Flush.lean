import Telemetry.Proofs.Store.Agreement
import Telemetry.Proofs.Store.Retention
import Telemetry.Store.Request

/-!
# A flush forgets everything

Two stores with the same contents, which may differ in how often they have changed, reply the
same to every request and have the same contents afterwards. A store that has been flushed has
the contents of a new one within the same limits, with the same subscribers and renderer, so
nothing that is asked of it later can tell what it held before.

* `Store.SameContents`: what two stores have in common, kept by every request
  (`SameContents.serve`) and by all of them (`SameContents.serveAll`);
* `Store.limits_serveAll`: no request changes the limits;
* `Store.serveAll_after_flush`: a flushed store against a new one.
-/

namespace Telemetry

namespace Store

/-- The stores differ at most in how often they have changed. -/
def SameContents (s t : Store) : Prop :=
  s = { t with revision := s.revision }

variable {s t : Store}

/-! ## Two stores -/

/-- What an action does and gives back does not depend on the revision. -/
theorem act_revision (s : Store) (n : Nat) (a : Action) :
    (({ s with revision := n }).act a).2 = (s.act a).2 ∧
      SameContents (({ s with revision := n }).act a).1 (s.act a).1 := by
  cases a with
  | recalculate position =>
    rw [act, act, recalculate, recalculate]
    generalize s.spans.recalculate position = recalculated
    obtain ⟨spans, _ | root⟩ := recalculated
    · exact ⟨rfl, rfl⟩
    · exact ⟨rfl, rfl⟩
  | _ => exact ⟨rfl, rfl⟩

/-- Stores with the same contents reply the same, and have the same contents afterwards. -/
theorem SameContents.serve (h : SameContents s t) (r : Request) :
    (s.serve r).2 = (t.serve r).2 ∧ SameContents (s.serve r).1 (t.serve r).1 := by
  rw [h]
  cases r with
  | act a =>
    obtain ⟨hreply, hstore⟩ := act_revision t s.revision a
    have hacted := congrArg (fun p : Option SpanRecord × List Notice => Reply.acted p.1 p.2) hreply
    exact ⟨hacted, hstore⟩
  | ask q =>
    refine ⟨?_, rfl⟩
    cases q <;> rfl
  | _ => exact ⟨rfl, rfl⟩

/-- Stores with the same contents reply the same to all that follows. -/
theorem SameContents.serveAll (h : SameContents s t) (requests : List Request) :
    (s.serveAll requests).2 = (t.serveAll requests).2 ∧
      SameContents (s.serveAll requests).1 (t.serveAll requests).1 := by
  induction requests generalizing s t with
  | nil => exact ⟨rfl, h⟩
  | cons r rest ih =>
    obtain ⟨hreply, hstore⟩ := h.serve r
    obtain ⟨hreplies, hrest⟩ := ih hstore
    exact ⟨congrArg₂ List.cons hreply hreplies, hrest⟩

theorem serveAll_append (s : Store) (before after : List Request) :
    (s.serveAll (before ++ after)).1 = ((s.serveAll before).1.serveAll after).1 := by
  induction before generalizing s with
  | nil => rfl
  | cons r rest ih => exact ih (s.serve r).1

/-! ## The limits -/

/-- The limits of the three shelves. -/
def limits (s : Store) : StoreSettings :=
  ⟨s.spans.limit, s.logs.limit, s.metrics.limit⟩

theorem limits_act (s : Store) (a : Action) : (s.act a).1.limits = s.limits := by
  rw [limits, limits, spans_act, logs_act, metrics_act, SpanShelf.limit_act, LogShelf.act,
    MetricShelf.act, Shelf.limit_act, Shelf.limit_act]

theorem limits_serve (s : Store) (r : Request) : (s.serve r).1.limits = s.limits := by
  cases r with
  | act a => exact limits_act s a
  | _ => rfl

theorem limits_serveAll (s : Store) (requests : List Request) :
    (s.serveAll requests).1.limits = s.limits := by
  induction requests generalizing s with
  | nil => rfl
  | cons r rest ih => exact (ih (s.serve r).1).trans (limits_serve s r)

/-! ## After a flush -/

/-- The store without records, with subscribers and a renderer. -/
def fresh (limits : StoreSettings) (onAdded : Option String) (onFlushed : List String)
    (renderer : Renderer) : Store :=
  { empty limits with onAdded, onFlushed, renderer }

/-- A flush leaves a new store with the same limits, subscribers and renderer. -/
theorem sameContents_flush (s : Store) :
    SameContents s.flush (fresh s.limits s.onAdded s.onFlushed s.renderer) := rfl

/-- A flush forgets everything. After any requests to a store that could be created, the last
of which is a flush, all that follows is replied as by a new store within the same limits,
with the subscribers and the renderer that there were before the flush, and both stores have
the same contents in the end. -/
theorem serveAll_after_flush {limits : StoreSettings} {s : Store} (h : create limits = .ok s)
    (before after : List Request) :
    let last := (s.serveAll before).1
    let flushed := (s.serveAll (before ++ [.act .flush])).1
    let anew := fresh limits last.onAdded last.onFlushed last.renderer
    (flushed.serveAll after).2 = (anew.serveAll after).2 ∧
      SameContents (flushed.serveAll after).1 (anew.serveAll after).1 := by
  intro last flushed anew
  have hflushed : flushed = last.flush := serveAll_append s before [.act .flush]
  have hlimits : last.limits = limits := by
    rw [limits_serveAll, eq_empty_of_create h]
    rfl
  have hsame : SameContents flushed anew := by
    have hnew := sameContents_flush last
    rwa [hlimits, ← hflushed] at hnew
  exact hsame.serveAll after

/-- A store that holds a pair whose representative has been chosen anew, and shows what
matches a query. A span of that pair is taken in again as a new one, under no query. -/
theorem serveAll_after_flush_of_one :
    let before : List Request := [.act (addSpan "api" 1 2 1), .act (addSpan "api" 1 1 7),
      .act (.recalculate 0), .act (.filterSpans "web" .latencyDesc), .subscribeFlushed "screen"]
    let after : List Request := [.act (addSpan "api" 1 2 1), .ask .shownSpans, .act .flush]
    let last := ((empty ⟨1, 1, 1⟩).serveAll before).1
    let flushed := ((empty ⟨1, 1, 1⟩).serveAll (before ++ [.act .flush])).1
    let anew := fresh ⟨1, 1, 1⟩ last.onAdded last.onFlushed last.renderer
    create ⟨1, 1, 1⟩ = .ok (empty ⟨1, 1, 1⟩) ∧
      last.spans.held.length = 1 ∧ last.spans.query = "web" ∧ last.onFlushed = ["screen"] ∧
      (flushed.act (addSpan "api" 1 2 1)).1.spans.shown.length = 1 ∧
      (flushed.serveAll after).2 = (anew.serveAll after).2 :=
  ⟨rfl, rfl, rfl, rfl, rfl,
    (serveAll_after_flush (rfl : create ⟨1, 1, 1⟩ = .ok (empty ⟨1, 1, 1⟩)) _ _).1⟩

end Store

end Telemetry
