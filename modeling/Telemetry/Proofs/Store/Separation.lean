import Telemetry.Proofs.Store.Flush

/-!
# The kinds of records do not interfere

Spans, logs and metrics are asked of one store, by one list of requests. A request that is about
one kind neither changes the others nor learns anything of them, so each kind can be followed by
its own requests alone. A flush, a subscription and another renderer are about every kind.

* `Request.concerns`: the kinds that a request is about;
* `Store.SameShelf`: what two stores have in common of a kind; kept by a request about that kind
  (`SameShelf.serve`), and by one that is about others (`sameShelf_serve`);
* `Store.serveAll_separates`: what becomes of a kind is what its own requests make of it, so the
  order among requests about different kinds makes no difference.
-/

namespace Telemetry

/-! ## What a request is about -/

/-- Whether an action is about a kind of records. -/
def Action.concerns (kind : TelemetryKind) : Action → Bool
  | .addSpans _ | .filterSpans _ _ | .recalculate _ => kind = .spans
  | .addLogs _ | .filterLogs _ => kind = .logs
  | .addMetrics _ | .filterMetrics _ => kind = .metrics
  | .flush => true

/-- Whether a question is about a kind of records. The summary, which counts all three, is about
none of them. -/
def Question.concerns (kind : TelemetryKind) : Question → Bool
  | .order | .shownSpans | .shownSpan _ | .shownTrace _ | .heldSpans | .spansOfTrace _
  | .spansOfPair _ | .hasError _ | .span _ | .representative _ | .indexedSpans | .callGraph
  | .diagram => kind = .spans
  | .shownLogs | .shownLog _ | .heldLogs | .logsOfTrace _ | .logsOfSpan _ _ | .indexedLogs =>
    kind = .logs
  | .shownMetrics | .shownMetric _ | .heldMetrics | .metricsOf _ _ | .serviceNames
  | .metricNames _ | .indexedMetrics => kind = .metrics
  | .summary => false

/-- Whether a request is about a kind of records. -/
def Request.concerns (kind : TelemetryKind) : Request → Bool
  | .act action => action.concerns kind
  | .ask question => question.concerns kind
  | .subscribeAdded _ | .subscribeFlushed _ | .setRenderer _ => true

/-- The replies to the requests about a kind of records. -/
def repliesAbout (kind : TelemetryKind) (requests : List Request) (replies : List Reply) :
    List Reply :=
  ((requests.zip replies).filter (·.1.concerns kind)).map (·.2)

theorem repliesAbout_cons (kind : TelemetryKind) (r : Request) (requests : List Request)
    (reply : Reply) (replies : List Reply) :
    repliesAbout kind (r :: requests) (reply :: replies) =
      if r.concerns kind then reply :: repliesAbout kind requests replies
      else repliesAbout kind requests replies := by
  rw [repliesAbout, List.zip_cons_cons, List.filter_cons, apply_ite (List.map _)]
  rfl

/-! ## What a store has of a kind -/

/-- The shelf for a kind of records. -/
def TelemetryKind.Shelf : TelemetryKind → Type
  | .spans => SpanShelf
  | .logs => LogShelf
  | .metrics => MetricShelf

/-- The shelf for a kind of records after an action. -/
def TelemetryKind.act : (kind : TelemetryKind) → kind.Shelf → Action → kind.Shelf
  | .spans => SpanShelf.act
  | .logs => LogShelf.act
  | .metrics => MetricShelf.act

theorem TelemetryKind.act_of_not_concerns {kind : TelemetryKind} {a : Action}
    (ha : ¬a.concerns kind) (shelf : kind.Shelf) : kind.act shelf a = shelf := by
  cases kind with
  | spans =>
    cases a with
    | addLogs | addMetrics | filterLogs | filterMetrics => rfl
    | _ => exact absurd rfl ha
  | logs =>
    cases a with
    | addLogs | filterLogs | flush => exact absurd rfl ha
    | _ => rfl
  | metrics =>
    cases a with
    | addMetrics | filterMetrics | flush => exact absurd rfl ha
    | _ => rfl

namespace Store

/-- The shelf of a store for a kind of records. -/
def shelf (s : Store) : (kind : TelemetryKind) → kind.Shelf
  | .spans => s.spans
  | .logs => s.logs
  | .metrics => s.metrics

/-- Who hears of changes to a store, and its renderer. -/
def surroundings (s : Store) : Option String × List String × Renderer :=
  (s.onAdded, s.onFlushed, s.renderer)

/-- The stores have the same on the shelf for a kind: the same index and the same records held
and shown, under the same query, in the same order, within the same limit. They also have the
same subscribers and renderer. -/
structure SameShelf (kind : TelemetryKind) (s t : Store) : Prop where
  shelf : s.shelf kind = t.shelf kind
  surroundings : s.surroundings = t.surroundings

variable {kind : TelemetryKind} {s t u : Store}

theorem SameShelf.refl (kind : TelemetryKind) (s : Store) : SameShelf kind s s := ⟨rfl, rfl⟩

theorem SameShelf.symm (h : SameShelf kind s t) : SameShelf kind t s :=
  ⟨h.shelf.symm, h.surroundings.symm⟩

theorem SameShelf.trans (h : SameShelf kind s t) (h' : SameShelf kind t u) : SameShelf kind s u :=
  ⟨h.shelf.trans h'.shelf, h.surroundings.trans h'.surroundings⟩

/-- Stores with the same on every shelf have the same contents. -/
theorem sameContents_of_sameShelf (h : ∀ kind, SameShelf kind s t) : SameContents s t := by
  have hspans : s.spans = t.spans := (h .spans).shelf
  have hlogs : s.logs = t.logs := (h .logs).shelf
  have hmetrics : s.metrics = t.metrics := (h .metrics).shelf
  obtain ⟨honAdded, hrest⟩ := Prod.mk.inj (h .spans).surroundings
  obtain ⟨honFlushed, hrenderer⟩ := Prod.mk.inj hrest
  rw [SameContents, ← hspans, ← hlogs, ← hmetrics, ← honAdded, ← honFlushed, ← hrenderer]

/-! ## One action -/

theorem shelf_act (s : Store) (kind : TelemetryKind) (a : Action) :
    (s.act a).1.shelf kind = kind.act (s.shelf kind) a := by
  cases kind with
  | spans => exact spans_act s a
  | logs => exact logs_act s a
  | metrics => exact metrics_act s a

theorem surroundings_act (s : Store) (a : Action) : (s.act a).1.surroundings = s.surroundings := by
  cases a with
  | recalculate position =>
    simp only [act, recalculate]
    split <;> rfl
  | _ => rfl

theorem root_recalculate (s : Store) (position : Nat) :
    (s.recalculate position).2 = (s.spans.recalculate position).2 := by
  rw [recalculate]
  split
  · rename_i hr
    rw [hr]
  · rename_i hr
    rw [hr]

/-- What an action makes of a shelf depends on nothing but that shelf. -/
theorem SameShelf.act (h : SameShelf kind s t) (a : Action) :
    SameShelf kind (s.act a).1 (t.act a).1 where
  shelf := by rw [shelf_act, shelf_act, h.shelf]
  surroundings := by rw [surroundings_act, surroundings_act, h.surroundings]

/-- An action about other kinds leaves the shelf alone. -/
theorem sameShelf_act {a : Action} (ha : ¬a.concerns kind) : SameShelf kind (s.act a).1 s where
  shelf := by rw [shelf_act, TelemetryKind.act_of_not_concerns ha]
  surroundings := surroundings_act s a

/-- What an action about a kind gives back depends on the shelf for that kind, and on who hears
of it. -/
theorem SameShelf.reply_act (h : SameShelf kind s t) {a : Action} (ha : a.concerns kind) :
    (s.act a).2 = (t.act a).2 := by
  obtain ⟨honAdded, hrest⟩ := Prod.mk.inj h.surroundings
  obtain ⟨honFlushed, -⟩ := Prod.mk.inj hrest
  have hadded : s.addedNotices = t.addedNotices := by
    funext k
    rw [addedNotices, addedNotices, honAdded]
  cases a with
  | addSpans groups => exact congrArg (fun notices => (none, notices .spans)) hadded
  | addLogs groups => exact congrArg (fun notices => (none, notices .logs)) hadded
  | addMetrics groups => exact congrArg (fun notices => (none, notices .metrics)) hadded
  | recalculate position =>
    obtain rfl : kind = .spans := of_decide_eq_true ha
    have hspans : s.spans = t.spans := h.shelf
    show ((s.recalculate position).2, []) = ((t.recalculate position).2, [])
    rw [root_recalculate, root_recalculate, hspans]
  | flush => exact congrArg (fun labels => (none, List.map Notice.flushed labels)) honFlushed
  | filterSpans | filterLogs | filterMetrics => rfl

/-- So does the answer to a question about a kind. -/
theorem SameShelf.answer (h : SameShelf kind s t) {q : Question} (hq : q.concerns kind) :
    s.answer q = t.answer q := by
  obtain ⟨spans, logs, metrics, revision, onAdded, onFlushed, renderer⟩ := s
  obtain ⟨spans', logs', metrics', revision', onAdded', onFlushed', renderer'⟩ := t
  obtain ⟨hshelf, hsurroundings⟩ := h
  cases hsurroundings
  cases kind with
  | spans =>
    obtain rfl : spans = spans' := hshelf
    cases q <;> first | rfl | cases hq
  | logs =>
    obtain rfl : logs = logs' := hshelf
    cases q <;> first | rfl | cases hq
  | metrics =>
    obtain rfl : metrics = metrics' := hshelf
    cases q <;> first | rfl | cases hq

/-! ## One request -/

/-- A request about a kind is replied the same where the shelf for that kind is the same, and
leaves the same on it. -/
theorem SameShelf.serve (h : SameShelf kind s t) {r : Request} (hr : r.concerns kind) :
    (s.serve r).2 = (t.serve r).2 ∧ SameShelf kind (s.serve r).1 (t.serve r).1 := by
  have hsurroundings := h.surroundings
  cases r with
  | act a =>
    have hreply : Reply.acted (s.act a).2.1 (s.act a).2.2 = Reply.acted (t.act a).2.1 (t.act a).2.2 := by
      rw [h.reply_act hr]
    exact ⟨hreply, h.act a⟩
  | ask q => exact ⟨congrArg (Reply.answered q) (h.answer hr), h⟩
  | subscribeAdded label =>
    refine ⟨rfl, ?_, congrArg (fun around => (some label, around.2)) hsurroundings⟩
    cases kind <;> exact h.shelf
  | subscribeFlushed label =>
    refine ⟨rfl, ?_, congrArg (fun around => (around.1, around.2.1 ++ [label], around.2.2)) hsurroundings⟩
    cases kind <;> exact h.shelf
  | setRenderer renderer =>
    refine ⟨rfl, ?_, congrArg (fun around => (around.1, around.2.1, renderer)) hsurroundings⟩
    cases kind <;> exact h.shelf

/-- A request about other kinds leaves the shelf alone. -/
theorem sameShelf_serve {r : Request} (hr : ¬r.concerns kind) : SameShelf kind (s.serve r).1 s := by
  cases r with
  | act a => exact sameShelf_act hr
  | ask q => exact .refl kind s
  | subscribeAdded | subscribeFlushed | setRenderer => exact absurd rfl hr

/-! ## One request after the other -/

/-- Of any requests, those about a kind are replied as they are when nothing else is asked, and
leave the same on the shelf for that kind. -/
theorem SameShelf.serveAll (h : SameShelf kind s t) (requests : List Request) :
    repliesAbout kind requests (s.serveAll requests).2 =
        (t.serveAll (requests.filter (·.concerns kind))).2 ∧
      SameShelf kind (s.serveAll requests).1
        (t.serveAll (requests.filter (·.concerns kind))).1 := by
  induction requests generalizing s t with
  | nil => exact ⟨rfl, h⟩
  | cons r rest ih =>
    by_cases hr : r.concerns kind
    · obtain ⟨hreply, hstep⟩ := h.serve hr
      obtain ⟨hreplies, hrest⟩ := ih hstep
      rw [List.filter_cons_of_pos hr]
      refine ⟨?_, hrest⟩
      calc repliesAbout kind (r :: rest) (s.serveAll (r :: rest)).2
          = (s.serve r).2 :: repliesAbout kind rest ((s.serve r).1.serveAll rest).2 :=
            (repliesAbout_cons ..).trans (if_pos hr)
        _ = _ := congrArg₂ List.cons hreply hreplies
    · obtain ⟨hreplies, hrest⟩ := ih ((sameShelf_serve hr).trans h)
      rw [List.filter_cons_of_neg hr]
      refine ⟨?_, hrest⟩
      calc repliesAbout kind (r :: rest) (s.serveAll (r :: rest)).2
          = repliesAbout kind rest ((s.serve r).1.serveAll rest).2 :=
            (repliesAbout_cons ..).trans (if_neg hr)
        _ = _ := hreplies

/-- Spans, logs and metrics do not interfere. Whatever is asked of a store, the requests about
one kind of records are replied as if no other had been made, the answers to questions, the spans
that recalculations give back, the diagram and the news alike; and in the end the store has the
same on the shelf for that kind. So two lists of requests that only interleave those about
different kinds in different ways leave the same contents. -/
theorem serveAll_separates (s : Store) (requests : List Request) :
    (∀ kind,
      let own := requests.filter (·.concerns kind)
      repliesAbout kind requests (s.serveAll requests).2 = (s.serveAll own).2 ∧
        SameShelf kind (s.serveAll requests).1 (s.serveAll own).1) ∧
    ∀ requests', (∀ kind, requests'.filter (·.concerns kind) = requests.filter (·.concerns kind)) →
      SameContents (s.serveAll requests').1 (s.serveAll requests).1 := by
  refine ⟨fun kind => (SameShelf.refl kind s).serveAll requests, fun requests' hown => ?_⟩
  refine sameContents_of_sameShelf fun kind => ?_
  obtain ⟨-, hrequests⟩ := (SameShelf.refl kind s).serveAll requests
  obtain ⟨-, hrequests'⟩ := (SameShelf.refl kind s).serveAll requests'
  rw [hown kind] at hrequests'
  exact hrequests'.trans hrequests.symm

/-- Spans and logs in two orders, where there is room for one of each: the spans are three
generations of a pair whose representative is chosen anew. -/
theorem serveAll_separates_of_turns :
    let started := (Log.ofBody "started" .epoch).withTrace (.ofNat 1) .zero
    let stopped := (Log.ofBody "stopped" .epoch).withTrace (.ofNat 1) .zero
    let spans : List Request := [.act (addSpan "web" 1 3 2), .act (addSpan "web" 1 1 0),
      .act (addSpan "web" 1 2 1), .act (.recalculate 0)]
    let logs : List Request := [.act (.addLogs (logsOf "api" [started])), .act (.filterLogs "sto"),
      .act (.addLogs (logsOf "api" [stopped])), .ask .shownLogs]
    let turns := (spans.zip logs).flatMap fun p => [p.2, p.1]
    let s := empty ⟨1, 1, 1⟩
    (∀ kind, turns.filter (·.concerns kind) = (spans ++ logs).filter (·.concerns kind)) ∧
      repliesAbout .spans turns (s.serveAll turns).2 = (s.serveAll spans).2 ∧
      SameContents (s.serveAll turns).1 (s.serveAll (spans ++ logs)).1 ∧
      (s.serveAll turns).1.spans.shown.map (·.spanId) = [.ofNat 1] ∧
      (s.serveAll turns).1.logs.shown.map (·.log.body) = ["stopped"] :=
  have hseparates := serveAll_separates (empty ⟨1, 1, 1⟩)
  ⟨fun kind => by cases kind <;> rfl, ((hseparates _).1 .spans).1,
    (hseparates _).2 _ fun kind => by cases kind <;> rfl, rfl, rfl⟩

end Store

end Telemetry
