import Telemetry.Proofs.Store.Run

/-!
# What a run takes in

The records of a shelf are numbered in the order of their arrival, from zero on after
every flush.

* `numbered`: the records that are made of arrivals;
* `Shelf.foldl_take`: a shelf that takes one after the other;
* `taken`, `Flushes`: what actions take in and drop, by what they do to a shelf;
* `ingested`: the records of all that a run has taken in since its last flush, and
  `foldl_ingested`: the induction over a run that follows them.
-/

namespace Telemetry

variable {α ρ : Type}

/-- The records that are made of arrivals, with numbers from `n` on. -/
def numbered (make : Nat → Arrival α → ρ) (n : Nat) (arrivals : List (Arrival α)) : List ρ :=
  arrivals.mapIdx fun i a => make (n + i) a

theorem numbered_cons (make : Nat → Arrival α → ρ) (n : Nat) (a : Arrival α)
    (arrivals : List (Arrival α)) :
    numbered make n (a :: arrivals) = make n a :: numbered make (n + 1) arrivals := by
  rw [numbered, List.mapIdx_cons, numbered]
  refine congrArg _ (congrArg (List.mapIdx · arrivals) (funext fun i => ?_))
  rw [Nat.add_comm i 1, Nat.add_assoc]

theorem numbered_append (make : Nat → Arrival α → ρ) (n : Nat) (arrivals more : List (Arrival α)) :
    numbered make n (arrivals ++ more) =
      numbered make n arrivals ++ numbered make (n + arrivals.length) more := by
  induction arrivals generalizing n with
  | nil => rfl
  | cons a arrivals ih =>
    rw [List.cons_append, numbered_cons, numbered_cons, ih, List.cons_append, List.length_cons,
      Nat.add_assoc, Nat.add_comm 1]

theorem length_numbered (make : Nat → Arrival α → ρ) (n : Nat) (arrivals : List (Arrival α)) :
    (numbered make n arrivals).length = arrivals.length :=
  List.length_mapIdx

/-- What does not depend on the number is told by the arrivals. -/
theorem map_numbered {β : Type} {make : Nat → Arrival α → ρ} {f : ρ → β} {g : Arrival α → β}
    (h : ∀ n a, f (make n a) = g a) (n : Nat) (arrivals : List (Arrival α)) :
    (numbered make n arrivals).map f = arrivals.map g := by
  induction arrivals generalizing n with
  | nil => rfl
  | cons a arrivals ih => rw [numbered_cons, List.map_cons, List.map_cons, h, ih]

namespace Shelf

variable {ι : Type} {kind : Shelving α ρ ι}

/-- A shelf holds what it takes, and counts it, one after the other. -/
theorem foldl_take (s : Shelf kind) (arrivals : List (Arrival α)) :
    (arrivals.foldl take s).held = s.held ++ numbered kind.record s.nextSerial arrivals ∧
      (arrivals.foldl take s).nextSerial = s.nextSerial + arrivals.length := by
  induction arrivals generalizing s with
  | nil => exact ⟨(List.append_nil _).symm, rfl⟩
  | cons a arrivals ih =>
    obtain ⟨hheld, hnext⟩ := ih (s.take a)
    rw [List.foldl_cons, numbered_cons, List.length_cons]
    exact ⟨hheld.trans (List.append_assoc ..), hnext.trans (Nat.add_right_comm ..)⟩

theorem limit_foldl_take (s : Shelf kind) (arrivals : List (Arrival α)) :
    (arrivals.foldl take s).limit = s.limit :=
  foldl_unchanged Shelf.limit take (fun _ _ => rfl) arrivals s

theorem query_foldl_take (s : Shelf kind) (arrivals : List (Arrival α)) :
    (arrivals.foldl take s).query = s.query :=
  foldl_unchanged Shelf.query take (fun _ _ => rfl) arrivals s

/-- No action changes the limit. -/
theorem limit_act (on? : Action → Option (ShelfAction α)) (s : Shelf kind) (a : Action) :
    (s.act on? a).limit = s.limit := by
  rw [act]
  split
  · exact limit_foldl_take ..
  · rfl
  · rfl
  · rfl

end Shelf

/-- The logs that an action takes in. -/
def Action.logs : Action → List (Arrival Log)
  | .addLogs groups => Group.flatten groups
  | _ => []

/-- The metrics that an action takes in. -/
def Action.metrics : Action → List (Arrival Metric)
  | .addMetrics groups => Group.flatten groups
  | _ => []

/-! ## What is done to a shelf -/

/-- What is taken in. -/
def ShelfAction.arrivals : ShelfAction α → List (Arrival α)
  | .ingest groups => Group.flatten groups
  | .filter _ | .flush => []

/-- Whether everything is dropped. -/
def ShelfAction.isFlush : ShelfAction α → Bool
  | .flush => true
  | .ingest _ | .filter _ => false

/-- What an action takes in, by what it does to a shelf. -/
def taken (on? : Action → Option (ShelfAction α)) (a : Action) : List (Arrival α) :=
  (on? a).elim [] ShelfAction.arrivals

/-- A flush, and no other action, drops everything from a shelf. -/
def Flushes (on? : Action → Option (ShelfAction α)) : Prop :=
  ∀ a, a.isFlush = (on? a).any ShelfAction.isFlush

theorem flushes_onLogs? : Flushes Action.onLogs? := fun a => by
  cases a <;> rfl

theorem flushes_onMetrics? : Flushes Action.onMetrics? := fun a => by
  cases a <;> rfl

theorem taken_onLogs? : taken Action.onLogs? = Action.logs := funext fun a => by
  cases a <;> rfl

theorem taken_onMetrics? : taken Action.onMetrics? = Action.metrics := funext fun a => by
  cases a <;> rfl

/-! ## Since the last flush -/

/-- What a run has taken in since its last flush. -/
def arrived (taken : Action → List (Arrival α)) (actions : List Action) : List (Arrival α) :=
  (sinceFlush actions).flatMap taken

/-- The records of what a run has taken in since its last flush. -/
def ingested (make : Nat → Arrival α → ρ) (taken : Action → List (Arrival α))
    (actions : List Action) : List ρ :=
  numbered make 0 (arrived taken actions)

/-- The logs that a run has taken in since its last flush. -/
abbrev ingestedLogs : List Action → List LogRecord := ingested .ofArrival Action.logs

/-- The metrics that a run has taken in since its last flush. -/
abbrev ingestedMetrics : List Action → List MetricRecord := ingested .ofArrival Action.metrics

theorem ingested_concat (make : Nat → Arrival α → ρ) (taken : Action → List (Arrival α))
    (actions : List Action) (a : Action) :
    ingested make taken (actions ++ [a]) =
      if a.isFlush then []
      else ingested make taken actions ++
        numbered make (ingested make taken actions).length (taken a) := by
  rw [ingested, arrived, sinceFlush_concat]
  split
  · rfl
  · rw [List.flatMap_append, numbered_append, ingested, length_numbered, Nat.zero_add]
    simp [arrived]

/-- What relates a shelf to the records since the last flush, if every action keeps it up. -/
theorem foldl_ingested {σ : Type} {R : σ → List ρ → Prop} {act : σ → Action → σ}
    {make : Nat → Arrival α → ρ} {taken : Action → List (Arrival α)} {s : σ} (hs : R s [])
    (hact : ∀ s all a, R s all →
      R (act s a) (if a.isFlush then [] else all ++ numbered make all.length (taken a)))
    (actions : List Action) : R (actions.foldl act s) (ingested make taken actions) := by
  induction actions using List.reverseRecOn with
  | nil => exact hs
  | append_singleton actions a ih =>
    rw [ingested_concat, List.foldl_append]
    exact hact _ _ a ih

end Telemetry
