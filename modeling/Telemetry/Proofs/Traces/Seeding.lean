import Mathlib.Data.List.Induction
import Telemetry.Proofs.Traces.Fate

/-!
# How a pair comes by its representative

The span that a pair is seeded with stands for it until the span arrives that the seed names as
its parent. That span is promoted, and stays until the pair is seeded again.

* `Unseeded`: a run in which no action seeds a pair;
* `Seeding`: the latest seeding of a pair in a history, and the spans that have joined since;
* `SpanRecord.heir`: the representative that the seed and those spans make;
* `Stands`: the representative is the heir; kept by every action that does not seed the pair
  (`Stands.act`), and by a run of them (`Stands.foldl_act`);
* `run_promotes_once`: the representative of a pair after any history, what insertions report of
  it, and that there is one promotion at most for every seeding.
-/

namespace Telemetry

/-- An action inserts a span into a pair and reports that it has taken the place of another. -/
def TraceAction.Promotes (t : TraceIndex) (p : Pair) (a : TraceAction) : Prop :=
  ∃ service r, a = .insert service r ∧ ⟨r.traceId, service⟩ = p ∧
    (t.insert service r).2.replaced.isSome

namespace SpanRecord

/-- The representative of a pair that was seeded with a span, and that some spans have joined
since: the one that the seed names as its parent, or the seed if there is none. -/
def heir (seed : SpanRecord) (joined : List SpanRecord) : SpanRecord :=
  if seed.isRoot then seed else (joined.find? (·.spanId = seed.parentSpanId)).getD seed

variable {seed r : SpanRecord} {joined : List SpanRecord}

theorem heir_nil (seed : SpanRecord) : seed.heir [] = seed := ite_self ..

theorem heir_of_isRoot (h : seed.isRoot) : seed.heir joined = seed := if_pos h

theorem find?_parent_eq_none (h : ∀ r ∈ joined, r.spanId ≠ seed.parentSpanId) :
    joined.find? (·.spanId = seed.parentSpanId) = none :=
  List.find?_eq_none.mpr fun r hr => by simpa using h r hr

theorem heir_of_absent (h : ∀ r ∈ joined, r.spanId ≠ seed.parentSpanId) :
    seed.heir joined = seed := by
  rw [heir, find?_parent_eq_none h]
  exact ite_self ..

theorem heir_concat_of_ne (h : r.spanId ≠ seed.parentSpanId) :
    seed.heir (joined ++ [r]) = seed.heir joined := by
  rw [heir, heir, List.find?_append, List.find?_cons_of_neg (by simpa using h), List.find?_nil,
    Option.or_none]

theorem heir_concat_of_eq (hseed : ¬seed.isRoot) (h : ∀ r ∈ joined, r.spanId ≠ seed.parentSpanId)
    (hr : r.spanId = seed.parentSpanId) : seed.heir (joined ++ [r]) = r := by
  rw [heir, if_neg hseed, List.find?_append, find?_parent_eq_none h, Option.none_or,
    List.find?_cons_of_pos (by simpa using hr), Option.getD_some]

end SpanRecord

theorem Representative.yieldsTo_iff {root : Representative} {r : SpanRecord} :
    root.yieldsTo r ↔ r.spanId ≠ .zero ∧ root.expectedParent = r.spanId := by
  rw [yieldsTo, Bool.and_eq_true, Bool.not_eq_true', ← Bool.not_eq_true, Id.isZero_iff, beq_iff_eq]

/-- The representative that a seed has left waits for the parent of the seed, if it has one. -/
theorem Representative.yieldsTo_parent {seed r : SpanRecord} (span : SpanRecord) :
    (mk span seed.parentSpanId).yieldsTo r ↔ ¬seed.isRoot ∧ r.spanId = seed.parentSpanId := by
  rw [yieldsTo_iff, SpanRecord.isRoot_iff]
  constructor
  · rintro ⟨hz, e⟩
    exact ⟨fun e' => hz (e ▸ e'), e.symm⟩
  · rintro ⟨hz, e⟩
    exact ⟨fun e' => hz (e ▸ e'), e.symm⟩

namespace TraceIndex

variable {t : TraceIndex} {l : Ledger} {p : Pair}

/-! ## Seedings -/

/-- None of some actions, done one after the other, seeds the pair. -/
def Unseeded (t : TraceIndex) (p : Pair) : List TraceAction → Prop
  | [] => True
  | a :: rest => a.seed? t p = none ∧ Unseeded (t.act a) p rest

theorem unseeded_concat (t : TraceIndex) (p : Pair) (actions : List TraceAction) (a : TraceAction) :
    Unseeded t p (actions ++ [a]) ↔
      Unseeded t p actions ∧ a.seed? (actions.foldl act t) p = none := by
  induction actions generalizing t with
  | nil => simp [Unseeded]
  | cons b rest ih => rw [List.cons_append, Unseeded, Unseeded, ih, and_assoc, List.foldl_cons]

/-- The latest seeding of a pair in a history that has left spans in the pair. -/
structure Seeding (actions : List TraceAction) (p : Pair) where
  before : List TraceAction
  action : TraceAction
  after : List TraceAction
  history : actions = before ++ action :: after
  /-- The span that the pair was seeded with. -/
  seed : SpanRecord
  seeds : action.seed? (run before) p = some seed
  last : Unseeded (run (before ++ [action])) p after
  /-- The spans that the pair had when it was seeded, the seed among them. -/
  early : List SpanRecord
  /-- The spans that have joined the pair since. -/
  joined : List SpanRecord
  ofPair_seeded : (run (before ++ [action])).spansOfPair? p = some early
  ofPair : (run actions).spansOfPair? p = some (early ++ joined)

/-! ## The representative by the latest seeding -/

/-- The representative of a pair that was last seeded with `seed`, when it had the spans `early`,
and that the spans `joined` have joined since. -/
structure Stands (t : TraceIndex) (l : Ledger) (p : Pair) (seed : SpanRecord)
    (early joined : List SpanRecord) : Prop extends t.Represents l where
  spans : l.ofPair p = early ++ joined
  representative : t.root? p = some ⟨seed.heir joined, seed.parentSpanId⟩

variable {seed : SpanRecord} {early joined : List SpanRecord} {a : TraceAction}

theorem Stands.spanId_mem (h : Stands t l p seed early joined) {r : SpanRecord} (hr : r ∈ joined) :
    r.spanId ∈ l.ids := by
  have hm : r ∈ l.ofPair p := h.spans ▸ List.mem_append_right early hr
  obtain ⟨f, hf, rfl, -⟩ := Ledger.mem_ofPair.mp hm
  exact List.mem_map_of_mem hf

/-- No span with a free identifier has joined. -/
theorem Stands.spanId_ne (h : Stands t l p seed early joined) {i : SpanId} (hi : i ∉ l.ids) :
    ∀ r ∈ joined, r.spanId ≠ i :=
  fun _ hr e => hi (e ▸ h.spanId_mem hr)

/-- What seeds a pair stands for it. -/
theorem Represents.stands_of_seeds (h : t.Represents l) (ha : a.seed? t p = some seed) :
    Stands (t.act a) (l.act a) p seed ((l.act a).ofPair p) [] where
  toRepresents := h.act a
  spans := (List.append_nil _).symm
  representative := by
    rw [SpanRecord.heir_nil]
    cases h.fate p a with
    | seeded seed' hseed hroot =>
      obtain rfl : seed' = seed := Option.some.inj (hseed.symm.trans ha)
      exact hroot
    | joined _ _ hseed | kept hseed | gone hseed => exact nomatch hseed.symm.trans ha

theorem Stands.heir_eq_seed (h : Stands t l p seed early joined) (hi : seed.parentSpanId ∉ l.ids) :
    seed.heir joined = seed :=
  SpanRecord.heir_of_absent (h.spanId_ne hi)

theorem Stands.heir_concat (h : Stands t l p seed early joined) {r : SpanRecord}
    (hi : r.spanId ∉ l.ids) :
    seed.heir (joined ++ [r]) =
      if ¬seed.isRoot ∧ r.spanId = seed.parentSpanId then r else seed.heir joined := by
  by_cases hs : seed.isRoot
  · rw [if_neg fun e => e.1 hs, SpanRecord.heir_of_isRoot hs, SpanRecord.heir_of_isRoot hs]
  by_cases e : r.spanId = seed.parentSpanId
  · rw [if_pos ⟨hs, e⟩, SpanRecord.heir_concat_of_eq hs (h.spanId_ne (e ▸ hi)) e]
  · rw [if_neg fun he => e he.2, SpanRecord.heir_concat_of_ne e]

/-- Until the pair is seeded again or emptied, the representative is the heir of the seed. -/
theorem Stands.act (h : Stands t l p seed early joined) (ha : a.seed? t p = none)
    (hne : (l.act a).ofPair p ≠ []) :
    ∃ more, Stands (t.act a) (l.act a) p seed early (joined ++ more) := by
  cases h.fate p a with
  | seeded seed' hseed => exact nomatch ha.symm.trans hseed
  | joined r root _ hi _ hjoined hold hroot =>
    obtain rfl := Option.some.inj (hold.symm.trans h.representative)
    refine ⟨[r], h.toRepresents.act a, ?_, ?_⟩
    · rw [hjoined, h.spans, List.append_assoc]
    · simp only [hroot, h.heir_concat hi, Representative.yieldsTo_parent]
      split <;> rfl
  | kept _ hkept hroot =>
    refine ⟨[], h.toRepresents.act a, ?_, ?_⟩
    · rw [hkept, h.spans, List.append_nil]
    · rw [hroot, h.representative, List.append_nil]
  | gone _ hgone => exact absurd hgone hne

/-- A pair without spans is opened by being seeded. -/
theorem Represents.ofPair_act_eq_nil (h : t.Represents l) (hp : l.ofPair p = [])
    (ha : a.seed? t p = none) : (l.act a).ofPair p = [] := by
  cases h.fate p a with
  | seeded seed' hseed => exact nomatch ha.symm.trans hseed
  | joined _ _ _ _ hne => exact absurd hp hne
  | kept _ hkept => rw [hkept, hp]
  | gone _ hgone => exact hgone

/-- What an insertion into the pair does: nothing, if the identifier is taken; else the span is
promoted if the seed names it as its parent, and joins the others if not. -/
theorem Stands.insert_cases (h : Stands t l p seed early joined) (hne : l.ofPair p ≠ [])
    {service : String} {r : SpanRecord} (hp : ⟨r.traceId, service⟩ = p) :
    (r.spanId ∈ l.ids ∧ t.insert service r = (t, .unchanged)) ∨
    (r.spanId ∉ l.ids ∧ ¬seed.isRoot ∧ r.spanId = seed.parentSpanId ∧
      (t.insert service r).2 = ⟨false, some seed.spanId⟩ ∧ t.representative? p = some seed ∧
      (t.insert service r).1.representative? p = some r) ∨
    (r.spanId ∉ l.ids ∧ ¬(¬seed.isRoot ∧ r.spanId = seed.parentSpanId) ∧
      (t.insert service r).2 = .unchanged ∧
      (t.insert service r).1.representative? p = t.representative? p) := by
  subst hp
  rcases h.toRepresents.insert_cases service r with
    ⟨hi, e⟩ | ⟨-, hnil, -⟩ | ⟨hi, -, root, hold, houtcome, hroot⟩
  · exact .inl ⟨hi, e⟩
  · exact absurd hnil hne
  · obtain rfl := Option.some.inj (hold.symm.trans h.representative)
    simp only [Representative.yieldsTo_parent] at houtcome hroot
    rw [representative?, representative?, hold, hroot, houtcome]
    by_cases hy : ¬seed.isRoot ∧ r.spanId = seed.parentSpanId
    · have hseed := h.heir_eq_seed (hy.2 ▸ hi)
      refine .inr (.inl ⟨hi, hy.1, hy.2, ?_, congrArg some hseed, ?_⟩)
      · rw [if_pos hy, hseed]
      · rw [if_pos ⟨rfl, hy⟩]
        rfl
    · refine .inr (.inr ⟨hi, hy, ?_, ?_⟩)
      · rw [if_neg hy]
        rfl
      · rw [if_neg fun e => hy e.2, hold]

/-- What an insertion that reports a replaced span has done. -/
theorem Stands.of_replaced (h : Stands t l p seed early joined) (hne : l.ofPair p ≠ [])
    {service : String} {r : SpanRecord} (hp : ⟨r.traceId, service⟩ = p) {i : SpanId}
    (hi : (t.insert service r).2.replaced = some i) :
    r.spanId ∉ l.ids ∧ ¬seed.isRoot ∧ r.spanId = seed.parentSpanId ∧ i = seed.spanId ∧
      t.representative? p = some seed ∧ (t.insert service r).1.representative? p = some r := by
  rcases h.insert_cases hne hp with ⟨-, e⟩ | ⟨hr, hs, hparent, e, hold, hnew⟩ | ⟨-, -, e, -⟩
  · rw [e] at hi
    cases hi
  · rw [e] at hi
    exact ⟨hr, hs, hparent, (Option.some.inj hi).symm, hold, hnew⟩
  · rw [e] at hi
    cases hi

/-! ## One action after the other -/

theorem Represents.ofPair_foldl_eq_nil (h : t.Represents l) (hp : l.ofPair p = [])
    {actions : List TraceAction} (ha : Unseeded t p actions) :
    (actions.foldl Ledger.act l).ofPair p = [] := by
  induction actions generalizing t l with
  | nil => exact hp
  | cons a rest ih => exact ih (h.act a) (h.ofPair_act_eq_nil hp ha.1) ha.2

theorem Stands.foldl_act (h : Stands t l p seed early joined) {actions : List TraceAction}
    (ha : Unseeded t p actions) (hne : (actions.foldl Ledger.act l).ofPair p ≠ []) :
    ∃ more, Stands (actions.foldl TraceIndex.act t) (actions.foldl Ledger.act l) p seed early
      (joined ++ more) := by
  induction actions generalizing t l joined with
  | nil =>
    refine ⟨[], ?_⟩
    rwa [List.append_nil]
  | cons a rest ih =>
    obtain ⟨hseed, hrest⟩ := ha
    -- if the pair had been emptied, it would have to be seeded to have spans in the end
    have hstep : (l.act a).ofPair p ≠ [] := fun hp =>
      hne ((h.toRepresents.act a).ofPair_foldl_eq_nil hp hrest)
    obtain ⟨more, hmore⟩ := h.act hseed hstep
    obtain ⟨later, hlater⟩ := ih hmore hrest hne
    refine ⟨more ++ later, ?_⟩
    rwa [← List.append_assoc]

namespace Seeding

variable {actions : List TraceAction}

theorem run_after (s : Seeding actions p) :
    s.after.foldl TraceIndex.act (run (s.before ++ [s.action])) = run actions ∧
      s.after.foldl Ledger.act (Ledger.run (s.before ++ [s.action])) = Ledger.run actions := by
  have hhistory : actions = s.before ++ [s.action] ++ s.after :=
    s.history.trans (List.append_cons ..)
  constructor
  · rw [run, ← List.foldl_append, ← hhistory, run]
  · rw [Ledger.run, ← List.foldl_append, ← hhistory, Ledger.run]

/-- The same seeding after one more action, which does not seed the pair. -/
def extend (s : Seeding actions p) (a : TraceAction) (more : List SpanRecord)
    (ha : a.seed? (run actions) p = none)
    (hmore : (run (actions ++ [a])).spansOfPair? p = some (s.early ++ (s.joined ++ more))) :
    Seeding (actions ++ [a]) p :=
  { s with
    after := s.after ++ [a]
    history := by
      rw [← List.cons_append, ← List.append_assoc, ← s.history]
    last := (unseeded_concat ..).mpr ⟨s.last, s.run_after.1 ▸ ha⟩
    joined := s.joined ++ more
    ofPair := hmore }

theorem run_seeded (s : Seeding actions p) :
    run (s.before ++ [s.action]) = (run s.before).act s.action ∧
      Ledger.run (s.before ++ [s.action]) = (Ledger.run s.before).act s.action :=
  ⟨List.foldl_concat .., List.foldl_concat ..⟩

theorem ofPair_early (s : Seeding actions p) :
    (Ledger.run (s.before ++ [s.action])).ofPair p = s.early := by
  have hearly := s.ofPair_seeded
  rw [(represents_run _).spansOfPair?] at hearly
  exact (filled_eq_some.mp hearly).1

theorem ofPair_run (s : Seeding actions p) :
    (Ledger.run actions).ofPair p = s.early ++ s.joined ∧ (Ledger.run actions).ofPair p ≠ [] := by
  have hspans := s.ofPair
  rwa [(represents_run _).spansOfPair?, filled_eq_some] at hspans

theorem stands (s : Seeding actions p) :
    Stands (run actions) (Ledger.run actions) p s.seed s.early s.joined := by
  obtain ⟨hrun, hledger⟩ := s.run_seeded
  obtain ⟨hafter, hafter'⟩ := s.run_after
  obtain ⟨hspans, hne⟩ := s.ofPair_run
  have hseeded := (represents_run s.before).stands_of_seeds s.seeds
  rw [← hrun, ← hledger, s.ofPair_early] at hseeded
  obtain ⟨more, hstands⟩ := hseeded.foldl_act s.last (by rwa [hafter'])
  rw [hafter, hafter', List.nil_append] at hstands
  have hmore : more = s.joined := List.append_cancel_left (hstands.spans.symm.trans hspans)
  rwa [← hmore]

/-- A pair is opened by one span. -/
theorem early_of_insert (s : Seeding actions p) {service : String} {r : SpanRecord}
    (h : s.action = .insert service r) : s.early = [s.seed] := by
  rw [← s.ofPair_early, s.run_seeded.2]
  cases (represents_run s.before).fate p s.action with
  | seeded seed hseed _ _ hopened =>
    obtain rfl : seed = s.seed := Option.some.inj (hseed.symm.trans s.seeds)
    exact hopened service r h
  | joined _ _ hseed | kept hseed | gone hseed => exact nomatch hseed.symm.trans s.seeds

/-- A pair that has not been recalculated since it was created was opened by its seed. -/
theorem early_of_ne (s : Seeding actions p) (h : s.action ≠ .recalculate p) :
    s.early = [s.seed] := by
  have hseeds := s.seeds
  cases ha : s.action with
  | insert service r => exact s.early_of_insert ha
  | recalculate q =>
    rw [ha] at h hseeds
    have hq : q ≠ p := fun e => h (congrArg TraceAction.recalculate e)
    rw [TraceAction.seed?, if_neg hq] at hseeds
    cases hseeds
  | delete _ | flush =>
    rw [ha] at hseeds
    cases hseeds

theorem ofPair_of_ne (s : Seeding actions p) (h : s.action ≠ .recalculate p) :
    (Ledger.run actions).ofPair p = s.seed :: s.joined := by
  rw [s.ofPair_run.1, s.early_of_ne h, List.singleton_append]

end Seeding

/-- A pair that has spans has been seeded. -/
theorem exists_seeding {actions : List TraceAction} (h : (Ledger.run actions).ofPair p ≠ []) :
    Nonempty (Seeding actions p) := by
  induction actions using List.reverseRecOn with
  | nil => exact absurd rfl h
  | append_singleton actions a ih =>
    have hrun : run (actions ++ [a]) = (run actions).act a := List.foldl_concat ..
    have hledger : Ledger.run (actions ++ [a]) = (Ledger.run actions).act a := List.foldl_concat ..
    have hspans := (represents_run (actions ++ [a])).spansOfPair? p
    rw [filled_of_ne_nil h] at hspans
    rw [hledger] at h hspans
    cases (represents_run actions).fate p a with
    | seeded seed hseed =>
      exact ⟨{
        before := actions, action := a, after := [], history := rfl, seed, seeds := hseed
        last := trivial, early := _, joined := [], ofPair_seeded := hspans
        ofPair := hspans.trans (congrArg some (List.append_nil _).symm) }⟩
    | joined r root hseed _ hne hjoined =>
      obtain ⟨s⟩ := ih hne
      refine ⟨s.extend a [r] hseed (hspans.trans (congrArg some ?_))⟩
      rw [hjoined, s.ofPair_run.1, List.append_assoc]
    | kept hseed hkept =>
      obtain ⟨s⟩ := ih (hkept ▸ h)
      refine ⟨s.extend a [] hseed (hspans.trans (congrArg some ?_))⟩
      rw [hkept, s.ofPair_run.1, List.append_nil]
    | gone _ hgone => exact absurd hgone h

/-! ## Promotions -/

/-- What a seeding says of the pair as the history has left it. -/
structure Seeding.Rules {actions : List TraceAction} (s : Seeding actions p) : Prop where
  /-- A span that has opened the pair is its first one. -/
  opened : ∀ service r, s.action = .insert service r → s.early = [s.seed]
  representative : (run actions).representative? p = some (s.seed.heir s.joined)
  /-- An insertion reports the seed as replaced if the span is new and the parent of the seed. -/
  replaced : ∀ service r i, ⟨r.traceId, service⟩ = p →
    (((run actions).insert service r).2.replaced = some i ↔
      (run actions).span? r.spanId = none ∧ ¬s.seed.isRoot ∧ r.spanId = s.seed.parentSpanId ∧
        i = s.seed.spanId)
  /-- It does so if it puts the span into the place of the seed, and only then. -/
  promoted : ∀ service r, ⟨r.traceId, service⟩ = p →
    ((run actions).insert service r).2.replaced.isSome →
      (run actions).representative? p = some s.seed ∧
        ((run actions).insert service r).1.representative? p = some r
  unpromoted : ∀ service r, ⟨r.traceId, service⟩ = p →
    ((run actions).insert service r).2.replaced = none →
      ((run actions).insert service r).1.representative? p = (run actions).representative? p

theorem Seeding.rules {actions : List TraceAction} (s : Seeding actions p) : s.Rules := by
  have h := s.stands
  obtain ⟨-, hne⟩ := s.ofPair_run
  exact {
    opened _ _ := s.early_of_insert
    representative := congrArg (Option.map _) h.representative
    replaced service r i hp := by
      constructor
      · intro hi
        obtain ⟨hr, hs, hparent, e, -⟩ := h.of_replaced hne hp hi
        exact ⟨h.span?_eq_none.mpr hr, hs, hparent, e⟩
      · rintro ⟨hr, hs, hparent, rfl⟩
        rcases h.insert_cases hne hp with ⟨hr', -⟩ | ⟨-, -, -, e, -⟩ | ⟨-, hs', -⟩
        · exact absurd hr' (h.span?_eq_none.mp hr)
        · rw [e]
        · exact absurd ⟨hs, hparent⟩ hs'
    promoted service r hp hx := by
      obtain ⟨i, hi⟩ := Option.isSome_iff_exists.mp hx
      obtain ⟨-, -, -, -, hold, hnew⟩ := h.of_replaced hne hp hi
      exact ⟨hold, hnew⟩
    unpromoted service r hp hx := by
      rcases h.insert_cases hne hp with ⟨-, e⟩ | ⟨-, -, -, e, -⟩ | ⟨-, -, -, hsame⟩
      · rw [e]
      · rw [e] at hx
        cases hx
      · exact hsame }

/-- Only into a pair that has spans a span is promoted. -/
theorem Represents.ofPair_ne_nil (h : t.Represents l) (ha : a.Promotes t p) : l.ofPair p ≠ [] := by
  obtain ⟨service, r, -, rfl, hr⟩ := ha
  rcases h.insert_cases service r with ⟨-, e⟩ | ⟨-, -, e, -⟩ | ⟨-, hp, -⟩
  · rw [e] at hr
    cases hr
  · rw [e] at hr
    cases hr
  · exact hp

/-- The span that is promoted is the parent of the seed, and joins the pair. -/
theorem Stands.promotes (h : Stands t l p seed early joined) (ha : a.Promotes t p) :
    ∃ r, r.spanId ∉ l.ids ∧ r.spanId = seed.parentSpanId ∧ a.seed? t p = none ∧
      (l.act a).ofPair p = early ++ (joined ++ [r]) := by
  have hne := h.ofPair_ne_nil ha
  obtain ⟨service, r, rfl, hp, hx⟩ := ha
  obtain ⟨i, hi⟩ := Option.isSome_iff_exists.mp hx
  obtain ⟨hr, -, hparent, -⟩ := h.of_replaced hne hp hi
  refine ⟨r, hr, hparent, seed?_insert_of_old (h.spansOfPair?_ne_none.mpr hne), ?_⟩
  rw [Ledger.act, Ledger.insert, if_neg hr, Ledger.ofPair_concat, if_pos hp, h.spans,
    List.append_assoc]

/-- After a promotion the parent of the seed is among the spans of the pair, so no other span with
its identifier can come until the pair is seeded again. -/
theorem Stands.not_promotes (h : Stands t l p seed early joined) (ha : a.Promotes t p)
    {between : List TraceAction} (hbetween : Unseeded (t.act a) p between) (b : TraceAction) :
    ¬b.Promotes (between.foldl TraceIndex.act (t.act a)) p := by
  intro hb
  obtain ⟨r, -, hparent, hseed, hjoined⟩ := h.promotes ha
  have hne : (l.act a).ofPair p ≠ [] := by
    rw [hjoined, ← List.append_assoc]
    exact List.append_ne_nil_of_right_ne_nil _ (List.cons_ne_nil r [])
  obtain ⟨more, hfirst⟩ := h.act hseed hne
  have hmore : joined ++ more = joined ++ [r] :=
    List.append_cancel_left (hfirst.spans.symm.trans hjoined)
  rw [hmore] at hfirst
  have hne' := (hfirst.toRepresents.foldl_act between).ofPair_ne_nil hb
  obtain ⟨later, hsecond⟩ := hfirst.foldl_act hbetween hne'
  obtain ⟨r', hi', hparent', -⟩ := hsecond.promotes hb
  have hmem : r ∈ joined ++ [r] ++ later :=
    List.mem_append_left later (List.mem_append_right joined List.mem_cons_self)
  exact hi' (hparent'.trans hparent.symm ▸ hsecond.spanId_mem hmem)

/-- After any history of an index, a pair that has spans has been seeded, by the span that opened
it or by a recalculation, and its representative is the heir of the latest seed: the span with the
identifier of the seed's parent that has joined the pair since, if the seed names a parent and
there is such a span, and the seed itself otherwise. An insertion reports the identifier of the
seed as replaced if it promotes such a span, and nothing otherwise; and from one seeding to the
next no more than one span is promoted. -/
theorem run_promotes_once (actions : List TraceAction) (p : Pair) :
    ((run actions).spansOfPair? p ≠ none → Nonempty (Seeding actions p)) ∧
    (∀ s : Seeding actions p, s.Rules) ∧
    (∀ a : TraceAction, a.Promotes (run actions) p → (run actions).spansOfPair? p ≠ none) ∧
    ∀ (a b : TraceAction) (between : List TraceAction), a.Promotes (run actions) p →
      b.Promotes (run (actions ++ a :: between)) p → ¬Unseeded (run (actions ++ [a])) p between := by
  have h := represents_run actions
  refine ⟨fun hp => exists_seeding (h.spansOfPair?_ne_none.mp hp), fun s => s.rules,
    fun a ha => h.spansOfPair?_ne_none.mpr (h.ofPair_ne_nil ha), fun a b between ha hb hbetween => ?_⟩
  obtain ⟨s⟩ := exists_seeding (h.ofPair_ne_nil ha)
  have hrun : run (actions ++ [a]) = (run actions).act a := List.foldl_concat ..
  have hrun' : run (actions ++ a :: between) =
      between.foldl TraceIndex.act ((run actions).act a) := List.foldl_append
  rw [hrun] at hbetween
  rw [hrun'] at hb
  exact s.stands.not_promotes ha hbetween b hb

/-- A span of which nothing is known but its service and its identifiers. -/
def call (service : String) (traceId spanId parentSpanId : Nat) : SpanRecord :=
  ⟨spanId, .ofName (.ofNat traceId) (.ofNat spanId) (.ofNat parentSpanId) "call" .epoch .epoch,
    .ofServiceName service, .empty⟩

/-- Three generations of a pair, of which the youngest has opened it: its parent is promoted, the
parent of that one is not. -/
theorem run_promotes_once_of_generations :
    let child := call "web" 1 3 2
    let parent := call "web" 1 2 1
    let grandparent := call "web" 1 1 0
    let p : Pair := ⟨.ofNat 1, "web"⟩
    let opened : List TraceAction := [.insert "web" child]
    let grown : List TraceAction := [.insert "web" child, .insert "web" parent]
    TraceAction.Promotes (run opened) p (.insert "web" parent) ∧
      (∃ s : Seeding grown p, s.seed = child ∧ s.Rules) ∧
      (run grown).representative? p = some parent ∧
      ¬TraceAction.Promotes (run grown) p (.insert "web" grandparent) :=
  have hpromotes : TraceAction.Promotes (run [.insert "web" (call "web" 1 3 2)]) ⟨.ofNat 1, "web"⟩
      (.insert "web" (call "web" 1 2 1)) := ⟨"web", _, rfl, rfl, rfl⟩
  have ⟨_, _, _, honce⟩ := run_promotes_once [.insert "web" (call "web" 1 3 2)] ⟨.ofNat 1, "web"⟩
  ⟨hpromotes,
    ⟨{ before := [], action := .insert "web" (call "web" 1 3 2)
       after := [.insert "web" (call "web" 1 2 1)], history := rfl
       seed := call "web" 1 3 2, seeds := rfl, last := ⟨rfl, trivial⟩
       early := [call "web" 1 3 2], joined := [call "web" 1 2 1]
       ofPair_seeded := rfl, ofPair := rfl }, rfl, (run_promotes_once ..).2.1 _⟩,
    rfl, fun h => honce _ _ [] hpromotes h trivial⟩

end TraceIndex

end Telemetry
