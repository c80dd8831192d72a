import Telemetry.Intake.Queue
import Telemetry.Store.Basic

/-!
# The engine that takes batches in

Batches wait in a queue until the worker of the engine applies them to the store.
The worker goes through rounds: while the engine runs, a round applies up to a
fixed number of batches; when it has been told to stop, the next round applies
all that wait, and the worker ends.

* `Engine.capture`, `Engine.start`, `Engine.requestStop`: what others do;
* `Engine.round`: one round of the worker;
* `Engine.settle`, `Engine.stop`: rounds until nothing waits, and until the worker
  has ended.
-/

namespace Telemetry

/-- A store with the queue and the worker in front of it. -/
structure Engine where
  settings : EngineSettings
  queue : Queue Batch
  running : Bool
  /-- Whether there is a worker, which outlives `running` by one round. -/
  hasWorker : Bool
  store : Store

/-- Why there is no engine. -/
inductive EngineError where
  | settings (fault : SettingsFault)
  | store (e : StoreError)
  deriving DecidableEq

/-- The wording of the error. -/
def EngineError.message : EngineError → String
  | .settings fault => fault.message
  | .store e => e.message

namespace Engine

/-- An engine at rest in front of a store. -/
def ofStore (settings : EngineSettings) (store : Store) : Except EngineError Engine :=
  match settings.validate with
  | .error e => .error (.settings e)
  | .ok _ =>
    .ok
      { settings, queue := .empty settings.bufferSize, running := false, hasWorker := false, store }

/-- An engine at rest in front of a store of its own. -/
def ofSettings (settings : Settings) : Except EngineError Engine :=
  match settings.validate with
  | .error e => .error (.settings e)
  | .ok _ =>
    match Store.create settings.store with
    | .error e => .error (.store e)
    | .ok store => ofStore settings.engine store

/-- Lets a batch wait for the worker, if there is room. -/
def capture (e : Engine) (b : Batch) : Except QueueError Engine :=
  match e.queue.offer b with
  | .ok queue => .ok { e with queue }
  | .error err => .error err

/-- Starts a worker, unless the engine runs already. -/
def start (e : Engine) : Engine :=
  if e.running then e else { e with running := true, hasWorker := true }

/-- Tells the worker to end. -/
def requestStop (e : Engine) : Engine := { e with running := false }

/-- One round of the worker, if there is one; also the news of it. -/
def round (e : Engine) : Engine × List Notice :=
  if e.hasWorker then
    let (batches, queue) :=
      if e.running then e.queue.takeUpTo e.settings.batchSize else e.queue.drain
    let (store, notices) := e.store.applyAll batches
    ({ e with queue, store, hasWorker := e.running }, notices)
  else (e, [])

/-- Rounds of the worker, as many as given. -/
def rounds (e : Engine) : Nat → Engine × List Notice
  | 0 => (e, [])
  | n + 1 =>
    let (e, notices) := e.round
    let (e, later) := rounds e n
    (e, notices ++ later)

/-- As many rounds as batches wait: while the engine runs, nothing waits after
them. -/
def settle (e : Engine) : Engine × List Notice :=
  e.rounds e.queue.size

/-- Stops the engine: the worker, if there is one, applies all that wait and ends. -/
def stop (e : Engine) : Engine × List Notice :=
  e.requestStop.round

end Engine

end Telemetry
