import RecoveryAgent.Core.StateMachine
import RecoveryAgent.Core.CommitBackend
import RecoveryAgent.Core.Distress
import RecoveryAgent.Store.CaseStore
import RecoveryAgent.Lib.Program

/-! What a request handler of `main.py` can ask for: calls of the store, of the commit
backend, of its clock and of the distress detector.
Handlers are programs over these operations, so that one text is executed at once,
interleaved with other workers, or cut short by a crash.
-/

namespace RecoveryAgent

-----------------------------------------------------------------------------------------
-- Workers and what they share
-----------------------------------------------------------------------------------------

/-- The effect `execute_retry` commits. -/
structure Effect where
  caseId : String
  attempt : Nat
  toState : CaseState
  at_ : String
  deriving DecidableEq

/-- `json.dumps(effect)`. -/
def Effect.dumps (effect : Effect) : String :=
  "\x7b\"case_id\": " ++ AuditEntry.quote effect.caseId
    ++ ", \"attempt\": " ++ toString effect.attempt
    ++ ", \"to_state\": " ++ AuditEntry.quote effect.toState.name
    ++ ", \"at\": " ++ AuditEntry.quote effect.at_ ++ "\x7d"

/-- How the service is deployed. -/
structure Deployment where
  config : AppConfig
  useEtcd : Bool

/-- The state one worker process keeps to itself. -/
structure Worker where
  clock : ServiceClock
  distress : DistressDetector
  committed : List (String × Nat)

/-- The state behind the connections of the workers. -/
structure Shared where
  store : CaseStore
  log : EtcdStore Effect

/-- One worker with the state it works on. -/
structure World extends Worker, Shared

-----------------------------------------------------------------------------------------
-- Operations
-----------------------------------------------------------------------------------------

inductive Op where
  | createCase (case : RecoveryCase)
  | getCase (caseId : String)
  | updateCase (case : RecoveryCase)
  | mutateCase (case : RecoveryCase)
  | findCaseByMandate (mandateId : String)
  | getMaxAttemptNumber (caseId : String)
  | findAttemptByPaymentId (paymentId : String)
  | recordFailure (event : PaymentFailureEvent)
  | recordRetryDecision (decision : RetryDecision)
  | updateRetryDecision (decision : RetryDecision)
  | getPendingRetries
  | nextSequence
  | lastEntryHash (caseId : String)
  | insertAudit (entry : AuditEntry)
  | commitEffect (caseId : String) (attempt : Nat) (effect : Effect)
  | getPrefix (start : String)
  /-- The clock as a call with so many readings sees it. -/
  | readClock (readings : Nat)
  | advanceClock (delta : Timedelta)
  | recordDistress (instrumentId : String) (now : Datetime)
  | failureCount (instrumentId : String) (now : Datetime)
  | isDistressed (instrumentId : String) (now : Datetime)

/-- The replies, with what an operation raises. -/
abbrev Res : Op → Type
  | .createCase _ => Except StoreException Unit
  | .getCase _ => Except StoreException RecoveryCase
  | .updateCase _ => Except StoreException Unit
  | .mutateCase _ => Unit
  | .findCaseByMandate _ => Option RecoveryCase
  | .getMaxAttemptNumber _ => Nat
  | .findAttemptByPaymentId _ => Option (String × Nat)
  | .recordFailure _ => Except StoreException Unit
  | .recordRetryDecision _ => Except StoreException Unit
  | .updateRetryDecision _ => Except StoreException Unit
  | .getPendingRetries => List RetryDecision
  | .nextSequence => Nat
  | .lastEntryHash _ => Option String
  | .insertAudit _ => Except StoreException Unit
  | .commitEffect _ _ _ => Except PyError Bool
  | .getPrefix _ => List Effect
  | .readClock _ => Clock
  | .advanceClock _ => Except PyError Unit
  | .recordDistress _ _ => Unit
  | .failureCount _ _ => Nat
  | .isDistressed _ _ => Bool

namespace World

/-- The world after some readings of its clock. -/
def tick (world : World) (readings : Nat) : World :=
  { world with clock := world.clock.skip readings }

/-- The world with another commit log. -/
def withLog (world : World) (log : EtcdStore Effect) : World := { world with log }

section Fields

variable (world : World) (readings : Nat) (newLog : EtcdStore Effect)

@[simp] theorem tick_clock : (world.tick readings).clock = world.clock.skip readings := rfl

@[simp] theorem tick_distress : (world.tick readings).distress = world.distress := rfl

@[simp] theorem tick_store : (world.tick readings).store = world.store := rfl

@[simp] theorem tick_log : (world.tick readings).log = world.log := rfl

@[simp] theorem tick_tick (more : Nat)
    : (world.tick readings).tick more = world.tick (readings + more) := by
  simp [tick]

@[simp] theorem withLog_clock : (world.withLog newLog).clock = world.clock := rfl

@[simp] theorem withLog_store : (world.withLog newLog).store = world.store := rfl

@[simp] theorem withLog_log : (world.withLog newLog).log = newLog := rfl

end Fields

/-- A store call: its result, or what it raised with the store as it was. -/
def stored (world : World) : Except StoreException CaseStore → Except StoreException Unit × World
  | .ok store => (.ok (), { world with store })
  | .error raised => (.error raised, world)

/-- The commit backend of the deployment. -/
def commitEffect (deployment : Deployment) (caseId : String) (attempt : Nat) (effect : Effect)
    (world : World)
    : Except PyError Bool × World :=
  if deployment.useEtcd then
    let (success, log) := world.log.transaction (EtcdQuorumBackend.keyFor caseId attempt) effect
    (.ok success, world.withLog log)
  else
    let (answer, committed) := InMemoryCommitBackend.commitEffect Effect.dumps
      (world.clock.reading 0) caseId attempt effect world.committed
    (answer, { world with committed })

/-- The reply to an operation and the state it leaves. -/
def answer (deployment : Deployment) : (op : Op) → World → Res op × World
  | .createCase case, world => world.stored (world.store.createCase case)
  | .getCase caseId, world => (world.store.getCase caseId, world)
  | .updateCase case, world => world.stored (world.store.updateCase case)
  | .mutateCase case, world => ((), { world with store := world.store.mutateCase case })
  | .findCaseByMandate mandateId, world => (world.store.findCaseByMandate mandateId, world)
  | .getMaxAttemptNumber caseId, world => (world.store.getMaxAttemptNumber caseId, world)
  | .findAttemptByPaymentId paymentId, world =>
      (world.store.findAttemptByPaymentId paymentId, world)
  | .recordFailure event, world => world.stored (world.store.recordFailure event)
  | .recordRetryDecision decision, world =>
      world.stored (world.store.recordRetryDecision decision)
  | .updateRetryDecision decision, world =>
      world.stored (world.store.updateRetryDecision decision)
  | .getPendingRetries, world => (world.store.getPendingRetries, world)
  | .nextSequence, world =>
      (world.store.nextSequence.1, { world with store := world.store.nextSequence.2 })
  | .lastEntryHash caseId, world => (world.store.lastEntryHash caseId, world)
  | .insertAudit entry, world => world.stored (world.store.insertAudit entry)
  | .commitEffect caseId attempt effect, world =>
      world.commitEffect deployment caseId attempt effect
  | .getPrefix start, world => (world.log.getPrefix start, world)
  | .readClock readings, world => (world.clock.view, world.tick readings)
  | .advanceClock delta, world =>
      match world.clock.advance delta with
      | .ok clock => (.ok (), { world with clock })
      | .error raised => (.error raised, world)
  | .recordDistress instrumentId now, world =>
      ((), { world with distress := world.distress.recordFailure instrumentId now })
  | .failureCount instrumentId now, world =>
      (world.distress.failureCount instrumentId now, world)
  | .isDistressed instrumentId now, world =>
      (world.distress.isDistressed instrumentId now, world)

end World

-----------------------------------------------------------------------------------------
-- Handlers
-----------------------------------------------------------------------------------------

/-- An exception of the language, its libraries or a store. -/
inductive PyException where
  | python (error : PyError)
  | store (error : StoreException)
  deriving DecidableEq

/-- The detail of an HTTP error: a fixed text, or `str` of the exception behind it. -/
inductive Detail where
  | text (message : String)
  | ofException (raised : PyException)
  deriving DecidableEq

/-- How a handler ends without a response; an exception that is not an HTTP error becomes
a 500.
-/
inductive Raised where
  | http (status : Nat) (detail : Detail)
  | exception (raised : PyException)
  deriving DecidableEq

/-- A handler or a part of one. -/
abbrev Handler := ExceptT Raised (Program Op Res)

namespace Handler

/-- Asks for one operation. -/
def call (op : Op) : Handler (Res op) := ExceptT.lift (Program.ask op)

/-- Raises what a store call raised. -/
def orRaise {α : Type} : Except StoreException α → Handler α
  | .ok value => pure value
  | .error raised => throw (.exception (.store raised))

/-- An HTTP error with a fixed text. -/
def refuse {α : Type} (status : Nat) (message : String) : Handler α :=
  throw (.http status (.text message))

def createCase (case : RecoveryCase) : Handler Unit := do
  orRaise (← call (.createCase case))

def getCase (caseId : String) : Handler RecoveryCase := do
  orRaise (← call (.getCase caseId))

def updateCase (case : RecoveryCase) : Handler Unit := do
  orRaise (← call (.updateCase case))

def mutateCase (case : RecoveryCase) : Handler Unit := call (.mutateCase case)

def findCaseByMandate (mandateId : String) : Handler (Option RecoveryCase) :=
  call (.findCaseByMandate mandateId)

def getMaxAttemptNumber (caseId : String) : Handler Nat := call (.getMaxAttemptNumber caseId)

def findAttemptByPaymentId (paymentId : String) : Handler (Option (String × Nat)) :=
  call (.findAttemptByPaymentId paymentId)

def recordFailure (event : PaymentFailureEvent) : Handler Unit := do
  orRaise (← call (.recordFailure event))

def recordRetryDecision (decision : RetryDecision) : Handler Unit := do
  orRaise (← call (.recordRetryDecision decision))

def updateRetryDecision (decision : RetryDecision) : Handler Unit := do
  orRaise (← call (.updateRetryDecision decision))

def getPendingRetries : Handler (List RetryDecision) := call .getPendingRetries

/-- `append_audit`: numbers the entry, links it behind the case's last one and inserts it. -/
def appendAudit (entry : AuditEntry) : Handler Unit := do
  let sequenceId ← match entry.sequenceId with
    | some sequenceId => pure sequenceId
    | none => call .nextSequence
  let prevHash ← call (.lastEntryHash entry.caseId)
  orRaise (← call (.insertAudit ({ entry with sequenceId := some sequenceId }.linked prevHash)))

/-- `for entry in audit_entries: store.append_audit(entry)`. -/
def appendAll : List AuditEntry → Handler Unit
  | [] => pure ()
  | entry :: rest => do
      appendAudit entry
      appendAll rest

def commitEffect (caseId : String) (attempt : Nat) (effect : Effect)
    : Handler (Except PyError Bool) :=
  call (.commitEffect caseId attempt effect)

def getPrefix (start : String) : Handler (List Effect) := call (.getPrefix start)

/-- The clock as a call that takes so many readings sees it. -/
def readClock (readings : Nat) : Handler Clock := call (.readClock readings)

/-- One reading of the clock. -/
def now : Handler Datetime := do
  let clock ← readClock 1
  return clock.now 0

def advance (delta : Timedelta) : Handler (Except PyError Unit) := call (.advanceClock delta)

def recordDistress (instrumentId : String) (now : Datetime) : Handler Unit :=
  call (.recordDistress instrumentId now)

def failureCount (instrumentId : String) (now : Datetime) : Handler Nat :=
  call (.failureCount instrumentId now)

def isDistressed (instrumentId : String) (now : Datetime) : Handler Bool :=
  call (.isDistressed instrumentId now)

-----------------------------------------------------------------------------------------
-- Execution at once
-----------------------------------------------------------------------------------------

/-- A handler executed at once by one worker. -/
def exec {α : Type} (deployment : Deployment) (handler : Handler α) (world : World)
    : Except Raised α × World :=
  Program.execute (World.answer deployment) handler.run world

section Exec

variable {α β : Type} (deployment : Deployment) (world : World)

@[simp] theorem exec_pure (value : α)
    : exec deployment (pure value) world = (.ok value, world) := rfl

@[simp] theorem exec_throw (raised : Raised)
    : exec deployment (throw raised : Handler α) world = (.error raised, world) := rfl

@[simp] theorem exec_refuse (status : Nat) (message : String)
    : exec deployment (refuse status message : Handler α) world
      = (.error (.http status (.text message)), world) := rfl

/-- A handler goes on only after a result. -/
@[simp] theorem exec_bind (handler : Handler α) (next : α → Handler β)
    : exec deployment (handler >>= next) world
      = match exec deployment handler world with
        | (.ok value, world') => exec deployment (next value) world'
        | (.error raised, world') => (.error raised, world') := by
  unfold exec
  rw [ExceptT.run_bind, Program.execute_bind]
  rcases Program.execute (World.answer deployment) handler.run world with ⟨_ | _, _⟩ <;> rfl

@[simp] theorem exec_ite (c : Prop) [Decidable c] (yes no : Handler α)
    : exec deployment (if c then yes else no) world
      = if c then exec deployment yes world else exec deployment no world := by
  split <;> rfl

/-- Adapting the exceptions of a handler changes nothing else about it. -/
@[simp] theorem exec_adapt (f : Raised → Raised) (handler : Handler α)
    : exec deployment (ExceptT.adapt f handler) world
      = ((exec deployment handler world).1.mapError f, (exec deployment handler world).2) := by
  unfold exec ExceptT.adapt
  simp only [ExceptT.run_mk]
  exact Program.execute_bind _ _ _

/-- A handler run for its outcome never raises itself. -/
@[simp] theorem exec_lift_run (handler : Handler α)
    : exec deployment (ExceptT.lift handler.run) world
      = (.ok (exec deployment handler world).1, (exec deployment handler world).2) := by
  unfold exec ExceptT.lift
  simp only [ExceptT.run_mk]
  exact Program.execute_bind _ _ _

@[simp] theorem exec_now
    : exec deployment now world = (.ok (world.clock.reading 0), world.tick 1) := rfl

@[simp] theorem exec_readClock (readings : Nat)
    : exec deployment (readClock readings) world
      = (.ok world.clock.view, world.tick readings) := rfl

end Exec

end Handler

end RecoveryAgent
