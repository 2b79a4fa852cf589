import RecoveryAgent.Lib.Attempt
import RecoveryAgent.Store.Interchange

/-! The connection of the Postgres case store.
A statement that the server refuses leaves the transaction in error, and every later statement
on the connection is refused until a rollback. Three of the methods roll back, and only after a
unique violation.
-/

namespace RecoveryAgent

-----------------------------------------------------------------------------------------
-- Statements
-----------------------------------------------------------------------------------------

/-- The statements of the store, each with what its cursor fetches. -/
inductive Statement : Type → Type where
  | insertCase (case : RecoveryCase) : Statement Unit
  | updateCase (case : RecoveryCase) : Statement Unit
  | selectCase (caseId : String) : Statement (Option RecoveryCase)
  | selectCases : Statement (List RecoveryCase)
  | selectCaseByMandate (mandateId : String) : Statement (Option RecoveryCase)
  | selectCaseByPaymentId (paymentId : String) : Statement (Option RecoveryCase)
  | selectMaxAttemptNumber (caseId : String) : Statement Nat
  | selectAttempt (paymentId : String) : Statement (Option (String × Nat))
  | insertFailure (event : PaymentFailureEvent) : Statement Unit
  | selectFailure (caseId : String) (attemptNumber : Nat) : Statement (Option PaymentFailureEvent)
  | insertDecision (decision : RetryDecision) : Statement Unit
  | updateDecision (decision : RetryDecision) : Statement Unit
  | selectDecision (caseId : String) (attemptNumber : Nat) : Statement (Option RetryDecision)
  | selectPending : Statement (List RetryDecision)
  | selectNextSequence : Statement Nat
  | selectLastHash (caseId : String) : Statement (Option String)
  | insertAudit (entry : AuditEntry) : Statement Unit
  | selectTrail (caseId : String) : Statement (List AuditEntry)

/-- What a statement does to the tables; none is a unique violation. -/
def Statement.run {α : Type}
    : Statement α → PostgresCaseStore → Option (α × PostgresCaseStore)
  | .insertCase case, tables =>
      (tables.recoveryCases.insert? case).map fun recoveryCases =>
        ((), { tables with recoveryCases })
  | .updateCase case, tables => some ((), tables.updateCase case)
  | .selectCase caseId, tables => some (tables.recoveryCases.find? caseId, tables)
  | .selectCases, tables => some (tables.listCases, tables)
  | .selectCaseByMandate mandateId, tables => some (tables.findCaseByMandate mandateId, tables)
  | .selectCaseByPaymentId paymentId, tables =>
      some (tables.findCaseByPaymentId paymentId, tables)
  | .selectMaxAttemptNumber caseId, tables => some (tables.getMaxAttemptNumber caseId, tables)
  | .selectAttempt paymentId, tables => some (tables.findAttemptByPaymentId paymentId, tables)
  | .insertFailure event, tables =>
      (tables.paymentFailures.insert? (PostgresCaseStore.failureRow event)).map
        fun paymentFailures => ((), { tables with paymentFailures })
  | .selectFailure caseId attemptNumber, tables =>
      some (tables.paymentFailures.rows.find? (·.attempt = (caseId, attemptNumber)), tables)
  | .insertDecision decision, tables =>
      (tables.retryDecisions.insert? decision).map fun retryDecisions =>
        ((), { tables with retryDecisions })
  | .updateDecision decision, tables => some ((), tables.updateRetryDecision decision)
  | .selectDecision caseId attemptNumber, tables =>
      some (tables.retryDecisions.find? (caseId, attemptNumber), tables)
  | .selectPending, tables => some (tables.getPendingRetries, tables)
  | .selectNextSequence, tables => some (tables.nextSequence, tables)
  | .selectLastHash caseId, tables => some (tables.lastEntryHash caseId, tables)
  | .insertAudit entry, tables => (tables.insertAudit entry).map fun tables => ((), tables)
  | .selectTrail caseId, tables => some (tables.getAuditTrail caseId, tables)

/-- The statements that add a row under a key. -/
def Statement.inserts {α : Type} : Statement α → Bool
  | .insertCase _ => true
  | .insertFailure _ => true
  | .insertDecision _ => true
  | .insertAudit _ => true
  | _ => false

/-- Only an INSERT can meet a taken key. -/
theorem Statement.run_ne_none {α : Type} {statement : Statement α}
    (reads : statement.inserts = false) (tables : PostgresCaseStore)
    : statement.run tables ≠ none := by
  intro taken
  cases statement <;> first | cases taken | cases reads

/-- What becomes of a statement before its effect on the rows. -/
inductive Verdict where
  /-- The server carries it out. -/
  | accepted
  /-- psycopg cannot adapt a parameter and sends nothing but the BEGIN. -/
  | unadaptable
  /-- The server refuses the values. -/
  | rejected
  deriving DecidableEq

/-- psycopg and the server, as far as they judge statements. A statement without parameters
that only reads a table is carried out.
-/
structure Driver where
  verdict : {α : Type} → PostgresCaseStore → Statement α → Verdict
  plain : ∀ tables, verdict tables .selectPending = .accepted

/-- A server that carries out every statement. -/
def Driver.permissive : Driver := ⟨fun _ _ => .accepted, fun _ => rfl⟩

-----------------------------------------------------------------------------------------
-- The connection
-----------------------------------------------------------------------------------------

inductive TransactionStatus where
  | idle
  | inTransaction
  | inError
  deriving DecidableEq

/-- One worker's connection, the tables it sees, and what the other workers commit before each
of its next statements. Its own uncommitted rows are not kept apart, since every write is
followed by its commit.
-/
structure Session where
  status : TransactionStatus := .idle
  tables : PostgresCaseStore := {}
  others : List (PostgresCaseStore → PostgresCaseStore) := []

namespace Session

/-- The first statement on an idle connection begins a transaction. -/
def begun (session : Session) : TransactionStatus :=
  match session.status with
  | .inError => .inError
  | _ => .inTransaction

/-- The tables the next statement finds. -/
def found (session : Session) : PostgresCaseStore :=
  match session.others with
  | [] => session.tables
  | commit :: _ => commit session.tables

/-- A statement has seen the tables and left them in a status. -/
def after (session : Session) (status : TransactionStatus) (tables : PostgresCaseStore)
    : Session :=
  ⟨status, tables, session.others.tail⟩

end Session

/-- The errors a method of the store can raise. -/
inductive DbError where
  | refused (error : CaseStoreError)
  | uniqueViolation
  | unadaptable
  | rejected
  | inFailedSqlTransaction

abbrev Query := Attempt Session DbError

/-- `cur.execute`, with the fetch. -/
def execute {α : Type} (driver : Driver) (statement : Statement α) : Query α := fun session =>
  match driver.verdict session.found statement with
  | .unadaptable => (.error .unadaptable, session.after session.begun session.found)
  | verdict =>
      match session.status with
      | .inError => (.error .inFailedSqlTransaction, session.after .inError session.found)
      | _ =>
          match verdict, statement.run session.found with
          | .accepted, some (value, tables) => (.ok value, session.after .inTransaction tables)
          | .accepted, none => (.error .uniqueViolation, session.after .inError session.found)
          | _, _ => (.error .rejected, session.after .inError session.found)

/-- `self.conn.commit()`. -/
def commit : Query Unit := fun session => (.ok (), { session with status := .idle })

/-- `self.conn.rollback()`. -/
def rollback : Query Unit := fun session => (.ok (), { session with status := .idle })

/-- `except psycopg.errors.UniqueViolation`. -/
def onUniqueViolation {α : Type} (handler : Query α) : DbError → Query α
  | .uniqueViolation => handler
  | error => throw error

-----------------------------------------------------------------------------------------
-- The methods
-----------------------------------------------------------------------------------------

/-- An INSERT or UPDATE and its commit. -/
def write (driver : Driver) (statement : Statement Unit) : Query Unit := do
  execute driver statement
  commit

/-- A SELECT of one row that has to be there. -/
def fetch {α : Type} (driver : Driver) (statement : Statement (Option α))
    (missing : CaseStoreError)
    : Query α := do
  let row ← execute driver statement
  match row with
  | some row => pure row
  | none => throw (.refused missing)

variable (driver : Driver)

namespace PostgresCaseStore.Connected

def createCase (case : RecoveryCase) : Query Unit :=
  (write driver (.insertCase case)).rescue <| onUniqueViolation do
    rollback
    throw (.refused (.caseAlreadyExists case.caseId))

def getCase (caseId : String) : Query RecoveryCase :=
  fetch driver (.selectCase caseId) (.caseNotFound caseId)

def updateCase (case : RecoveryCase) : Query Unit := write driver (.updateCase case)

def listCases : Query (List RecoveryCase) := execute driver .selectCases

def findCaseByMandate (mandateId : String) : Query (Option RecoveryCase) :=
  execute driver (.selectCaseByMandate mandateId)

def findCaseByPaymentId (paymentId : String) : Query (Option RecoveryCase) :=
  execute driver (.selectCaseByPaymentId paymentId)

def getMaxAttemptNumber (caseId : String) : Query Nat :=
  execute driver (.selectMaxAttemptNumber caseId)

def findAttemptByPaymentId (paymentId : String) : Query (Option (String × Nat)) :=
  execute driver (.selectAttempt paymentId)

def recordFailure (event : PaymentFailureEvent) : Query Unit :=
  (write driver (.insertFailure event)).rescue <| onUniqueViolation do
    rollback
    let attempt ← findAttemptByPaymentId driver event.paymentId
    match attempt with
    | some _ => throw (.refused (.paymentAlreadyRecorded event.paymentId))
    | none => throw (.refused (.failureAlreadyRecorded event.caseId event.attemptNumber))

def getFailure (caseId : String) (attemptNumber : Nat) : Query PaymentFailureEvent :=
  fetch driver (.selectFailure caseId attemptNumber) (.failureNotFound caseId attemptNumber)

def recordRetryDecision (decision : RetryDecision) : Query Unit :=
  (write driver (.insertDecision decision)).rescue <| onUniqueViolation do
    rollback
    throw (.refused (.decisionAlreadyRecorded decision.caseId decision.attemptNumber))

def getRetryDecision (caseId : String) (attemptNumber : Nat) : Query RetryDecision :=
  fetch driver (.selectDecision caseId attemptNumber) (.decisionNotFound caseId attemptNumber)

def updateRetryDecision (decision : RetryDecision) : Query Unit :=
  write driver (.updateDecision decision)

def getPendingRetries : Query (List RetryDecision) := execute driver .selectPending

/-- `append_audit` of an entry whose id is given. -/
def linkAudit (entry : AuditEntry) (sequenceId : Nat) : Query Unit := do
  let prevHash ← execute driver (.selectLastHash entry.caseId)
  write driver (.insertAudit ({ entry with sequenceId := some sequenceId }.linked prevHash))

/-- `append_audit`: the id and the link are read by statements of their own. -/
def appendAudit (entry : AuditEntry) : Query Unit :=
  match entry.sequenceId with
  | some sequenceId => linkAudit driver entry sequenceId
  | none => do
      let sequenceId ← execute driver .selectNextSequence
      linkAudit driver entry sequenceId

def getAuditTrail (caseId : String) : Query (List AuditEntry) :=
  execute driver (.selectTrail caseId)

end PostgresCaseStore.Connected

/-- The operations of the store. -/
inductive Operation where
  | call (call : StoreCall)
  | listCases

inductive Reply where
  | of (reply : StoreReply)
  | cases (cases : List RecoveryCase)

open PostgresCaseStore.Connected in
/-- An operation on the connection. -/
def Operation.perform : Operation → Query Reply
  | .call (.createCase case) => do createCase driver case; pure (.of .done)
  | .call (.updateCase case) => do updateCase driver case; pure (.of .done)
  | .call (.getCase caseId) => do let case ← getCase driver caseId; pure (.of (.case (some case)))
  | .call (.findCaseByMandate mandateId) => do
      let found ← findCaseByMandate driver mandateId
      pure (.of (.case found))
  | .call (.findCaseByPaymentId paymentId) => do
      let found ← findCaseByPaymentId driver paymentId
      pure (.of (.case found))
  | .call (.getMaxAttemptNumber caseId) => do
      let number ← getMaxAttemptNumber driver caseId
      pure (.of (.number number))
  | .call (.findAttemptByPaymentId paymentId) => do
      let found ← findAttemptByPaymentId driver paymentId
      pure (.of (.attempt found))
  | .call (.recordFailure event) => do recordFailure driver event; pure (.of .done)
  | .call (.getFailure caseId attemptNumber) => do
      let event ← getFailure driver caseId attemptNumber
      pure (.of (.failure event))
  | .call (.recordRetryDecision decision) => do
      recordRetryDecision driver decision
      pure (.of .done)
  | .call (.updateRetryDecision decision) => do
      updateRetryDecision driver decision
      pure (.of .done)
  | .call (.getRetryDecision caseId attemptNumber) => do
      let decision ← getRetryDecision driver caseId attemptNumber
      pure (.of (.decision decision))
  | .call .getPendingRetries => do
      let decisions ← getPendingRetries driver
      pure (.of (.decisions decisions))
  | .call (.appendAudit entry) => do appendAudit driver entry; pure (.of .done)
  | .call (.getAuditTrail caseId) => do
      let entries ← getAuditTrail driver caseId
      pure (.of (.trail entries))
  | .listCases => do
      let cases ← PostgresCaseStore.Connected.listCases driver
      pure (.cases cases)

-----------------------------------------------------------------------------------------
-- Statements on a connection
-----------------------------------------------------------------------------------------

variable {driver} {α β : Type}

/-- The server refuses the values of the statement. -/
def Rejected (driver : Driver) (statement : Statement α) (session : Session) : Prop :=
  driver.verdict session.found statement = .rejected

/-- The statement inserts a key that is taken when it is carried out. -/
def Collides (driver : Driver) (statement : Statement α) (session : Session) : Prop :=
  driver.verdict session.found statement = .accepted ∧ statement.run session.found = none

/-- The server refuses the statement. -/
def Refuses (driver : Driver) (statement : Statement α) (session : Session) : Prop :=
  Rejected driver statement session ∨ Collides driver statement session

/-- Every end of a statement on a connection that is not in error. -/
inductive Executed (driver : Driver) (statement : Statement α) (session : Session) : Prop where
  | returned (value : α) (tables : PostgresCaseStore)
      (accepted : driver.verdict session.found statement = .accepted)
      (run : statement.run session.found = some (value, tables))
      (fine : ¬Refuses driver statement session)
      (outcome
        : execute driver statement session = (.ok value, session.after .inTransaction tables))
  | collided (collides : Collides driver statement session)
      (outcome
        : execute driver statement session
          = (.error .uniqueViolation, session.after .inError session.found))
  | rejected (rejected : Rejected driver statement session)
      (outcome
        : execute driver statement session
          = (.error .rejected, session.after .inError session.found))
  | unadaptable (unadaptable : driver.verdict session.found statement = .unadaptable)
      (fine : ¬Refuses driver statement session)
      (outcome
        : execute driver statement session
          = (.error .unadaptable, session.after .inTransaction session.found))

theorem executed (driver : Driver) (statement : Statement α) {session : Session}
    (ready : session.status ≠ .inError)
    : Executed driver statement session := by
  have begun : session.begun = .inTransaction := by
    unfold Session.begun
    cases status : session.status with
    | inError => exact absurd status ready
    | _ => rfl
  cases verdict : driver.verdict session.found statement with
  | unadaptable =>
      have fine : ¬Refuses driver statement session := by
        simp [Refuses, Rejected, Collides, verdict]
      refine .unadaptable verdict fine ?_
      unfold execute
      rw [verdict, begun]
  | rejected =>
      refine .rejected verdict ?_
      unfold execute
      rw [verdict]
      cases status : session.status with
      | inError => exact absurd status ready
      | _ => rfl
  | accepted =>
      cases run : statement.run session.found with
      | none =>
          refine .collided ⟨verdict, run⟩ ?_
          unfold execute
          rw [verdict]
          cases status : session.status with
          | inError => exact absurd status ready
          | _ => simp only [run]
      | some result =>
          have fine : ¬Refuses driver statement session := by
            simp [Refuses, Rejected, Collides, verdict, run]
          refine .returned result.1 result.2 verdict run fine ?_
          unfold execute
          rw [verdict]
          cases status : session.status with
          | inError => exact absurd status ready
          | _ => simp only [run]

/-- A statement does the same at the start of a transaction and within one. -/
theorem execute_blind (statement : Statement α) {session : Session}
    (ready : session.status ≠ .inError)
    : (execute driver statement).Blind session { session with status := .idle } := by
  unfold Attempt.Blind execute Session.begun
  cases status : session.status with
  | inError => exact absurd status ready
  | _ => rfl

/-- After a statement error every statement is refused, with another error than a unique
violation.
-/
theorem execute_stuck (statement : Statement α) {session : Session}
    (inError : session.status = .inError)
    : (execute driver statement).Stuck session
        (· ≠ .uniqueViolation) (·.status = .inError) := by
  unfold Attempt.Stuck execute Session.begun
  rw [inError]
  cases driver.verdict session.found statement with
  | unadaptable => exact ⟨_, _, rfl, nofun, rfl⟩
  | _ => exact ⟨_, _, rfl, nofun, rfl⟩

/-- Computations that begin with a statement and catch nothing but its unique violation. -/
inductive Opens (driver : Driver) : {α : Type} → Query α → Prop where
  | execute {α : Type} (statement : Statement α) : Opens driver (execute driver statement)
  | bind {α β : Type} {first : Query α} (opens : Opens driver first) (next : α → Query β)
      : Opens driver (first >>= next)
  | rescue {α : Type} {body : Query α} (opens : Opens driver body) (handler : Query α)
      : Opens driver (body.rescue (onUniqueViolation handler))

theorem Opens.blind {query : Query α} (opens : Opens driver query) (session : Session)
    (ready : session.status ≠ .inError)
    : query.Blind session { session with status := .idle } := by
  induction opens with
  | execute statement => exact execute_blind statement ready
  | bind _ next ih => exact ih.bind next
  | rescue _ handler ih => exact ih.rescue _

theorem Opens.stuck {query : Query α} (opens : Opens driver query) (session : Session)
    (inError : session.status = .inError)
    : query.Stuck session (· ≠ .uniqueViolation) (·.status = .inError) := by
  induction opens with
  | execute statement => exact execute_stuck statement inError
  | bind _ next ih => exact ih.bind next
  | rescue _ handler ih =>
      refine ih.rescue fun failure other => ?_
      cases failure with
      | uniqueViolation => exact absurd rfl other
      | _ => rfl

/-- Every operation begins with a statement. -/
theorem Operation.opens (driver : Driver) (operation : Operation)
    : Opens driver (operation.perform driver) := by
  cases operation with
  | listCases => exact (Opens.execute _).bind _
  | call call =>
      cases call with
      | createCase case => exact (((Opens.execute _).bind _).rescue _).bind _
      | recordFailure event => exact (((Opens.execute _).bind _).rescue _).bind _
      | recordRetryDecision decision => exact (((Opens.execute _).bind _).rescue _).bind _
      | updateCase case => exact ((Opens.execute _).bind _).bind _
      | updateRetryDecision decision => exact ((Opens.execute _).bind _).bind _
      | getCase caseId => exact ((Opens.execute _).bind _).bind _
      | getFailure caseId attemptNumber => exact ((Opens.execute _).bind _).bind _
      | getRetryDecision caseId attemptNumber => exact ((Opens.execute _).bind _).bind _
      | appendAudit entry =>
          refine Opens.bind ?_ _
          unfold PostgresCaseStore.Connected.appendAudit
          cases entry.sequenceId with
          | none => exact (Opens.execute _).bind _
          | some sequenceId => exact (Opens.execute _).bind _
      | findCaseByMandate mandateId => exact (Opens.execute _).bind _
      | findCaseByPaymentId paymentId => exact (Opens.execute _).bind _
      | getMaxAttemptNumber caseId => exact (Opens.execute _).bind _
      | findAttemptByPaymentId paymentId => exact (Opens.execute _).bind _
      | getPendingRetries => exact (Opens.execute _).bind _
      | getAuditTrail caseId => exact (Opens.execute _).bind _

-----------------------------------------------------------------------------------------
-- What leaves a connection in error
-----------------------------------------------------------------------------------------

/-- The connection after a SELECT. -/
def Session.read (session : Session) : Session := session.after .inTransaction session.found

theorem Session.read_ready (session : Session) : session.read.status ≠ .inError := nofun

/-- The server refuses a statement of an append under the given id: the SELECT of the last
hash, or the INSERT, for its values or since another worker's entry took the id.
-/
def LinkFails (driver : Driver) (entry : AuditEntry) (sequenceId : Nat) (session : Session)
    : Prop :=
  let insert : Statement Unit :=
    .insertAudit ({ entry with sequenceId := some sequenceId }.linked
      (session.found.lastEntryHash entry.caseId))
  Rejected driver (.selectLastHash entry.caseId) session
  ∨ driver.verdict session.found (.selectLastHash entry.caseId) = .accepted
    ∧ (Rejected driver insert session.read ∨ Collides driver insert session.read)

/-- The server refuses a statement of the append. -/
def AppendFails (driver : Driver) (entry : AuditEntry) (session : Session) : Prop :=
  match entry.sequenceId with
  | some sequenceId => LinkFails driver entry sequenceId session
  | none =>
      Rejected driver .selectNextSequence session
      ∨ driver.verdict session.found .selectNextSequence = .accepted
        ∧ LinkFails driver entry session.found.nextSequence session.read

/-- The server refuses a statement of the operation that no rollback follows. -/
def Operation.Wedges (driver : Driver) : Operation → Session → Prop
  | .listCases, session => Rejected driver .selectCases session
  | .call (.createCase case), session => Rejected driver (.insertCase case) session
  | .call (.updateCase case), session => Rejected driver (.updateCase case) session
  | .call (.getCase caseId), session => Rejected driver (.selectCase caseId) session
  | .call (.findCaseByMandate mandateId), session =>
      Rejected driver (.selectCaseByMandate mandateId) session
  | .call (.findCaseByPaymentId paymentId), session =>
      Rejected driver (.selectCaseByPaymentId paymentId) session
  | .call (.getMaxAttemptNumber caseId), session =>
      Rejected driver (.selectMaxAttemptNumber caseId) session
  | .call (.findAttemptByPaymentId paymentId), session =>
      Rejected driver (.selectAttempt paymentId) session
  | .call (.recordFailure event), session =>
      Rejected driver (.insertFailure event) session
      -- the handler of the unique violation reads the attempt once more
      ∨ Collides driver (.insertFailure event) session
        ∧ Rejected driver (.selectAttempt event.paymentId) session.read
  | .call (.getFailure caseId attemptNumber), session =>
      Rejected driver (.selectFailure caseId attemptNumber) session
  | .call (.recordRetryDecision decision), session =>
      Rejected driver (.insertDecision decision) session
  | .call (.updateRetryDecision decision), session =>
      Rejected driver (.updateDecision decision) session
  | .call (.getRetryDecision caseId attemptNumber), session =>
      Rejected driver (.selectDecision caseId attemptNumber) session
  | .call .getPendingRetries, session => Rejected driver .selectPending session
  | .call (.appendAudit entry), session => AppendFails driver entry session
  | .call (.getAuditTrail caseId), session => Rejected driver (.selectTrail caseId) session

/-- The query returns on a connection without error, or raises and leaves it in error exactly
under the condition.
-/
inductive Leaves (query : Query α) (session : Session) (wedged : Prop) : Prop where
  | returned (value : α) (ended : Session) (outcome : query session = (.ok value, ended))
      (ready : ended.status ≠ .inError) (fine : ¬wedged)
  | raised (failure : DbError) (ended : Session)
      (outcome : query session = (.error failure, ended))
      (iff : ended.status = .inError ↔ wedged)

namespace Leaves

variable {session : Session} {wedged : Prop}

/-- What is done with a value after the query does not touch the connection. -/
theorem bind_pure {query : Query α} (leaves : Leaves query session wedged) (change : α → β)
    : Leaves (query >>= fun value => pure (change value)) session wedged := by
  cases leaves with
  | returned value ended outcome ready fine =>
      exact .returned (change value) ended (Attempt.bind_ok outcome) ready fine
  | raised failure ended outcome iff => exact .raised failure ended (Attempt.bind_error outcome) iff

theorem congr {query : Query α} {wedged' : Prop} (leaves : Leaves query session wedged)
    (same : wedged ↔ wedged')
    : Leaves query session wedged' := by
  rw [← propext same]
  exact leaves

/-- What is raised after the query does not touch the connection. -/
theorem bind_raise {query : Query α} (leaves : Leaves query session wedged)
    {next : α → Query β} (raises : ∀ value, ∃ failure, next value = throw failure)
    : Leaves (query >>= next) session wedged := by
  cases leaves with
  | returned value ended outcome ready fine =>
      obtain ⟨failure, raise⟩ := raises value
      refine .raised failure ended ?_
        ⟨fun inError => absurd inError ready, fun wedged => absurd wedged fine⟩
      rw [Attempt.bind_ok outcome, raise]
      rfl
  | raised failure ended outcome iff => exact .raised failure ended (Attempt.bind_error outcome) iff

/-- After a rollback the query starts on an idle connection. -/
theorem rolledBack {query : Query α}
    (leaves : Leaves query { session with status := .idle } wedged)
    : Leaves (rollback >>= fun _ => query) session wedged := by
  have rolled : rollback session = (.ok (), { session with status := .idle }) := rfl
  cases leaves with
  | returned value ended outcome ready fine =>
      exact .returned value ended ((Attempt.bind_ok rolled).trans outcome) ready fine
  | raised failure ended outcome iff =>
      exact .raised failure ended ((Attempt.bind_ok rolled).trans outcome) iff

variable (ready : session.status ≠ .inError)
include ready

/-- A statement that inserts nothing cannot collide. -/
theorem select {statement : Statement α} (reads : statement.inserts = false)
    : Leaves (execute driver statement) session (Rejected driver statement session) := by
  cases executed driver statement ready with
  | returned value tables accepted run fine outcome =>
      exact .returned value _ outcome nofun (fine ∘ .inl)
  | collided collides outcome => exact absurd collides.2 (Statement.run_ne_none reads _)
  | rejected rejected outcome => exact .raised _ _ outcome ⟨fun _ => rejected, fun _ => rfl⟩
  | unadaptable unadaptable fine outcome =>
      exact .raised _ _ outcome ⟨nofun, fun rejected => absurd (.inl rejected) fine⟩

/-- A missing row is reported on a connection without error. -/
theorem fetch {statement : Statement (Option α)} (reads : statement.inserts = false)
    (missing : CaseStoreError)
    : Leaves (RecoveryAgent.fetch driver statement missing) session
        (Rejected driver statement session) := by
  unfold RecoveryAgent.fetch
  cases select ready reads with
  | returned row ended outcome ended_ready fine =>
      cases row with
      | some row => exact .returned row ended (Attempt.bind_ok outcome) ended_ready fine
      | none =>
          exact .raised _ ended (Attempt.bind_ok outcome)
            ⟨fun inError => absurd inError ended_ready, fun wedged => absurd wedged fine⟩
  | raised failure ended outcome iff => exact .raised failure ended (Attempt.bind_error outcome) iff

/-- A write is committed where its statement is carried out. -/
theorem write (statement : Statement Unit)
    : Leaves (RecoveryAgent.write driver statement) session
        (Refuses driver statement session) := by
  unfold RecoveryAgent.write
  cases executed driver statement ready with
  | returned value tables accepted run fine outcome =>
      exact .returned () _ (Attempt.bind_ok outcome) nofun fine
  | collided collides outcome =>
      exact .raised _ _ (Attempt.bind_error outcome) ⟨fun _ => .inr collides, fun _ => rfl⟩
  | rejected rejected outcome =>
      exact .raised _ _ (Attempt.bind_error outcome) ⟨fun _ => .inl rejected, fun _ => rfl⟩
  | unadaptable unadaptable fine outcome =>
      exact .raised _ _ (Attempt.bind_error outcome) ⟨nofun, fun refuses => absurd refuses fine⟩

/-- An UPDATE takes no key. -/
theorem update {statement : Statement Unit} (keeps : statement.inserts = false)
    : Leaves (RecoveryAgent.write driver statement) session
        (Rejected driver statement session) :=
  (write ready statement).congr
    ⟨fun refuses => refuses.resolve_right fun collides =>
      Statement.run_ne_none keeps _ collides.2, .inl⟩

/-- Where the unique violation of a write is caught, what the handler leaves is left. -/
theorem guarded (statement : Statement Unit) {handler : Query Unit} {handled : Prop}
    (leaves : Leaves handler (session.after .inError session.found) handled)
    : Leaves ((RecoveryAgent.write driver statement).rescue (onUniqueViolation handler)) session
        (Rejected driver statement session ∨ Collides driver statement session ∧ handled) := by
  cases executed driver statement ready with
  | returned value tables accepted run fine outcome =>
      refine .returned () _ (Attempt.rescue_ok (Attempt.bind_ok outcome)) nofun ?_
      exact fun wedged => fine (wedged.imp_right And.left)
  | rejected rejected outcome =>
      exact .raised _ _ (Attempt.rescue_error (Attempt.bind_error outcome))
        ⟨fun _ => .inl rejected, fun _ => rfl⟩
  | unadaptable unadaptable fine outcome =>
      refine .raised _ _ (Attempt.rescue_error (Attempt.bind_error outcome)) ⟨nofun, ?_⟩
      exact fun wedged => absurd (wedged.imp_right And.left) fine
  | collided collides outcome =>
      have refused : RecoveryAgent.write driver statement session
          = (.error .uniqueViolation, session.after .inError session.found) :=
        Attempt.bind_error outcome
      have caught
          : (RecoveryAgent.write driver statement).rescue (onUniqueViolation handler) session
            = handler (session.after .inError session.found) :=
        Attempt.rescue_error refused
      have accepted : ¬Rejected driver statement session := by
        rw [Rejected, collides.1]
        nofun
      refine Leaves.congr ?_ (show handled ↔ _ from
        ⟨fun handled => .inr ⟨collides, handled⟩,
          fun wedged => (wedged.resolve_left accepted).2⟩)
      cases leaves with
      | returned value ended outcome ready fine =>
          exact .returned value ended (caught.trans outcome) ready fine
      | raised failure ended outcome iff =>
          exact .raised failure ended (caught.trans outcome) iff

/-- A write whose unique violation is rolled back and reported. -/
theorem reported (statement : Statement Unit) (error : CaseStoreError)
    : Leaves
        ((RecoveryAgent.write driver statement).rescue <| onUniqueViolation do
          rollback
          throw (.refused error))
        session (Rejected driver statement session) := by
  have idle : Leaves (rollback >>= fun _ => (throw (.refused error) : Query Unit))
      (session.after .inError session.found) False :=
    rolledBack (.raised _ _ rfl ⟨nofun, nofun⟩)
  exact (guarded ready statement idle).congr
    ⟨fun wedged => wedged.resolve_right And.right, .inl⟩

/-- The failure of a known payment is looked up once more, on a connection rolled back. -/
theorem recordFailure (event : PaymentFailureEvent)
    : Leaves (PostgresCaseStore.Connected.recordFailure driver event) session
        (Rejected driver (.insertFailure event) session
          ∨ Collides driver (.insertFailure event) session
            ∧ Rejected driver (.selectAttempt event.paymentId) session.read) := by
  have idle : Session.status { session.after .inError session.found with status := .idle }
      ≠ .inError := nofun
  refine guarded ready _ (rolledBack (bind_raise (select idle rfl) fun found => ?_))
  cases found with
  | some attempt => exact ⟨_, rfl⟩
  | none => exact ⟨_, rfl⟩

/-- A SELECT and what follows its answer. -/
theorem read_bind {statement : Statement α} {value : α}
    (run : statement.run session.found = some (value, session.found)) {next : α → Query β}
    (leaves : Leaves (next value) session.read wedged)
    : Leaves (execute driver statement >>= next) session
        (Rejected driver statement session
          ∨ driver.verdict session.found statement = .accepted ∧ wedged) := by
  cases executed driver statement ready with
  | returned value' tables accepted run' fine outcome =>
      cases run.symm.trans run'
      have same : wedged ↔ Rejected driver statement session
          ∨ driver.verdict session.found statement = .accepted ∧ wedged :=
        ⟨fun later => .inr ⟨accepted, later⟩,
          fun either => (either.resolve_left (fine ∘ .inl)).2⟩
      refine Leaves.congr ?_ same
      cases leaves with
      | returned value ended outcome' ready fine =>
          exact .returned value ended ((Attempt.bind_ok outcome).trans outcome') ready fine
      | raised failure ended outcome' iff =>
          exact .raised failure ended ((Attempt.bind_ok outcome).trans outcome') iff
  | collided collides outcome => exact absurd (run.symm.trans collides.2) nofun
  | rejected rejected outcome =>
      exact .raised _ _ (Attempt.bind_error outcome) ⟨fun _ => .inl rejected, fun _ => rfl⟩
  | unadaptable unadaptable fine outcome =>
      refine .raised _ _ (Attempt.bind_error outcome) ⟨nofun, ?_⟩
      rintro (rejected | ⟨accepted, _⟩)
      · exact absurd (.inl rejected) fine
      · rw [unadaptable] at accepted
        cases accepted

/-- An entry is linked and inserted under its id by two statements. -/
theorem linkAudit (entry : AuditEntry) (sequenceId : Nat)
    : Leaves (PostgresCaseStore.Connected.linkAudit driver entry sequenceId) session
        (LinkFails driver entry sequenceId session) :=
  read_bind ready rfl (write session.read_ready _)

/-- An entry without an id is given the next one by a statement before. -/
theorem appendAudit (entry : AuditEntry)
    : Leaves (PostgresCaseStore.Connected.appendAudit driver entry) session
        (AppendFails driver entry session) := by
  unfold PostgresCaseStore.Connected.appendAudit AppendFails
  cases entry.sequenceId with
  | some sequenceId => exact linkAudit ready entry sequenceId
  | none => exact read_bind ready rfl (linkAudit session.read_ready entry _)

end Leaves

/-- An operation leaves the connection in error exactly when the server refuses a statement
of it that no rollback follows.
-/
theorem Operation.leaves (driver : Driver) (operation : Operation) {session : Session}
    (ready : session.status ≠ .inError)
    : Leaves (operation.perform driver) session (operation.Wedges driver session) := by
  cases operation with
  | listCases => exact (Leaves.select ready rfl).bind_pure _
  | call call =>
      cases call with
      | createCase case => exact (Leaves.reported ready _ _).bind_pure _
      | recordFailure event => exact (Leaves.recordFailure ready event).bind_pure _
      | recordRetryDecision decision => exact (Leaves.reported ready _ _).bind_pure _
      | updateCase case => exact (Leaves.update ready rfl).bind_pure _
      | updateRetryDecision decision => exact (Leaves.update ready rfl).bind_pure _
      | getCase caseId => exact (Leaves.fetch ready rfl _).bind_pure _
      | getFailure caseId attemptNumber => exact (Leaves.fetch ready rfl _).bind_pure _
      | getRetryDecision caseId attemptNumber => exact (Leaves.fetch ready rfl _).bind_pure _
      | appendAudit entry => exact (Leaves.appendAudit ready entry).bind_pure _
      | findCaseByMandate mandateId => exact (Leaves.select ready rfl).bind_pure _
      | findCaseByPaymentId paymentId => exact (Leaves.select ready rfl).bind_pure _
      | getMaxAttemptNumber caseId => exact (Leaves.select ready rfl).bind_pure _
      | findAttemptByPaymentId paymentId => exact (Leaves.select ready rfl).bind_pure _
      | getPendingRetries => exact (Leaves.select ready rfl).bind_pure _
      | getAuditTrail caseId => exact (Leaves.select ready rfl).bind_pure _

-----------------------------------------------------------------------------------------
-- The tables without a connection
-----------------------------------------------------------------------------------------

/-- The class of an error that the store raises on its own account. -/
def DbError.refusal : DbError → Option RefusalClass
  | .refused error => some error.refusal
  | .uniqueViolation => some .uniqueViolation
  | _ => none

/-- An answer on the connection is the answer of the tables, and so are the rows it leaves. -/
inductive Answers (outcome : Except DbError Reply × Session)
    : StoreReply × PostgresCaseStore → Prop where
  | returned {reply : StoreReply} {ended : Session} (result : outcome = (.ok (.of reply), ended))
      : Answers outcome (reply, ended.tables)
  | raised {failure : DbError} {ended : Session} {refusal : RefusalClass}
      (result : outcome = (.error failure, ended)) (refused : failure.refusal = some refusal)
      : Answers outcome (.refused refusal, ended.tables)

section Alone

variable {tables tables' : PostgresCaseStore}

theorem execute_permissive (statement : Statement α) (session : Session)
    (ready : session.status ≠ .inError) (alone : session.others = [])
    : execute .permissive statement session
      = match statement.run session.tables with
        | some (value, tables) => (.ok value, { status := .inTransaction, tables })
        | none => (.error .uniqueViolation, { status := .inError, tables := session.tables }) := by
  have found : session.found = session.tables := by
    unfold Session.found
    rw [alone]
  have later (status : TransactionStatus) (tables : PostgresCaseStore)
      : session.after status tables = { status, tables } := by
    unfold Session.after
    rw [alone]
    rfl
  cases executed .permissive statement ready with
  | returned value tables accepted run fine outcome =>
      rw [found] at run
      rw [outcome, run, later]
  | collided collides outcome =>
      have taken := collides.2
      rw [found] at taken
      rw [outcome, taken, later, found]
  | rejected rejected outcome => cases rejected
  | unadaptable unadaptable fine outcome => cases unadaptable

/-- A write, committed. -/
theorem write_permissive (statement : Statement Unit) (session : Session)
    (ready : session.status ≠ .inError) (alone : session.others = [])
    : write .permissive statement session
      = match statement.run session.tables with
        | some (_, tables) => (.ok (), { tables })
        | none => (.error .uniqueViolation, { status := .inError, tables := session.tables }) := by
  have executed := execute_permissive statement session ready alone
  cases run : statement.run session.tables with
  | none =>
      rw [run] at executed
      exact Attempt.bind_error executed
  | some result =>
      rw [run] at executed
      exact Attempt.bind_ok executed

/-- The write of a new key, and the report of a taken one. -/
theorem reported_permissive (statement : Statement Unit) (error : CaseStoreError)
    : ((write .permissive statement).rescue <| onUniqueViolation do
          rollback
          throw (.refused error)) { tables }
      = match statement.run tables with
        | some (_, tables) => (.ok (), { tables })
        | none => (.error (.refused error), { tables }) := by
  have written := write_permissive statement { tables } nofun rfl
  cases run : statement.run tables with
  | none =>
      rw [run] at written
      exact Attempt.rescue_error written
  | some result =>
      rw [run] at written
      exact Attempt.rescue_ok written

/-- A row that is there, or the report that it is not. -/
theorem fetch_permissive {statement : Statement (Option α)} {row : Option α}
    (missing : CaseStoreError)
    : statement.run tables = some (row, tables)
      → fetch .permissive statement missing { tables }
        = match row with
          | some row => (.ok row, { status := .inTransaction, tables })
          | none => (.error (.refused missing), { status := .inTransaction, tables }) := by
  intro run
  have executed := execute_permissive statement { tables } nofun rfl
  rw [run] at executed
  cases row with
  | none => exact Attempt.bind_ok executed
  | some row => exact Attempt.bind_ok executed

open PostgresCaseStore.Connected in
/-- An entry that is linked and inserted by a worker alone. -/
theorem linkAudit_permissive (entry : AuditEntry) (sequenceId : Nat) (session : Session)
    (ready : session.status ≠ .inError) (alone : session.others = [])
    : linkAudit .permissive entry sequenceId session
      = match session.tables.insertAudit ({ entry with sequenceId := some sequenceId }.linked
          (session.tables.lastEntryHash entry.caseId)) with
        | some tables => (.ok (), { tables })
        | none => (.error .uniqueViolation, { status := .inError, tables := session.tables }) := by
  have hash := execute_permissive (.selectLastHash entry.caseId) session ready alone
  have written := write_permissive
    (.insertAudit ({ entry with sequenceId := some sequenceId }.linked
      (session.tables.lastEntryHash entry.caseId)))
    { status := .inTransaction, tables := session.tables } nofun rfl
  refine (Attempt.bind_ok hash).trans (written.trans ?_)
  dsimp only [Statement.run]
  cases session.tables.insertAudit _ with
  | none => rfl
  | some tables => rfl

open PostgresCaseStore.Connected in
/-- An appended entry gets the given id, or the next one. -/
theorem appendAudit_permissive (entry : AuditEntry)
    : appendAudit .permissive entry { tables }
      = match tables.insertAudit
          ({ entry with sequenceId := some (entry.sequenceId.getD tables.nextSequence) }.linked
            (tables.lastEntryHash entry.caseId)) with
        | some tables => (.ok (), { tables })
        | none => (.error .uniqueViolation, { status := .inError, tables }) := by
  unfold appendAudit
  cases entry.sequenceId with
  | some sequenceId => exact linkAudit_permissive entry sequenceId { tables } nofun rfl
  | none =>
      have next := execute_permissive .selectNextSequence { tables } nofun rfl
      exact (Attempt.bind_ok next).trans
        (linkAudit_permissive entry _ { status := .inTransaction, tables } nofun rfl)

/-- How a method ends on the connection that answers as a write of the tables does. -/
def written (tables : PostgresCaseStore)
    : Except CaseStoreError PostgresCaseStore → Except DbError Unit × Session
  | .ok tables => (.ok (), { tables })
  | .error error => (.error (.refused error), { tables })

/-- How a method ends on the connection that answers as a read of the tables does. -/
def looked (tables : PostgresCaseStore) : Except CaseStoreError α → Except DbError α × Session
  | .ok value => (.ok value, { status := .inTransaction, tables })
  | .error error => (.error (.refused error), { status := .inTransaction, tables })

theorem Answers.of_ok {query : Query α} {session : Session} {value : α}
    {found : α → StoreReply} (ended : Session) (outcome : query session = (.ok value, ended))
    : Answers ((query >>= fun value => pure (.of (found value))) session)
        (found value, ended.tables) := by
  have returned : (query >>= fun value => pure (Reply.of (found value))) session
      = (.ok (.of (found value)), ended) := Attempt.bind_ok outcome
  exact .returned returned

theorem Answers.written {query : Query Unit} {result : Except CaseStoreError PostgresCaseStore}
    (outcome : query { tables } = RecoveryAgent.written tables result)
    : Answers ((query >>= fun _ => pure (.of .done)) { tables })
        (StoreReply.written tables result) := by
  cases result with
  | ok tables' => exact .of_ok { tables := tables' } outcome
  | error error => exact .raised (Attempt.bind_error outcome) rfl

theorem Answers.read {query : Query α} {result : Except CaseStoreError α}
    {found : α → StoreReply} (outcome : query { tables } = looked tables result)
    : Answers ((query >>= fun value => pure (.of (found value))) { tables })
        (StoreReply.read found result, tables) := by
  cases result with
  | ok value => exact .of_ok { status := .inTransaction, tables } outcome
  | error error => exact .raised (Attempt.bind_error outcome) rfl

open PostgresCaseStore.Connected in
theorem createCase_permissive (tables : PostgresCaseStore) (case : RecoveryCase)
    : createCase .permissive case { tables }
      = written tables (tables.createCase case) := by
  unfold createCase PostgresCaseStore.createCase
  rw [reported_permissive]
  dsimp only [Statement.run]
  cases tables.recoveryCases.insert? case with
  | none => rfl
  | some recoveryCases => rfl

open PostgresCaseStore.Connected in
theorem recordRetryDecision_permissive (tables : PostgresCaseStore) (decision : RetryDecision)
    : recordRetryDecision .permissive decision { tables }
      = written tables (tables.recordRetryDecision decision) := by
  unfold recordRetryDecision PostgresCaseStore.recordRetryDecision
  rw [reported_permissive]
  dsimp only [Statement.run]
  cases tables.retryDecisions.insert? decision with
  | none => rfl
  | some retryDecisions => rfl

open PostgresCaseStore.Connected in
theorem getCase_permissive (tables : PostgresCaseStore) (caseId : String)
    : getCase .permissive caseId { tables }
      = looked tables (tables.getCase caseId) := by
  unfold getCase PostgresCaseStore.getCase
  rw [fetch_permissive _ rfl]
  cases tables.recoveryCases.find? caseId with
  | none => rfl
  | some case => rfl

open PostgresCaseStore.Connected in
theorem getFailure_permissive (tables : PostgresCaseStore) (caseId : String) (attemptNumber : Nat)
    : getFailure .permissive caseId attemptNumber { tables }
      = looked tables (tables.getFailure caseId attemptNumber) := by
  unfold getFailure PostgresCaseStore.getFailure
  rw [fetch_permissive _ rfl]
  cases tables.paymentFailures.rows.find? _ with
  | none => rfl
  | some event => rfl

open PostgresCaseStore.Connected in
theorem getRetryDecision_permissive (tables : PostgresCaseStore) (caseId : String)
    (attemptNumber : Nat)
    : getRetryDecision .permissive caseId attemptNumber { tables }
      = looked tables (tables.getRetryDecision caseId attemptNumber) := by
  unfold getRetryDecision PostgresCaseStore.getRetryDecision
  rw [fetch_permissive _ rfl]
  cases tables.retryDecisions.find? (caseId, attemptNumber) with
  | none => rfl
  | some decision => rfl

open PostgresCaseStore.Connected in
/-- The known payment of a refused failure is found once more. -/
theorem recordFailure_permissive (tables : PostgresCaseStore) (event : PaymentFailureEvent)
    : ∃ ended : Session,
        ended.tables = tables
        ∧ recordFailure .permissive event { tables }
          = match tables.recordFailure event with
            | .ok tables => (.ok (), { tables })
            | .error error => (.error (.refused error), ended) := by
  have written := write_permissive (.insertFailure event) { tables } nofun rfl
  unfold PostgresCaseStore.recordFailure
  dsimp only [Statement.run] at written
  cases inserted : tables.paymentFailures.insert? (PostgresCaseStore.failureRow event) with
  | some paymentFailures =>
      rw [inserted] at written
      exact ⟨{ tables }, rfl, Attempt.rescue_ok written⟩
  | none =>
      rw [inserted] at written
      obtain ⟨old, known⟩ := Table.insert?_eq_none_iff.mp inserted
      have looked := execute_permissive (.selectAttempt event.paymentId) { tables } nofun rfl
      have found : tables.findAttemptByPaymentId event.paymentId = some old.attempt := by
        unfold PostgresCaseStore.findAttemptByPaymentId
        rw [show tables.paymentFailures.find? event.paymentId = some old from known]
        rfl
      dsimp only [Statement.run] at looked
      rw [found] at looked
      refine ⟨{ status := .inTransaction, tables }, rfl, ?_⟩
      have rolled : rollback { status := .inError, tables } = (.ok (), { tables }) := rfl
      refine (Attempt.rescue_error written).trans ?_
      exact (Attempt.bind_ok rolled).trans (Attempt.bind_ok looked)

open PostgresCaseStore.Connected in
/-- A worker alone, whose statements are all carried out, gets from the connection what the
tables answer.
-/
theorem answers_alone (call : StoreCall)
    : Answers ((Operation.call call).perform .permissive { tables }) (tables.perform call) := by
  cases call with
  | createCase case => exact .written (createCase_permissive tables case)
  | recordRetryDecision decision => exact .written (recordRetryDecision_permissive tables decision)
  | getCase caseId => exact .read (getCase_permissive tables caseId)
  | getFailure caseId attemptNumber =>
      exact .read (getFailure_permissive tables caseId attemptNumber)
  | getRetryDecision caseId attemptNumber =>
      exact .read (getRetryDecision_permissive tables caseId attemptNumber)
  | updateCase case => exact .returned rfl
  | updateRetryDecision decision => exact .returned rfl
  | findCaseByMandate mandateId => exact .returned rfl
  | findCaseByPaymentId paymentId => exact .returned rfl
  | getMaxAttemptNumber caseId => exact .returned rfl
  | findAttemptByPaymentId paymentId => exact .returned rfl
  | getPendingRetries => exact .returned rfl
  | getAuditTrail caseId => exact .returned rfl
  | recordFailure event =>
      obtain ⟨ended, rfl, outcome⟩ := recordFailure_permissive tables event
      change Answers _ (StoreReply.written _ (PostgresCaseStore.recordFailure _ event))
      cases result : ended.tables.recordFailure event with
      | ok tables =>
          rw [result] at outcome
          exact .of_ok { tables } outcome
      | error error =>
          rw [result] at outcome
          exact .raised (Attempt.bind_error outcome) rfl
  | appendAudit entry =>
      have outcome : appendAudit .permissive entry { tables }
          = match tables.appendAudit entry with
            | some tables => (.ok (), { tables })
            | none => (.error .uniqueViolation, { status := .inError, tables }) :=
        appendAudit_permissive entry
      unfold PostgresCaseStore.perform
      dsimp only
      cases appended : tables.appendAudit entry with
      | none =>
          rw [appended] at outcome
          exact .raised (Attempt.bind_error outcome) rfl
      | some tables' =>
          rw [appended] at outcome
          exact .of_ok { tables := tables' } outcome

end Alone

-----------------------------------------------------------------------------------------
-- Sequences of operations
-----------------------------------------------------------------------------------------

/-- One operation of the worker, and what the others commit before each of its statements. -/
structure Turn where
  operation : Operation
  others : List (PostgresCaseStore → PostgresCaseStore) := []

namespace Session

variable (driver : Driver)

/-- The operation of a turn on the connection. -/
def take (session : Session) (turn : Turn) : Except DbError Reply × Session :=
  turn.operation.perform driver { session with others := turn.others }

def step (session : Session) (turn : Turn) : Session := (session.take driver turn).2

def Raises (session : Session) (turn : Turn) : Prop :=
  ∃ failure, (session.take driver turn).1 = .error failure

/-- A fresh connection to the same tables. -/
def reconnected (session : Session) : Session := { session with status := .idle }

/-- The next valid operation behaves as on a fresh connection. -/
def Usable (session : Session) : Prop :=
  ∀ next : Turn, ¬session.reconnected.Raises driver next
    → (session.take driver next).1 = (session.reconnected.take driver next).1
      ∧ (session.step driver next).tables = (session.reconnected.step driver next).tables

/-- The server refuses a statement of the turn that no rollback follows. -/
def Wedges (session : Session) (turn : Turn) : Prop :=
  turn.operation.Wedges driver { session with others := turn.others }

variable {driver} {session : Session} {tables : PostgresCaseStore}

/-- A SELECT of a table is carried out on a fresh connection. -/
theorem take_getPendingRetries (driver : Driver) (session : Session) (idle : session.status = .idle)
    : (session.take driver { operation := .call .getPendingRetries }).1
      = .ok (.of (.decisions session.tables.getPendingRetries)) := by
  have carried : execute driver .selectPending { session with others := [] }
      = (.ok session.tables.getPendingRetries, ⟨.inTransaction, session.tables, []⟩) := by
    unfold execute
    rw [driver.plain, idle]
    rfl
  exact congrArg Prod.fst (Attempt.bind_ok carried)

/-- A connection is usable unless its transaction is in error. -/
theorem usable_iff : session.Usable driver ↔ session.status ≠ .inError := by
  constructor
  · intro usable inError
    have carried := take_getPendingRetries driver session.reconnected rfl
    have valid : ¬session.reconnected.Raises driver { operation := .call .getPendingRetries } := by
      rintro ⟨failure, raised⟩
      rw [carried] at raised
      cases raised
    have same := (usable _ valid).1
    obtain ⟨failure, ended, raised, -, -⟩ :=
      (Operation.opens driver (.call .getPendingRetries)).stuck { session with others := [] }
        inError
    rw [carried, take, raised] at same
    cases same
  · intro ready next _
    have blind := (next.operation.opens driver).blind { session with others := next.others } ready
    exact ⟨congrArg Prod.fst blind, congrArg (fun outcome => outcome.2.tables) blind⟩

/-- On a connection without error a turn leaves it usable where it raises exactly when no
statement wedges it, and then the connection is without error again.
-/
theorem step_spec (driver : Driver) (ready : session.status ≠ .inError) (turn : Turn)
    : ((session.Raises driver turn → (session.step driver turn).Usable driver)
        ↔ ¬session.Wedges driver turn)
      ∧ (¬session.Wedges driver turn → (session.step driver turn).status ≠ .inError) := by
  rw [usable_iff]
  unfold Raises step take
  cases turn.operation.leaves driver
    (show Session.status { session with others := turn.others } ≠ .inError from ready) with
  | returned value ended outcome ended_ready fine =>
      rw [outcome]
      exact ⟨⟨fun _ => fine, fun _ _ => ended_ready⟩, fun _ => ended_ready⟩
  | raised failure ended outcome iff =>
      rw [outcome]
      exact ⟨⟨fun usable wedges => usable ⟨failure, rfl⟩ (iff.mpr wedges),
        fun fine _ inError => fine (iff.mp inError)⟩, fun fine inError => fine (iff.mp inError)⟩

/-- Along every sequence of operations of a worker, with whatever the others commit between
its statements, an operation that raises leaves the connection usable, exactly when along the
sequence no statement is refused that no rollback follows.
-/
theorem usable_along_iff (driver : Driver) (tables : PostgresCaseStore) (turns : List Turn)
    : Run.Along (step driver) { tables } turns
        (fun session turn =>
          session.Raises driver turn → (session.step driver turn).Usable driver)
      ↔ Run.Along (step driver) { tables } turns fun session turn =>
          ¬session.Wedges driver turn := by
  suffices same : ∀ session : Session, session.status ≠ .inError →
      (Run.Along (step driver) session turns
          (fun session turn =>
            session.Raises driver turn → (session.step driver turn).Usable driver)
        ↔ Run.Along (step driver) session turns fun session turn =>
            ¬session.Wedges driver turn) from
    same _ nofun
  induction turns with
  | nil => exact fun _ _ => ⟨fun _ => Run.along_nil, fun _ => Run.along_nil⟩
  | cons turn rest ih =>
      intro session ready
      obtain ⟨first, kept⟩ := step_spec driver ready turn
      rw [Run.along_cons, Run.along_cons, first]
      exact and_congr_right fun fine => ih _ (kept fine)

/-- An append, while another worker appends its own entry after this one has read the next id
and before it inserts.
-/
def raced (entry other : AuditEntry) : Turn where
  operation := .call (.appendAudit entry)
  others := [id, id, fun tables => tables.appendAccepted other]

/-- The append that inserts second meets its id taken. -/
theorem raced_wedges {ledger : Ledger} (holds : tables.Holds ledger) {entry other : AuditEntry}
    (unnumbered : entry.sequenceId = none) (unnumbered' : other.sequenceId = none)
    : Wedges .permissive { tables } (raced entry other) := by
  have advanced : (tables.appendAccepted other).Holds (ledger.append other) := by
    obtain ⟨tables', appended, holds'⟩ := holds.appendAudit unnumbered'
    rw [PostgresCaseStore.appendAccepted, appended]
    exact holds'
  have taken : (tables.appendAccepted other).insertAudit
      ({ entry with sequenceId := some tables.nextSequence }.linked
        (tables.lastEntryHash entry.caseId)) = none := by
    refine advanced.insertAudit_taken rfl ?_ ?_
    · exact Nat.le_add_left _ _
    · rw [holds.nextSequence, Ledger.append_entries, List.length_append]
      rfl
  have collides : Collides .permissive
      (.insertAudit ({ entry with sequenceId := some tables.nextSequence }.linked
        (tables.lastEntryHash entry.caseId)))
      ({ tables, others := (raced entry other).others } : Session).read.read :=
    ⟨rfl, Option.map_eq_none_iff.mpr taken⟩
  unfold Wedges Operation.Wedges AppendFails
  dsimp only [raced]
  rw [unnumbered]
  exact .inr ⟨rfl, .inr ⟨rfl, .inr collides⟩⟩

/-- An operation that raises can leave the connection unusable. Witness: an append whose
sequence id another worker takes, after which the pending retries cannot be read.
-/
theorem not_usable_along
    : ¬∀ (driver : Driver) (tables : PostgresCaseStore) (turns : List Turn),
        Run.Along (step driver) { tables } turns fun session turn =>
          session.Raises driver turn → (session.step driver turn).Usable driver := by
  intro claimed
  have usable := claimed .permissive {} [raced createdEntry createdEntry] []
    (raced createdEntry createdEntry) [] rfl
  have wedges := raced_wedges PostgresCaseStore.holds_empty
    (show createdEntry.sequenceId = none from rfl) (show createdEntry.sequenceId = none from rfl)
  have ready : Session.status {} ≠ .inError := nofun
  exact (step_spec .permissive ready _).1.mp usable wedges

end Session

end RecoveryAgent
