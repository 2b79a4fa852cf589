import RecoveryAgent.Lib.Rows
import RecoveryAgent.Store.Documents

/-! The columns of the Postgres case store (`app/core/postgres_case_store.py`).
Every record is written by named columns and read back by position, through the types the columns
are declared with.
-/

namespace RecoveryAgent

-----------------------------------------------------------------------------------------
-- Cells
-----------------------------------------------------------------------------------------

/-- A value of type TEXT. -/
structure PgText where
  value : String
  clean : Clean value
  deriving DecidableEq

/-- The text as a column holds it. -/
def PgText.of? (text : String) : Option PgText :=
  if clean : Clean text then some ⟨text, clean⟩ else none

/-- A number that an INTEGER column holds. -/
def FitsInteger (n : Int) : Prop := -2147483648 ≤ n ∧ n ≤ 2147483647

instance (n : Int) : Decidable (FitsInteger n) := inferInstanceAs (Decidable (_ ∧ _))

/-- A value of type INTEGER, or of type SERIAL, which is one with a default. -/
structure PgInteger where
  value : Int
  fits : FitsInteger value
  deriving DecidableEq

def PgInteger.of? (n : Int) : Option PgInteger :=
  if fits : FitsInteger n then some ⟨n, fits⟩ else none

/-- What a column holds. -/
inductive Cell where
  | null
  | text (text : PgText)
  | integer (n : PgInteger)
  | timestamptz (t : Datetime)
  | jsonb (document : Json)

/-- The declared types. -/
inductive ColumnType where
  | text | integer | serial | timestamptz | jsonb
  deriving DecidableEq

/-- A parameter of a statement: a value, an instant, or a document that `json.dumps` wrote. -/
inductive Param where
  | value (value : Json)
  | datetime (t : Datetime)
  | dumped (document : Json)

namespace Param

def text (given : String) : Param := .value (.str given)

def integer (n : Int) : Param := .value (.int n)

/-- None, or a parameter. -/
def optional {α : Type} (param : α → Param) : Option α → Param
  | none => .value .null
  | some given => param given

end Param

/-- What the database and its driver do beyond the columns' bounds. A value that is no text is
spelled out in a TEXT column, in a way left open. A document comes back from JSONB as the column
keeps it, unless it is refused.
-/
structure Database where
  spelled : Json → Option PgText
  jsonb : Json → Option Json
  jsonb_equal
    : ∀ document : Json,
        document.storable = true
        → ∃ read, jsonb document = some read ∧ read.Equal document.inJsonb
  jsonb_refused : ∀ document : Json, document.storable = false → jsonb document = none

/-- How a parameter is stored in a column; none is a refusal. -/
def Database.store (database : Database) : ColumnType → Param → Option Cell
  | _, .value .null => some .null
  | .text, .value (.str text) => (PgText.of? text).map .text
  | .text, .value other => (database.spelled other).map .text
  | .integer, .value (.int n) => (PgInteger.of? n).map .integer
  | .serial, .value (.int n) => (PgInteger.of? n).map .integer
  | .timestamptz, .datetime t => some (.timestamptz t)
  | .jsonb, .dumped document => (database.jsonb document).map .jsonb
  -- no statement of the store gives these to a column
  | _, _ => none

def Database.dialect (database : Database) : Dialect ColumnType Param Cell where
  store := database.store
  null := .null

namespace Cell

/-- The Python value of a cell, where it has the given type. -/
def text? : Cell → Option String
  | .text held => some held.value
  | _ => none

def integer? : Cell → Option Int
  | .integer n => some n.value
  | _ => none

def timestamp? : Cell → Option Datetime
  | .timestamptz t => some t
  | _ => none

/-- NULL is None. -/
def optional? {α : Type} (read : Cell → Option α) : Cell → Option (Option α)
  | .null => some none
  | cell => (read cell).map some

/-- A code comes back as text or as None. -/
def code? : Cell → Option Json
  | .null => some .null
  | .text held => some (.str held.value)
  | _ => none

/-- `row[12] if row[12] else None`, where the column holds dictionaries. -/
def notes? : Cell → Option (Option Notes)
  | .null => some none
  | .jsonb (.obj fields) => some (if fields.isEmpty then none else some fields)
  | _ => none

/-- A count, which is never negative. -/
def nat? (cell : Cell) : Option Nat := do
  let n ← cell.integer?
  if 0 ≤ n then some n.toNat else none

end Cell

-----------------------------------------------------------------------------------------
-- Spellings
-----------------------------------------------------------------------------------------

/-- An enumeration whose members the records spell as text. -/
class Spelled (α : Type) where
  spell : α → String
  read : String → Option α
  clean : ∀ value, Clean (spell value)
  read_spell : ∀ value, read (spell value) = some value

instance : Spelled CaseState where
  spell := CaseState.name
  read text := [
    CaseState.received, .classified, .treatment, .controlHeld, .controlRecovered,
    .controlStillFailed, .noticePending, .noticeSent, .retryScheduled, .throttled,
    .retryExecuted, .retryEval, .recovered, .recoveredNaturally, .afaRequired, .escalated,
    .resolvedByHuman].find? (·.name = text)
  clean state := by cases state <;> decide
  read_spell state := by cases state <;> decide

instance : Spelled Bucket where
  spell
    | .treatment => "treatment"
    | .control => "control"
  read
    | "treatment" => some .treatment
    | "control" => some .control
    | _ => none
  clean bucket := by cases bucket <;> decide
  read_spell bucket := by cases bucket <;> rfl

instance : Spelled DeclineClass where
  spell
    | .technical => "technical"
    | .business => "business"
    | .unclassified => "unclassified"
  read
    | "technical" => some .technical
    | "business" => some .business
    | "unclassified" => some .unclassified
    | _ => none
  clean declineClass := by cases declineClass <;> decide
  read_spell declineClass := by cases declineClass <;> rfl

instance : Spelled ControlOutcome where
  spell
    | .recoveredNaturally => "recovered_naturally"
    | .stillFailed => "still_failed"
    | .unknown => "unknown"
  read
    | "recovered_naturally" => some .recoveredNaturally
    | "still_failed" => some .stillFailed
    | "unknown" => some .unknown
    | _ => none
  clean outcome := by cases outcome <;> decide
  read_spell outcome := by cases outcome <;> rfl

instance : Spelled ResolutionNote where
  spell
    | .writtenOff => "written_off"
    | .recoveredManually => "recovered_manually"
  read
    | "written_off" => some .writtenOff
    | "recovered_manually" => some .recoveredManually
    | _ => none
  clean note := by cases note <;> decide
  read_spell note := by cases note <;> rfl

instance : Spelled CommitBackendName where
  spell
    | .etcd => "etcd"
    | .postgresOutbox => "postgres_outbox"
  read
    | "etcd" => some .etcd
    | "postgres_outbox" => some .postgresOutbox
    | _ => none
  clean backend := by cases backend <;> decide
  read_spell backend := by cases backend <;> rfl

instance : Spelled RetryOutcome where
  spell
    | .pending => "pending"
    | .recovered => "recovered"
    | .failed => "failed"
  read
    | "pending" => some .pending
    | "recovered" => some .recovered
    | "failed" => some .failed
    | _ => none
  clean outcome := by cases outcome <;> decide
  read_spell outcome := by cases outcome <;> rfl

instance : Spelled Actor where
  spell := Actor.name
  read
    | "agent" => some .agent
    | "human" => some .human
    | _ => none
  clean actor := by cases actor <;> decide
  read_spell actor := by cases actor <;> rfl

section Spelling

variable {α : Type} [Spelled α]

def Param.spelled (value : α) : Param := .text (Spelled.spell value)

def Cell.spelled? (cell : Cell) : Option α := cell.text?.bind Spelled.read

end Spelling

namespace Schema

/-- The columns of `recovery_cases`, its primary key first. -/
def recoveryCases : List (Column ColumnType) := [
  ⟨"case_id", .text⟩, ⟨"mandate_id", .text⟩, ⟨"instrument_id", .text⟩,
  ⟨"original_amount", .integer⟩, ⟨"opened_at", .timestamptz⟩, ⟨"retries_used", .integer⟩,
  ⟨"state", .text⟩, ⟨"bucket", .text⟩, ⟨"control_outcome", .text⟩,
  ⟨"control_observation_deadline", .timestamptz⟩, ⟨"resolution_note", .text⟩]

/-- The columns of `payment_failures`, whose primary key is the payment. -/
def paymentFailures : List (Column ColumnType) := [
  ⟨"case_id", .text⟩, ⟨"attempt_number", .integer⟩, ⟨"payment_id", .text⟩,
  ⟨"reason_code", .text⟩, ⟨"decline_class", .text⟩, ⟨"amount", .integer⟩,
  ⟨"received_at", .timestamptz⟩, ⟨"mandate_id", .text⟩, ⟨"instrument_id", .text⟩,
  ⟨"error_reason", .text⟩, ⟨"error_source", .text⟩, ⟨"error_step", .text⟩, ⟨"notes", .jsonb⟩]

/-- The columns of `retry_decisions`, its primary key of two columns first. -/
def retryDecisions : List (Column ColumnType) := [
  ⟨"case_id", .text⟩, ⟨"attempt_number", .integer⟩, ⟨"scheduled_at", .timestamptz⟩,
  ⟨"reasoning", .text⟩, ⟨"commit_backend", .text⟩, ⟨"commit_ref", .text⟩,
  ⟨"executed_at", .timestamptz⟩, ⟨"outcome", .text⟩]

/-- The columns of `audit_entries`, its primary key first. -/
def auditEntries : List (Column ColumnType) := [
  ⟨"sequence_id", .serial⟩, ⟨"case_id", .text⟩, ⟨"from_state", .text⟩, ⟨"to_state", .text⟩,
  ⟨"rule_fired", .text⟩, ⟨"rule_version", .integer⟩, ⟨"timestamp", .timestamptz⟩,
  ⟨"actor", .text⟩, ⟨"scheduled_at", .timestamptz⟩, ⟨"prev_hash", .text⟩, ⟨"entry_hash", .text⟩]

end Schema

-----------------------------------------------------------------------------------------
-- What the statements write
-----------------------------------------------------------------------------------------

/-- The column names of the INSERT of `create_case`, and its parameters. -/
def RecoveryCase.insertNames : List String := [
  "case_id", "mandate_id", "instrument_id", "original_amount", "opened_at", "retries_used",
  "state", "bucket", "control_outcome", "control_observation_deadline", "resolution_note"]

/-- The names of the UPDATE of `update_case`. -/
def RecoveryCase.updateNames : List String := [
  "mandate_id", "instrument_id", "original_amount", "opened_at", "retries_used", "state",
  "bucket", "control_outcome", "control_observation_deadline", "resolution_note"]

def RecoveryCase.updateValues (case : RecoveryCase) : List Param := [
  .text case.mandateId, .text case.instrumentId, .integer case.originalAmount,
  .datetime case.openedAt, .integer case.retriesUsed, .spelled case.state,
  .optional .spelled case.bucket, .optional .spelled case.controlOutcome,
  .optional .datetime case.controlObservationDeadline, .optional .spelled case.resolutionNote]

def RecoveryCase.insertValues (case : RecoveryCase) : List Param :=
  .text case.caseId :: case.updateValues

/-- The names of the INSERT of `record_failure`. -/
def PaymentFailureEvent.insertNames : List String := [
  "case_id", "attempt_number", "payment_id", "reason_code", "decline_class", "amount",
  "received_at", "mandate_id", "instrument_id", "error_reason", "error_source", "error_step",
  "notes"]

/-- `json.dumps(event.notes) if event.notes else None`. -/
def Param.notes : Option Notes → Param
  | none => .value .null
  | some [] => .value .null
  | some (field :: fields) => .dumped (.obj (field :: fields))

def PaymentFailureEvent.valuesUnder (event : PaymentFailureEvent) (payment mandate : Param)
    : List Param := [
  .text event.caseId, .integer event.attemptNumber, payment,
  .value event.reasonCode, .spelled event.declineClass, .integer event.amount,
  .datetime event.receivedAt, mandate, .text event.instrumentId,
  .value event.errorReason, .value event.errorSource, .value event.errorStep,
  .notes event.notes]

def PaymentFailureEvent.insertValues (event : PaymentFailureEvent) : List Param :=
  event.valuesUnder (.text event.paymentId) (.optional .text event.mandateId)

/-- A failure as the parser hands it on: its payment and its mandate are whatever values the
payload had for them, in place of those of the event.
-/
structure SentFailure where
  event : PaymentFailureEvent
  payment : Json
  mandate : Json

/-- A failure whose identifiers are text. -/
def PaymentFailureEvent.sent (event : PaymentFailureEvent) : SentFailure :=
  ⟨event, .str event.paymentId, (event.mandateId.map Json.str).getD .null⟩

namespace SentFailure

def insertValues (failure : SentFailure) : List Param :=
  failure.event.valuesUnder (.value failure.payment) (.value failure.mandate)

/-- The failure is the event: its payment is text, and its mandate text or None. -/
structure Is (failure : SentFailure) (event : PaymentFailureEvent) : Prop where
  payment : failure.payment = .str event.paymentId
  mandate : failure.mandate = (event.mandateId.map Json.str).getD .null
  rest
    : event = {
        failure.event with
        paymentId := event.paymentId
        mandateId := event.mandateId
        paymentId_ne := event.paymentId_ne }

theorem Is.of_sent (event : PaymentFailureEvent) : event.sent.Is event := ⟨rfl, rfl, rfl⟩

theorem Is.insertValues {failure : SentFailure} {event : PaymentFailureEvent}
    (same : failure.Is event)
    : failure.insertValues = event.insertValues := by
  obtain ⟨payment, mandate, rest⟩ := same
  unfold SentFailure.insertValues PaymentFailureEvent.insertValues
  rw [payment, mandate]
  cases given : event.mandateId <;> rw [rest] <;> rfl

end SentFailure

/-- The names of the INSERT of `record_retry_decision`. -/
def RetryDecision.insertNames : List String := [
  "case_id", "attempt_number", "scheduled_at", "reasoning", "commit_backend", "commit_ref",
  "executed_at", "outcome"]

/-- The names of the UPDATE of `update_retry_decision`. -/
def RetryDecision.updateNames : List String := [
  "scheduled_at", "reasoning", "commit_backend", "commit_ref", "executed_at", "outcome"]

def RetryDecision.updateValues (decision : RetryDecision) : List Param := [
  .datetime decision.scheduledAt, .text decision.reasoning, .spelled decision.commitBackend,
  .text decision.commitRef, .optional .datetime decision.executedAt, .spelled decision.outcome]

def RetryDecision.insertValues (decision : RetryDecision) : List Param :=
  .text decision.caseId :: .integer decision.attemptNumber :: decision.updateValues

/-- The names of the INSERT of `append_audit`. -/
def AuditEntry.insertNames : List String := [
  "sequence_id", "case_id", "from_state", "to_state", "rule_fired", "rule_version",
  "timestamp", "actor", "scheduled_at", "prev_hash", "entry_hash"]

def AuditEntry.insertValues (entry : AuditEntry) : List Param := [
  .optional (fun n : Nat => .integer n) entry.sequenceId, .text entry.caseId,
  .spelled entry.fromState, .spelled entry.toState, .text entry.ruleFired,
  .integer entry.ruleVersion, .datetime entry.timestamp, .spelled entry.actor,
  .optional .datetime entry.scheduledAt, .optional .text entry.prevHash,
  .optional .text entry.entryHash]

-----------------------------------------------------------------------------------------
-- What the row mappers read
-----------------------------------------------------------------------------------------

/-- A row of a `SELECT *`. -/
abbrev Row := List Cell

/-- `_row_to_case`: the cells by position, and the checks of the constructor. -/
def rowToCase : Row → Option RecoveryCase
  | [caseId, mandateId, instrumentId, originalAmount, openedAt, retriesUsed, state, bucket,
      controlOutcome, controlObservationDeadline, resolutionNote] => do
    let case ← (RecoveryCase.create (← caseId.text?) (← mandateId.text?)
      (← instrumentId.text?) (← originalAmount.integer?) (← openedAt.timestamp?)).toOption
    return {
      case with
      retriesUsed := ← retriesUsed.nat?
      state := ← state.spelled?
      bucket := ← bucket.optional? Cell.spelled?
      controlOutcome := ← controlOutcome.optional? Cell.spelled?
      controlObservationDeadline := ← controlObservationDeadline.optional? Cell.timestamp?
      resolutionNote := ← resolutionNote.optional? Cell.spelled?
    }
  | _ => none

/-- `_row_to_failure`. -/
def rowToFailure : Row → Option PaymentFailureEvent
  | [caseId, attemptNumber, paymentId, reasonCode, declineClass, amount, receivedAt, mandateId,
      instrumentId, errorReason, errorSource, errorStep, notes] => do
    let attemptNumber ← attemptNumber.nat?
    let amount ← amount.integer?
    let paymentId ← paymentId.text?
    let caseId ← caseId.text?
    if legal : 1 ≤ attemptNumber ∧ 0 < amount ∧ paymentId ≠ "" ∧ caseId ≠ "" then
      return {
        caseId, attemptNumber, paymentId, amount
        reasonCode := ← reasonCode.code?
        declineClass := ← declineClass.spelled?
        receivedAt := ← receivedAt.timestamp?
        mandateId := ← mandateId.optional? Cell.text?
        instrumentId := ← instrumentId.text?
        errorReason := ← errorReason.code?
        errorSource := ← errorSource.code?
        errorStep := ← errorStep.code?
        notes := ← notes.notes?
        attemptNumber_pos := legal.1
        amount_pos := legal.2.1
        paymentId_ne := legal.2.2.1
        caseId_ne := legal.2.2.2
      }
    else none
  | _ => none

/-- `_row_to_decision`. -/
def rowToDecision : Row → Option RetryDecision
  | [caseId, attemptNumber, scheduledAt, reasoning, commitBackend, commitRef, executedAt,
      outcome] => do
    let decision ← (RetryDecision.create (← caseId.text?) (← attemptNumber.nat?)
      (← scheduledAt.timestamp?) (← reasoning.text?) (← commitBackend.spelled?)
      (← commitRef.text?)).toOption
    return {
      decision with
      executedAt := ← executedAt.optional? Cell.timestamp?
      outcome := ← outcome.spelled?
    }
  | _ => none

/-- `_row_to_audit`. -/
def rowToAudit : Row → Option AuditEntry
  | [sequenceId, caseId, fromState, toState, ruleFired, ruleVersion, timestamp, actor,
      scheduledAt, prevHash, entryHash] => do
    let ruleFired ← ruleFired.text?
    let ruleVersion ← ruleVersion.nat?
    if legal : ruleFired ≠ "" ∧ 1 ≤ ruleVersion then
      return {
        ruleFired, ruleVersion
        sequenceId := ← sequenceId.optional? Cell.nat?
        caseId := ← caseId.text?
        fromState := ← fromState.spelled?
        toState := ← toState.spelled?
        timestamp := ← timestamp.timestamp?
        actor := ← actor.spelled?
        scheduledAt := ← scheduledAt.optional? Cell.timestamp?
        prevHash := ← prevHash.optional? Cell.text?
        entryHash := ← entryHash.optional? Cell.text?
        ruleFired_ne := legal.1
        ruleVersion_pos := legal.2
      }
    else none
  | _ => none

-----------------------------------------------------------------------------------------
-- What fits the columns
-----------------------------------------------------------------------------------------

/-- A code that a TEXT column holds as it is. -/
def Json.FitsText : Json → Prop
  | .null => True
  | .str text => Clean text
  | _ => False

structure RecoveryCase.FitsColumns (case : RecoveryCase) : Prop where
  caseId : Clean case.caseId
  mandateId : Clean case.mandateId
  instrumentId : Clean case.instrumentId
  originalAmount : FitsInteger case.originalAmount
  retriesUsed : FitsInteger case.retriesUsed

structure PaymentFailureEvent.FitsColumns (event : PaymentFailureEvent) : Prop where
  caseId : Clean event.caseId
  attemptNumber : FitsInteger event.attemptNumber
  paymentId : Clean event.paymentId
  reasonCode : event.reasonCode.FitsText
  amount : FitsInteger event.amount
  mandateId : ∀ mandateId, event.mandateId = some mandateId → Clean mandateId
  instrumentId : Clean event.instrumentId
  errorReason : event.errorReason.FitsText
  errorSource : event.errorSource.FitsText
  errorStep : event.errorStep.FitsText
  notes : ∀ notes, event.notes = some notes → (Json.obj notes).storable = true

structure RetryDecision.FitsColumns (decision : RetryDecision) : Prop where
  caseId : Clean decision.caseId
  attemptNumber : FitsInteger decision.attemptNumber
  reasoning : Clean decision.reasoning
  commitRef : Clean decision.commitRef

/-- What an entry brings along fits; the store adds the hashes. -/
structure AuditEntry.FitsColumns (entry : AuditEntry) : Prop where
  caseId : Clean entry.caseId
  ruleFired : Clean entry.ruleFired
  ruleVersion : FitsInteger entry.ruleVersion

end RecoveryAgent
