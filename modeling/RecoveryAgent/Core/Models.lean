import RecoveryAgent.Core.Time

/-! The shared data models (`app/models.py`).
What `__post_init__` refuses is a field of the record here, so a value that fails its
validation cannot be built; the `create` functions are the validating constructors.
-/

namespace RecoveryAgent

-----------------------------------------------------------------------------------------
-- Python values and exceptions
-----------------------------------------------------------------------------------------

/-- A float: the rational it denotes, an infinity, or not a number. -/
inductive PyFloat where
  | finite (value : Rat)
  | infinite (negative : Bool)
  | nan
  deriving DecidableEq

/-- A decoded JSON value. -/
inductive Json where
  | null
  | bool (value : Bool)
  | int (value : Int)
  | float (value : PyFloat)
  | str (value : String)
  | arr (items : List Json)
  | obj (fields : List (String × Json))

/-- Python's truth value. -/
def Json.truthy : Json → Bool
  | .null => false
  | .bool value => value
  | .int value => value != 0
  | .float value => value != .finite 0
  | .str value => value != ""
  | .arr items => !items.isEmpty
  | .obj fields => !fields.isEmpty

/-- The exceptions of the language and its library that the service can meet. -/
inductive PyError where
  | valueError (message : String)
  /-- A message around the `repr` of a value. -/
  | valueErrorOf (before : String) (value : Option String) (after : String)
  | keyError (key : String)
  | indexError
  | typeError
  | attributeError
  | assertionError (message : String)
  | nameError (name : String)
  | runtimeError (message : String)
  | overflowError
  | osError
  | dataError
  deriving DecidableEq, Repr

/-- `t + delta` of a datetime and a timedelta. -/
def plus (t : Datetime) (delta : Timedelta) : Except PyError Datetime :=
  if Reaches t delta then .ok (t + delta) else .error .overflowError

theorem plus_eq_ok {t t' : Datetime} {delta : Timedelta}
    : plus t delta = .ok t' ↔ Reaches t delta ∧ t' = t + delta := by
  unfold plus
  split
  · next reaches => simp [reaches, eq_comm]
  · next passed => simp [passed]

theorem plus_ok {t : Datetime} {delta : Timedelta} (reaches : Reaches t delta)
    : plus t delta = .ok (t + delta) :=
  plus_eq_ok.mpr ⟨reaches, rfl⟩

-----------------------------------------------------------------------------------------
-- Validated values
-----------------------------------------------------------------------------------------

-- Proofs that records hold as fields. Each is a constant applied to constants, which a
-- definition keeps as it is written.

/-- A text that evaluates to another than the empty one. -/
theorem ne_empty (text : String) (filled : if text = "" then False else True) : text ≠ "" :=
  fun empty => by rwa [if_pos empty] at filled

theorem amount_pos_of_checked {amount : Int} (checked : ¬ amount ≤ 0) : 0 < amount :=
  not_le.mp checked

theorem attempt_pos_of_checked {attempt : Nat} (checked : ¬ attempt < 1) : 1 ≤ attempt :=
  not_lt.mp checked

/-- The version of a rule that has not changed. -/
theorem firstVersion_pos : 1 ≤ 1 := le_rfl

/-- The version of the rules of the state machine. -/
theorem secondVersion_pos : 1 ≤ 2 := by decide

/-- ₹500, in paise. -/
theorem fiveHundredRupees_pos : (0 : Int) < 50000 := by decide

-----------------------------------------------------------------------------------------
-- Enumerations
-----------------------------------------------------------------------------------------

/-- The states named by cases and audit entries. -/
inductive CaseState where
  | received | classified | treatment
  | controlHeld | controlRecovered | controlStillFailed
  | noticePending | noticeSent | retryScheduled | throttled | retryExecuted | retryEval
  | recovered | recoveredNaturally | afaRequired | escalated | resolvedByHuman
  deriving DecidableEq, Repr

/-- The state as the records spell it. -/
def CaseState.name : CaseState → String
  | .received => "RECEIVED"
  | .classified => "CLASSIFIED"
  | .treatment => "TREATMENT"
  | .controlHeld => "CONTROL_HELD"
  | .controlRecovered => "CONTROL_RECOVERED"
  | .controlStillFailed => "CONTROL_STILL_FAILED"
  | .noticePending => "NOTICE_PENDING"
  | .noticeSent => "NOTICE_SENT"
  | .retryScheduled => "RETRY_SCHEDULED"
  | .throttled => "THROTTLED"
  | .retryExecuted => "RETRY_EXECUTED"
  | .retryEval => "RETRY_EVAL"
  | .recovered => "RECOVERED"
  | .recoveredNaturally => "RECOVERED_NATURALLY"
  | .afaRequired => "AFA_REQUIRED"
  | .escalated => "ESCALATED"
  | .resolvedByHuman => "RESOLVED_BY_HUMAN"

inductive Bucket where
  | treatment | control
  deriving DecidableEq, Repr

inductive DeclineClass where
  | technical | business | unclassified
  deriving DecidableEq, Repr

inductive ControlOutcome where
  | recoveredNaturally | stillFailed | unknown
  deriving DecidableEq, Repr

inductive ResolutionNote where
  | writtenOff | recoveredManually
  deriving DecidableEq, Repr

inductive CommitBackendName where
  | etcd | postgresOutbox
  deriving DecidableEq, Repr

inductive RetryOutcome where
  | pending | recovered | failed
  deriving DecidableEq, Repr

inductive Actor where
  | agent | human
  deriving DecidableEq, Repr

def Actor.name : Actor → String
  | .agent => "agent"
  | .human => "human"

-----------------------------------------------------------------------------------------
-- Records
-----------------------------------------------------------------------------------------

/-- The stable anchor of one recovery effort; `caseId` is the first failed payment id. -/
structure RecoveryCase where
  caseId : String
  mandateId : String
  instrumentId : String
  originalAmount : Int
  openedAt : Datetime
  retriesUsed : Nat := 0
  state : CaseState := .received
  bucket : Option Bucket := none
  controlOutcome : Option ControlOutcome := none
  controlObservationDeadline : Option Datetime := none
  resolutionNote : Option ResolutionNote := none
  caseId_ne : caseId ≠ ""
  mandateId_ne : mandateId ≠ ""
  instrumentId_ne : instrumentId ≠ ""
  originalAmount_pos : 0 < originalAmount
  deriving DecidableEq

/-- `RecoveryCase(...)` with the validation of `__post_init__`. -/
def RecoveryCase.create (caseId mandateId instrumentId : String) (originalAmount : Int)
    (openedAt : Datetime)
    : Except PyError RecoveryCase :=
  if hc : caseId = "" then .error (.valueError "case_id must not be empty")
  else if hm : mandateId = "" then .error (.valueError "mandate_id must not be empty")
  else if hi : instrumentId = "" then .error (.valueError "instrument_id must not be empty")
  else if ha : originalAmount ≤ 0 then
    .error (.valueError
      ("original_amount must be positive integer paise, got " ++ toString originalAmount))
  else
    .ok {
      caseId, mandateId, instrumentId, originalAmount, openedAt
      caseId_ne := hc
      mandateId_ne := hm
      instrumentId_ne := hi
      originalAmount_pos := amount_pos_of_checked ha
    }

/-- A successful validation stores exactly what it was given. -/
theorem RecoveryCase.create_eq {caseId mandateId instrumentId : String} {amount : Int}
    {openedAt : Datetime} {case : RecoveryCase}
    (created : RecoveryCase.create caseId mandateId instrumentId amount openedAt = .ok case)
    : case.caseId = caseId ∧ case.mandateId = mandateId ∧ case.instrumentId = instrumentId
      ∧ case.originalAmount = amount ∧ case.retriesUsed = 0 ∧ case.bucket = none := by
  unfold RecoveryCase.create at created
  repeat' split at created
  all_goals cases created
  exact ⟨rfl, rfl, rfl, rfl, rfl, rfl⟩

/-- What passes the validation is created. -/
theorem RecoveryCase.create_ok {caseId mandateId instrumentId : String} {amount : Int}
    (openedAt : Datetime) (caseId_ne : caseId ≠ "") (mandateId_ne : mandateId ≠ "")
    (instrumentId_ne : instrumentId ≠ "") (amount_pos : 0 < amount)
    : ∃ case, RecoveryCase.create caseId mandateId instrumentId amount openedAt = .ok case := by
  unfold RecoveryCase.create
  rw [dif_neg caseId_ne, dif_neg mandateId_ne, dif_neg instrumentId_ne,
    dif_neg (not_le.mpr amount_pos)]
  exact ⟨_, rfl⟩

/-- A created case has no outcome yet. -/
theorem RecoveryCase.create_unsettled {caseId mandateId instrumentId : String} {amount : Int}
    {openedAt : Datetime} {case : RecoveryCase}
    (created : RecoveryCase.create caseId mandateId instrumentId amount openedAt = .ok case)
    : case.resolutionNote = none ∧ case.controlOutcome = none := by
  unfold RecoveryCase.create at created
  repeat' split at created
  all_goals cases created
  exact ⟨rfl, rfl⟩

/-- `assign_bucket`: the bucket of a case is set once and never changed. -/
def assignBucket (case : RecoveryCase) (bucket : Bucket) : Except PyError RecoveryCase :=
  match case.bucket with
  | none => .ok { case with bucket := some bucket }
  | some old =>
      if old = bucket then .ok { case with bucket := some bucket }
      else .error (.valueError "bucket is immutable once set (Invariant 7)")

/-- A case without a bucket takes the one it is given. -/
theorem assignBucket_eq {case : RecoveryCase} (unassigned : case.bucket = none)
    (bucket : Bucket)
    : assignBucket case bucket = .ok { case with bucket := some bucket } := by
  simp only [assignBucket, unassigned]

/-- The raw notes dictionary of a payment. -/
abbrev Notes := List (String × Json)

/-- One failed attempt. The error codes are passed through as the payload had them. -/
structure PaymentFailureEvent where
  caseId : String
  paymentId : String
  attemptNumber : Nat
  reasonCode : Json
  declineClass : DeclineClass
  amount : Int
  receivedAt : Datetime
  mandateId : Option String
  instrumentId : String
  errorReason : Json
  errorSource : Json
  errorStep : Json
  notes : Option Notes
  attemptNumber_pos : 1 ≤ attemptNumber
  amount_pos : 0 < amount
  paymentId_ne : paymentId ≠ ""
  caseId_ne : caseId ≠ ""

/-- One successful capture. -/
structure PaymentSuccessEvent where
  caseId : String
  paymentId : String
  amount : Int
  capturedAt : Datetime
  caseId_ne : caseId ≠ ""
  paymentId_ne : paymentId ≠ ""
  amount_pos : 0 < amount
  deriving DecidableEq

/-- `PaymentSuccessEvent(...)` with the validation of `__post_init__`. -/
def PaymentSuccessEvent.create (caseId paymentId : String) (amount : Int)
    (capturedAt : Datetime)
    : Except PyError PaymentSuccessEvent :=
  if hc : caseId = "" then .error (.valueError "case_id must not be empty")
  else if hp : paymentId = "" then .error (.valueError "payment_id must not be empty")
  else if ha : amount ≤ 0 then
    .error (.valueError ("amount must be positive integer paise, got " ++ toString amount))
  else
    .ok { caseId, paymentId, amount, capturedAt,
          caseId_ne := hc, paymentId_ne := hp, amount_pos := amount_pos_of_checked ha }

/-- A successful validation stores exactly what it was given. -/
theorem PaymentSuccessEvent.create_eq {caseId paymentId : String} {amount : Int}
    {capturedAt : Datetime} {event : PaymentSuccessEvent}
    (created : PaymentSuccessEvent.create caseId paymentId amount capturedAt = .ok event)
    : event.caseId = caseId ∧ event.amount = amount := by
  unfold PaymentSuccessEvent.create at created
  repeat' split at created
  all_goals cases created
  exact ⟨rfl, rfl⟩

/-- One scheduled, and eventually executed, retry attempt. -/
structure RetryDecision where
  caseId : String
  attemptNumber : Nat
  scheduledAt : Datetime
  reasoning : String
  commitBackend : CommitBackendName
  commitRef : String
  executedAt : Option Datetime := none
  outcome : RetryOutcome := .pending
  attemptNumber_pos : 1 ≤ attemptNumber
  reasoning_ne : reasoning ≠ ""
  commitRef_ne : commitRef ≠ ""
  deriving DecidableEq

/-- `RetryDecision(...)` with the validation of `__post_init__`, in its order. -/
def RetryDecision.create (caseId : String) (attemptNumber : Nat) (scheduledAt : Datetime)
    (reasoning : String) (commitBackend : CommitBackendName) (commitRef : String)
    : Except PyError RetryDecision :=
  if hn : attemptNumber < 1 then
    .error (.valueError ("attempt_number must be >= 1, got " ++ toString attemptNumber))
  else if hr : reasoning = "" then
    .error (.valueError "reasoning must not be empty — the receipt has nothing to show")
  else if hc : commitRef = "" then .error (.valueError "commit_ref must not be empty")
  else
    .ok { caseId, attemptNumber, scheduledAt, reasoning, commitBackend, commitRef,
          attemptNumber_pos := attempt_pos_of_checked hn, reasoning_ne := hr, commitRef_ne := hc }

/-- A successful validation stores exactly what it was given. -/
theorem RetryDecision.create_eq {caseId : String} {attemptNumber : Nat}
    {scheduledAt : Datetime} {reasoning : String} {commitBackend : CommitBackendName}
    {commitRef : String} {decision : RetryDecision}
    (created
      : RetryDecision.create caseId attemptNumber scheduledAt reasoning commitBackend commitRef
        = .ok decision)
    : decision.caseId = caseId ∧ decision.attemptNumber = attemptNumber
      ∧ decision.scheduledAt = scheduledAt ∧ decision.reasoning = reasoning
      ∧ decision.outcome = .pending := by
  unfold RetryDecision.create at created
  repeat' split at created
  all_goals cases created
  exact ⟨rfl, rfl, rfl, rfl, rfl⟩

/-- One row of the append-only audit log. The store assigns the last three fields. -/
structure AuditEntry where
  caseId : String
  fromState : CaseState
  toState : CaseState
  ruleFired : String
  ruleVersion : Nat
  timestamp : Datetime
  actor : Actor
  scheduledAt : Option Datetime := none
  sequenceId : Option Nat := none
  prevHash : Option String := none
  entryHash : Option String := none
  ruleFired_ne : ruleFired ≠ "" := by exact ne_empty _ trivial
  ruleVersion_pos : 1 ≤ ruleVersion := by decide
  deriving DecidableEq

/-- An entry that moves its case into a state it was not in. -/
def AuditEntry.Enters (entry : AuditEntry) (state : CaseState) : Prop :=
  entry.toState = state ∧ entry.fromState ≠ state

instance (entry : AuditEntry) (state : CaseState) : Decidable (entry.Enters state) :=
  inferInstanceAs (Decidable (_ ∧ _))

/-- The entry without what the store adds to it. -/
def AuditEntry.bare (entry : AuditEntry) : AuditEntry :=
  { entry with sequenceId := none, prevHash := none, entryHash := none }

/-- An entry that no store has numbered yet. -/
def AuditEntry.Fresh (entry : AuditEntry) : Prop := entry.bare = entry

theorem AuditEntry.Fresh.sequenceId {entry : AuditEntry} (fresh : entry.Fresh)
    : entry.sequenceId = none := by
  rw [← fresh]
  rfl

end RecoveryAgent
