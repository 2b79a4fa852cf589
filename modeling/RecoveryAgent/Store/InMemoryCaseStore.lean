import RecoveryAgent.Core.Models
import RecoveryAgent.Lib.Sha256
import RecoveryAgent.Lib.Table
import Mathlib.Logic.Function.Basic

/-! The in-memory case store (`app/core/case_store.py`).
Dictionaries that are iterated are tables; those only looked up are their lookup functions.
The stored case objects are the ones the callers hold, see `mutateCase`.
-/

namespace RecoveryAgent

-----------------------------------------------------------------------------------------
-- Errors of the case stores
-----------------------------------------------------------------------------------------

/-- `CaseStoreError` and its subclasses, with what their messages quote. -/
inductive CaseStoreError where
  | caseNotFound (caseId : String)
  | caseAlreadyExists (caseId : String)
  | mandateAlreadyMapped (mandateId existingCaseId : String)
  | failureAlreadyRecorded (caseId : String) (attemptNumber : Nat)
  | paymentAlreadyRecorded (paymentId : String)
  | decisionAlreadyRecorded (caseId : String) (attemptNumber : Nat)
  | failureNotFound (caseId : String) (attemptNumber : Nat)
  | decisionNotFound (caseId : String) (attemptNumber : Nat)
  deriving DecidableEq, Repr

namespace AuditEntry

/-- One UTF-16 code unit as `json.dumps` escapes it. -/
def escapeUnit (unit : Nat) : String :=
  let digits := Nat.toDigits 16 unit
  "\\u" ++ String.ofList (List.replicate (4 - digits.length) '0' ++ digits)

/-- One character inside a JSON string, with non-ASCII characters escaped. -/
def escapeChar (c : Char) : String :=
  if c = '"' then "\\\""
  else if c = '\\' then "\\\\"
  else if c = '\n' then "\\n"
  else if c = '\r' then "\\r"
  else if c = '\t' then "\\t"
  else if c.toNat = 8 then "\\b"
  else if c.toNat = 12 then "\\f"
  else if 32 ≤ c.toNat ∧ c.toNat < 127 then String.singleton c
  else if c.toNat < 65536 then escapeUnit c.toNat
  else
    escapeUnit (55296 + (c.toNat - 65536) / 1024) ++ escapeUnit (56320 + (c.toNat - 65536) % 1024)

/-- `json.dumps` of a string. -/
def quote (text : String) : String :=
  "\"" ++ String.join (text.toList.map escapeChar) ++ "\""

def quoteOrNull (text : Option String) : String := (text.map quote).getD "null"

/-- `_serialize_entry`: JSON with its keys sorted. -/
def serialize (entry : AuditEntry) : String :=
  "\x7b\"actor\": " ++ quote entry.actor.name
    ++ ", \"case_id\": " ++ quote entry.caseId
    ++ ", \"from_state\": " ++ quote entry.fromState.name
    ++ ", \"prev_hash\": " ++ quoteOrNull entry.prevHash
    ++ ", \"rule_fired\": " ++ quote entry.ruleFired
    ++ ", \"rule_version\": " ++ toString entry.ruleVersion
    ++ ", \"scheduled_at\": " ++ quoteOrNull (entry.scheduledAt.map isoformat)
    ++ ", \"sequence_id\": " ++ ((entry.sequenceId.map toString).getD "null")
    ++ ", \"timestamp\": " ++ quote (isoformat entry.timestamp)
    ++ ", \"to_state\": " ++ quote entry.toState.name ++ "\x7d"

/-- The entry linked behind the given hash and stamped with its own. -/
def linked (entry : AuditEntry) (prevHash : Option String) : AuditEntry :=
  let entry := { entry with prevHash }
  { entry with entryHash := some (Sha256.hexdigest entry.serialize) }

end AuditEntry

-----------------------------------------------------------------------------------------
-- The store
-----------------------------------------------------------------------------------------

/-- The primary key of failures and decisions. -/
def PaymentFailureEvent.attempt (event : PaymentFailureEvent) : String × Nat :=
  (event.caseId, event.attemptNumber)

/-- The primary key of decisions. -/
def RetryDecision.attempt (decision : RetryDecision) : String × Nat :=
  (decision.caseId, decision.attemptNumber)

structure InMemoryCaseStore where
  cases : Table RecoveryCase.caseId := .empty
  failures : Table PaymentFailureEvent.attempt := .empty
  decisions : Table RetryDecision.attempt := .empty
  auditLogs : String → List AuditEntry := fun _ => []
  nextSequence : Nat := 1
  mandateIndex : String → Option String := fun _ => none
  paymentIndex : String → Option String := fun _ => none
  paymentAttemptIndex : String → Option (String × Nat) := fun _ => none

namespace InMemoryCaseStore

/-- `create_case`: a taken id and a mandate mapped to another case are refused. -/
def createCase (store : InMemoryCaseStore) (case : RecoveryCase)
    : Except CaseStoreError InMemoryCaseStore :=
  match store.cases.insert? case with
  | none => .error (.caseAlreadyExists case.caseId)
  | some cases =>
      let mapped := store.mandateIndex case.mandateId
      if mapped ≠ none ∧ mapped ≠ some case.caseId then
        .error (.mandateAlreadyMapped case.mandateId (mapped.getD ""))
      else
        .ok { store with
          cases
          mandateIndex := Function.update store.mandateIndex case.mandateId (some case.caseId)
          paymentIndex := Function.update store.paymentIndex case.caseId (some case.caseId) }

def getCase (store : InMemoryCaseStore) (caseId : String) : Except CaseStoreError RecoveryCase :=
  match store.cases.find? caseId with
  | some case => .ok case
  | none => .error (.caseNotFound caseId)

def updateCase (store : InMemoryCaseStore) (case : RecoveryCase)
    : Except CaseStoreError InMemoryCaseStore :=
  match store.cases.find? case.caseId with
  | none => .error (.caseNotFound case.caseId)
  | some _ =>
      .ok { store with
        cases := store.cases.update case
        mandateIndex := Function.update store.mandateIndex case.mandateId (some case.caseId) }

/-- An assignment to fields of the stored case object itself, before or without an
`update_case`.
-/
def mutateCase (store : InMemoryCaseStore) (case : RecoveryCase) : InMemoryCaseStore :=
  { store with cases := store.cases.update case }

def listCases (store : InMemoryCaseStore) : List RecoveryCase := store.cases.rows

def findCaseByMandate (store : InMemoryCaseStore) (mandateId : String)
    : Option RecoveryCase := do
  let caseId ← store.mandateIndex mandateId
  store.cases.find? caseId

/-- `find_case_by_payment_id`: the index only knows the payments that opened a case. -/
def findCaseByPaymentId (store : InMemoryCaseStore) (paymentId : String)
    : Option RecoveryCase := do
  let caseId ← store.paymentIndex paymentId
  store.cases.find? caseId

def getMaxAttemptNumber (store : InMemoryCaseStore) (caseId : String) : Nat :=
  ((store.failures.rows.filter (·.caseId = caseId)).map (·.attemptNumber)).foldl max 0

/-- The maximum bounds every number it is taken of, by induction over them. -/
theorem le_foldl_max {numbers : List Nat} {n start : Nat} (listed : n ≤ start ∨ n ∈ numbers)
    : n ≤ numbers.foldl max start := by
  induction numbers generalizing start with
  | nil => simpa using listed
  | cons head rest ih =>
      refine ih ?_
      rcases listed with below | member
      · exact .inl (le_trans below (le_max_left _ _))
      · rcases List.mem_cons.mp member with rfl | later
        · exact .inl (le_max_right _ _)
        · exact .inr later

/-- Numbers without gaps are counted by their maximum. -/
theorem foldl_max_range' (n : Nat) : (List.range' 1 n).foldl max 0 = n := by
  induction n with
  | zero => rfl
  | succ n ih =>
      rw [List.range'_concat, List.foldl_append, ih]
      simp [Nat.add_comm]

def findAttemptByPaymentId (store : InMemoryCaseStore) (paymentId : String)
    : Option (String × Nat) :=
  store.paymentAttemptIndex paymentId

/-- `record_failure`: one failure an attempt, and one attempt a payment. -/
def recordFailure (store : InMemoryCaseStore) (event : PaymentFailureEvent)
    : Except CaseStoreError InMemoryCaseStore :=
  match store.failures.insert? event with
  | none => .error (.failureAlreadyRecorded event.caseId event.attemptNumber)
  | some failures =>
      match store.paymentAttemptIndex event.paymentId with
      | some _ => .error (.paymentAlreadyRecorded event.paymentId)
      | none =>
          .ok { store with
            failures
            paymentAttemptIndex :=
              Function.update store.paymentAttemptIndex event.paymentId (some event.attempt) }

def getFailure (store : InMemoryCaseStore) (caseId : String) (attemptNumber : Nat)
    : Except CaseStoreError PaymentFailureEvent :=
  match store.failures.find? (caseId, attemptNumber) with
  | some event => .ok event
  | none => .error (.failureNotFound caseId attemptNumber)

def recordRetryDecision (store : InMemoryCaseStore) (decision : RetryDecision)
    : Except CaseStoreError InMemoryCaseStore :=
  match store.decisions.insert? decision with
  | none => .error (.decisionAlreadyRecorded decision.caseId decision.attemptNumber)
  | some decisions => .ok { store with decisions }

def getRetryDecision (store : InMemoryCaseStore) (caseId : String) (attemptNumber : Nat)
    : Except CaseStoreError RetryDecision :=
  match store.decisions.find? (caseId, attemptNumber) with
  | some decision => .ok decision
  | none => .error (.decisionNotFound caseId attemptNumber)

def updateRetryDecision (store : InMemoryCaseStore) (decision : RetryDecision)
    : Except CaseStoreError InMemoryCaseStore :=
  match store.decisions.find? decision.attempt with
  | none => .error (.decisionNotFound decision.caseId decision.attemptNumber)
  | some _ => .ok { store with decisions := store.decisions.update decision }

/-- `get_pending_retries`, in the order in which the decisions were recorded. -/
def getPendingRetries (store : InMemoryCaseStore) : List RetryDecision :=
  store.decisions.rows.filter (·.outcome = .pending)

/-- The hash the next entry of a case is linked behind. -/
def lastEntryHash (store : InMemoryCaseStore) (caseId : String) : Option String :=
  (store.auditLogs caseId).getLast?.bind (·.entryHash)

/-- The last statement of `append_audit`. -/
def insertAudit (store : InMemoryCaseStore) (entry : AuditEntry) : InMemoryCaseStore :=
  { store with
    auditLogs := Function.update store.auditLogs entry.caseId
      (store.auditLogs entry.caseId ++ [entry]) }

/-- `append_audit`: an entry without a sequence id takes the next one. -/
def appendAudit (store : InMemoryCaseStore) (entry : AuditEntry) : InMemoryCaseStore :=
  let (sequenceId, store) := match entry.sequenceId with
    | some sequenceId => (sequenceId, store)
    | none => (store.nextSequence, { store with nextSequence := store.nextSequence + 1 })
  store.insertAudit
    ({ entry with sequenceId := some sequenceId }.linked (store.lastEntryHash entry.caseId))

def getAuditTrail (store : InMemoryCaseStore) (caseId : String) : List AuditEntry :=
  store.auditLogs caseId

end InMemoryCaseStore

end RecoveryAgent
