import RecoveryAgent.Store.Documents
import RecoveryAgent.Store.InMemoryCaseStore

/-! The Postgres case store (`app/core/postgres_case_store.py`).
Every statement is one step on the shared tables. A `SELECT` without `ORDER BY` returns the
rows in whatever order the table has them in, see `reorder`.
-/

namespace RecoveryAgent

/-- The four tables, with their declared primary keys. -/
structure PostgresCaseStore where
  recoveryCases : Table RecoveryCase.caseId := .empty
  paymentFailures : Table PaymentFailureEvent.paymentId := .empty
  retryDecisions : Table RetryDecision.attempt := .empty
  auditEntries : Table AuditEntry.sequenceId := .empty

namespace PostgresCaseStore

/-- `create_case`: only the primary key is enforced. -/
def createCase (store : PostgresCaseStore) (case : RecoveryCase)
    : Except CaseStoreError PostgresCaseStore :=
  match store.recoveryCases.insert? case with
  | none => .error (.caseAlreadyExists case.caseId)
  | some recoveryCases => .ok { store with recoveryCases }

def getCase (store : PostgresCaseStore) (caseId : String) : Except CaseStoreError RecoveryCase :=
  match store.recoveryCases.find? caseId with
  | some case => .ok case
  | none => .error (.caseNotFound caseId)

/-- `update_case`: an UPDATE by id, without effect where there is no such row. -/
def updateCase (store : PostgresCaseStore) (case : RecoveryCase) : PostgresCaseStore :=
  { store with recoveryCases := store.recoveryCases.update case }

def listCases (store : PostgresCaseStore) : List RecoveryCase := store.recoveryCases.rows

/-- `find_case_by_mandate`: the first row the SELECT returns. -/
def findCaseByMandate (store : PostgresCaseStore) (mandateId : String) : Option RecoveryCase :=
  store.recoveryCases.rows.find? (·.mandateId = mandateId)

/-- `find_case_by_payment_id`: the case of the failure recorded for the payment. -/
def findCaseByPaymentId (store : PostgresCaseStore) (paymentId : String)
    : Option RecoveryCase := do
  let event ← store.paymentFailures.find? paymentId
  store.recoveryCases.find? event.caseId

/-- `MAX(attempt_number)`, 0 where there is none. -/
def getMaxAttemptNumber (store : PostgresCaseStore) (caseId : String) : Nat :=
  ((store.paymentFailures.rows.filter (·.caseId = caseId)).map (·.attemptNumber)).foldl max 0

def findAttemptByPaymentId (store : PostgresCaseStore) (paymentId : String)
    : Option (String × Nat) :=
  (store.paymentFailures.find? paymentId).map (·.attempt)

/-- The row of a failure, as it comes back: its notes are those that JSONB keeps. -/
def failureRow (event : PaymentFailureEvent) : PaymentFailureEvent :=
  { event with notes := rowNotes event.notes }

@[simp] theorem failureRow_attempt (event : PaymentFailureEvent)
    : (failureRow event).attempt = event.attempt := rfl

/-- `record_failure`: only the payment id is unique. -/
def recordFailure (store : PostgresCaseStore) (event : PaymentFailureEvent)
    : Except CaseStoreError PostgresCaseStore :=
  match store.paymentFailures.insert? (failureRow event) with
  | none => .error (.paymentAlreadyRecorded event.paymentId)
  | some paymentFailures => .ok { store with paymentFailures }

/-- `get_failure`: the first row the SELECT returns. -/
def getFailure (store : PostgresCaseStore) (caseId : String) (attemptNumber : Nat)
    : Except CaseStoreError PaymentFailureEvent :=
  match store.paymentFailures.rows.find? (·.attempt = (caseId, attemptNumber)) with
  | some event => .ok event
  | none => .error (.failureNotFound caseId attemptNumber)

def recordRetryDecision (store : PostgresCaseStore) (decision : RetryDecision)
    : Except CaseStoreError PostgresCaseStore :=
  match store.retryDecisions.insert? decision with
  | none => .error (.decisionAlreadyRecorded decision.caseId decision.attemptNumber)
  | some retryDecisions => .ok { store with retryDecisions }

def getRetryDecision (store : PostgresCaseStore) (caseId : String) (attemptNumber : Nat)
    : Except CaseStoreError RetryDecision :=
  match store.retryDecisions.find? (caseId, attemptNumber) with
  | some decision => .ok decision
  | none => .error (.decisionNotFound caseId attemptNumber)

def updateRetryDecision (store : PostgresCaseStore) (decision : RetryDecision)
    : PostgresCaseStore :=
  { store with retryDecisions := store.retryDecisions.update decision }

def getPendingRetries (store : PostgresCaseStore) : List RetryDecision :=
  store.retryDecisions.rows.filter (·.outcome = .pending)

/-- `SELECT COALESCE(MAX(sequence_id), 0) + 1`. -/
def nextSequence (store : PostgresCaseStore) : Nat :=
  (store.auditEntries.rows.filterMap (·.sequenceId)).foldl max 0 + 1

/-- The hash of a case's entry with the highest sequence id. -/
def lastEntryHash (store : PostgresCaseStore) (caseId : String) : Option String :=
  ((store.auditEntries.rows.filter (·.caseId = caseId)).foldl
    (fun (last : Option AuditEntry) entry =>
      match last with
      | none => some entry
      | some best => if best.sequenceId.getD 0 < entry.sequenceId.getD 0 then some entry else last)
    none).bind (·.entryHash)

/-- The INSERT of `append_audit`; none is the unique violation of a taken sequence id. -/
def insertAudit (store : PostgresCaseStore) (entry : AuditEntry) : Option PostgresCaseStore :=
  (store.auditEntries.insert? entry).map fun auditEntries => { store with auditEntries }

/-- `append_audit` by one worker; none is the unique violation of a taken sequence id. -/
def appendAudit (store : PostgresCaseStore) (entry : AuditEntry) : Option PostgresCaseStore :=
  let sequenceId := entry.sequenceId.getD store.nextSequence
  store.insertAudit
    ({ entry with sequenceId := some sequenceId }.linked (store.lastEntryHash entry.caseId))

/-- The store after a call of `append_audit`, which a refused entry leaves as it was. -/
def appendAccepted (store : PostgresCaseStore) (entry : AuditEntry) : PostgresCaseStore :=
  (store.appendAudit entry).getD store

/-- `get_audit_trail`, in the order of the sequence ids. -/
def getAuditTrail (store : PostgresCaseStore) (caseId : String) : List AuditEntry :=
  (store.auditEntries.rows.filter (·.caseId = caseId)).mergeSort
    (fun entry next => entry.sequenceId.getD 0 ≤ next.sequenceId.getD 0)

/-- The same rows in another physical order, as a later SELECT may return them. -/
def reorder (store : PostgresCaseStore) (cases : List RecoveryCase)
    (decisions : List RetryDecision) (sameCases : store.recoveryCases.rows.Perm cases)
    (sameDecisions : store.retryDecisions.rows.Perm decisions)
    : PostgresCaseStore :=
  { store with
    recoveryCases := store.recoveryCases.reorder cases sameCases
    retryDecisions := store.retryDecisions.reorder decisions sameDecisions }

/-- The next sequence id is above all that are taken, so the row it is given to is new. -/
theorem nextSequence_fresh (store : PostgresCaseStore)
    : store.auditEntries.find? (some store.nextSequence) = none := by
  rw [Table.find?_eq_none_iff]
  intro taken
  obtain ⟨entry, member, id⟩ := List.mem_map.mp taken
  have listed : store.nextSequence ∈ store.auditEntries.rows.filterMap (·.sequenceId) :=
    List.mem_filterMap.mpr ⟨entry, member, id⟩
  exact absurd (InMemoryCaseStore.le_foldl_max (.inr listed)) (Nat.not_succ_le_self _)

end PostgresCaseStore

end RecoveryAgent
