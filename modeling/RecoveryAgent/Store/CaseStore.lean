import RecoveryAgent.Store.PostgresCaseStore

/-! The store of a service: in memory or on Postgres, behind one interface.
What the handlers can see of a case is its view, and every call is characterised by how it
changes the views, whichever store is behind it.
-/

namespace RecoveryAgent

/-- `store` of `main.py`. -/
inductive CaseStore where
  | inMemory (store : InMemoryCaseStore)
  | postgres (store : PostgresCaseStore)

/-- What a store call can raise. The two modules define error classes of the same names;
only those of the in-memory module are the ones `main.py` imports.
-/
inductive StoreException where
  | inMemory (error : CaseStoreError)
  | postgres (error : CaseStoreError)
  | uniqueViolation
  deriving DecidableEq, Repr

namespace CaseStore

/-- The store is the in-memory one. -/
def isInMemory : CaseStore → Bool
  | .inMemory _ => true
  | .postgres _ => false

-----------------------------------------------------------------------------------------
-- The calls
-----------------------------------------------------------------------------------------

/-- The answer of the in-memory store, as a store. -/
def ofInMemory : Except CaseStoreError InMemoryCaseStore → Except StoreException CaseStore
  | .ok store => .ok (.inMemory store)
  | .error error => .error (.inMemory error)

/-- The answer of the Postgres store, as a store. -/
def ofPostgres : Except CaseStoreError PostgresCaseStore → Except StoreException CaseStore
  | .ok store => .ok (.postgres store)
  | .error error => .error (.postgres error)

def createCase (case : RecoveryCase) : CaseStore → Except StoreException CaseStore
  | .inMemory store => ofInMemory (store.createCase case)
  | .postgres store => ofPostgres (store.createCase case)

def getCase (caseId : String) : CaseStore → Except StoreException RecoveryCase
  | .inMemory store => (store.getCase caseId).mapError .inMemory
  | .postgres store => (store.getCase caseId).mapError .postgres

def updateCase (case : RecoveryCase) : CaseStore → Except StoreException CaseStore
  | .inMemory store => ofInMemory (store.updateCase case)
  | .postgres store => .ok (.postgres (store.updateCase case))

/-- An assignment to the object a lookup returned: the stored one in memory, a copy of the
row on Postgres.
-/
def mutateCase (case : RecoveryCase) : CaseStore → CaseStore
  | .inMemory store => .inMemory (store.mutateCase case)
  | .postgres store => .postgres store

def listCases : CaseStore → List RecoveryCase
  | .inMemory store => store.listCases
  | .postgres store => store.listCases

def findCaseByMandate (mandateId : String) : CaseStore → Option RecoveryCase
  | .inMemory store => store.findCaseByMandate mandateId
  | .postgres store => store.findCaseByMandate mandateId

def getMaxAttemptNumber (caseId : String) : CaseStore → Nat
  | .inMemory store => store.getMaxAttemptNumber caseId
  | .postgres store => store.getMaxAttemptNumber caseId

def findAttemptByPaymentId (paymentId : String) : CaseStore → Option (String × Nat)
  | .inMemory store => store.findAttemptByPaymentId paymentId
  | .postgres store => store.findAttemptByPaymentId paymentId

def recordFailure (event : PaymentFailureEvent) : CaseStore → Except StoreException CaseStore
  | .inMemory store => ofInMemory (store.recordFailure event)
  | .postgres store => ofPostgres (store.recordFailure event)

def recordRetryDecision (decision : RetryDecision)
    : CaseStore → Except StoreException CaseStore
  | .inMemory store => ofInMemory (store.recordRetryDecision decision)
  | .postgres store => ofPostgres (store.recordRetryDecision decision)

def updateRetryDecision (decision : RetryDecision)
    : CaseStore → Except StoreException CaseStore
  | .inMemory store => ofInMemory (store.updateRetryDecision decision)
  | .postgres store => .ok (.postgres (store.updateRetryDecision decision))

def getPendingRetries : CaseStore → List RetryDecision
  | .inMemory store => store.getPendingRetries
  | .postgres store => store.getPendingRetries

/-- The sequence id `append_audit` takes; the in-memory counter moves on at once. -/
def nextSequence : CaseStore → Nat × CaseStore
  | .inMemory store =>
      (store.nextSequence, .inMemory { store with nextSequence := store.nextSequence + 1 })
  | .postgres store => (store.nextSequence, .postgres store)

def lastEntryHash (caseId : String) : CaseStore → Option String
  | .inMemory store => store.lastEntryHash caseId
  | .postgres store => store.lastEntryHash caseId

def insertAudit (entry : AuditEntry) : CaseStore → Except StoreException CaseStore
  | .inMemory store => .ok (.inMemory (store.insertAudit entry))
  | .postgres store =>
      match store.insertAudit entry with
      | some store => .ok (.postgres store)
      | none => .error .uniqueViolation

-----------------------------------------------------------------------------------------
-- Views
-----------------------------------------------------------------------------------------

/-- What a store holds about one case id. -/
structure View where
  case : Option RecoveryCase
  decisions : List RetryDecision
  trail : List AuditEntry

/-- The view of every case id, with decisions and entries in the order of the store. -/
def view : CaseStore → String → View
  | .inMemory store, caseId => {
      case := store.cases.find? caseId
      decisions := store.decisions.rows.filter (·.caseId = caseId)
      trail := store.auditLogs caseId
    }
  | .postgres store, caseId => {
      case := store.recoveryCases.find? caseId
      decisions := store.retryDecisions.rows.filter (·.caseId = caseId)
      trail := store.auditEntries.rows.filter (·.caseId = caseId)
    }

/-- The list `execute_retry` picks from. -/
def View.pending (view : View) : List RetryDecision :=
  view.decisions.filter (·.outcome = .pending)

variable {store store' : CaseStore}

/-- A view's case carries the id it is kept under. -/
theorem view_caseId {caseId : String} {case : RecoveryCase}
    (stored : (store.view caseId).case = some case)
    : case.caseId = caseId := by
  cases store <;> exact Table.find?_key stored

theorem view_decisions_caseId {caseId : String} {decision : RetryDecision}
    (member : decision ∈ (store.view caseId).decisions)
    : decision.caseId = caseId := by
  cases store <;> simpa using (List.mem_filter.mp member).2

/-- A case has one decision an attempt. -/
theorem view_decisions_unique (store : CaseStore) (caseId : String)
    : ((store.view caseId).decisions.map (·.attemptNumber)).Nodup := by
  have filtered (table : Table RetryDecision.attempt)
      : ((table.rows.filter (·.caseId = caseId)).map (·.attemptNumber)).Nodup := by
    refine List.Nodup.map_on ?_ (table.unique.of_map.filter _)
    intro first hf second hs same
    have first_id : first.caseId = caseId := by simpa using (List.mem_filter.mp hf).2
    have second_id : second.caseId = caseId := by simpa using (List.mem_filter.mp hs).2
    have keys : first.attempt = second.attempt := by
      simp only [RetryDecision.attempt, first_id, second_id, same]
    exact List.inj_on_of_nodup_map table.unique (List.mem_filter.mp hf).1
      (List.mem_filter.mp hs).1 keys
  cases store <;> exact filtered _

theorem getCase_eq (store : CaseStore) (caseId : String)
    : (∃ case, (store.view caseId).case = some case ∧ store.getCase caseId = .ok case)
      ∨ ((store.view caseId).case = none ∧ ∃ raised, store.getCase caseId = .error raised) := by
  cases store with
  | inMemory store =>
      simp only [view, getCase, InMemoryCaseStore.getCase]
      cases store.cases.find? caseId <;> simp [Except.mapError]
  | postgres store =>
      simp only [view, getCase, PostgresCaseStore.getCase]
      cases store.recoveryCases.find? caseId <;> simp [Except.mapError]

/-- A case found by its mandate is a stored case. -/
theorem findCaseByMandate_view {mandateId : String} {case : RecoveryCase}
    (found : store.findCaseByMandate mandateId = some case)
    : (store.view case.caseId).case = some case := by
  cases store with
  | inMemory store =>
      simp only [findCaseByMandate, InMemoryCaseStore.findCaseByMandate, Option.bind_eq_bind,
        Option.bind_eq_some_iff] at found
      obtain ⟨caseId, _, stored⟩ := found
      simp only [view]
      rw [Table.find?_key stored]
      exact stored
  | postgres store =>
      exact Table.find?_of_mem (List.mem_of_find?_eq_some found)

/-- The pending retries of one case are those of its view. -/
theorem pending_eq (store : CaseStore) (caseId : String)
    : store.getPendingRetries.filter (·.caseId = caseId) = (store.view caseId).pending := by
  cases store <;>
    simp only [getPendingRetries, InMemoryCaseStore.getPendingRetries,
      PostgresCaseStore.getPendingRetries, View.pending, view, List.filter_filter, Bool.and_comm]

-----------------------------------------------------------------------------------------
-- What the calls change
-----------------------------------------------------------------------------------------

/-- A created case is new, and only its own view gains it. -/
theorem view_createCase {case : RecoveryCase} (created : store.createCase case = .ok store')
    : (store.view case.caseId).case = none
      ∧ store'.view = Function.update store.view case.caseId
          { store.view case.caseId with case := some case } := by
  cases store with
  | inMemory store =>
      simp only [createCase, InMemoryCaseStore.createCase] at created
      cases inserted : store.cases.insert? case with
      | none => simp [inserted, ofInMemory] at created
      | some cases_ =>
          simp only [inserted] at created
          split at created
          · cases created
          · cases created
            refine ⟨(Table.insert?_some inserted).1, funext fun caseId => ?_⟩
            by_cases same : caseId = case.caseId
            · subst same
              simp [view, Table.find?_insert inserted]
            · simp [view, Table.find?_insert inserted, same]
  | postgres store =>
      simp only [createCase, PostgresCaseStore.createCase] at created
      cases inserted : store.recoveryCases.insert? case with
      | none => simp [inserted, ofPostgres] at created
      | some cases_ =>
          simp only [inserted] at created
          cases created
          refine ⟨(Table.insert?_some inserted).1, funext fun caseId => ?_⟩
          by_cases same : caseId = case.caseId
          · subst same
            simp [view, Table.find?_insert inserted]
          · simp [view, Table.find?_insert inserted, same]

/-- The views after the row of a case has been overwritten, where there is one. -/
def overwrite (store : CaseStore) (case : RecoveryCase) : String → View :=
  Function.update store.view case.caseId
    { store.view case.caseId with case := (store.view case.caseId).case.map fun _ => case }

theorem view_updateCase {case : RecoveryCase} (updated : store.updateCase case = .ok store')
    : store'.view = store.overwrite case := by
  funext caseId
  unfold overwrite
  cases store with
  | inMemory store =>
      simp only [updateCase, InMemoryCaseStore.updateCase] at updated
      cases found : store.cases.find? case.caseId with
      | none => simp [found, ofInMemory] at updated
      | some old =>
          simp only [found] at updated
          cases updated
          by_cases same : caseId = case.caseId
          · subst same
            simp [view, Table.find?_update]
          · simp [view, Table.find?_update, same]
  | postgres store =>
      cases updated
      by_cases same : caseId = case.caseId
      · subst same
        simp [view, PostgresCaseStore.updateCase, Table.find?_update]
      · simp [view, PostgresCaseStore.updateCase, Table.find?_update, same]

/-- A stored case can always be updated. -/
theorem updateCase_ok {case old : RecoveryCase}
    (stored : (store.view case.caseId).case = some old)
    : ∃ store', store.updateCase case = .ok store' := by
  cases store with
  | inMemory store =>
      simp only [view] at stored
      simp [updateCase, InMemoryCaseStore.updateCase, stored, ofInMemory]
  | postgres store => exact ⟨_, rfl⟩

/-- A mutation of a case object is seen by the store in memory, and by no one else. -/
theorem view_mutateCase (store : CaseStore) (case : RecoveryCase)
    : (store.mutateCase case).view = store.view
      ∨ store.isInMemory = true ∧ (store.mutateCase case).view = store.overwrite case := by
  cases store with
  | postgres store => exact .inl rfl
  | inMemory store =>
      refine .inr ⟨rfl, funext fun caseId => ?_⟩
      unfold overwrite
      by_cases same : caseId = case.caseId
      · subst same
        simp [view, mutateCase, InMemoryCaseStore.mutateCase, Table.find?_update]
      · simp [view, mutateCase, InMemoryCaseStore.mutateCase, Table.find?_update, same]

/-- Failure records are in no view. -/
theorem view_recordFailure {event : PaymentFailureEvent}
    (recorded : store.recordFailure event = .ok store')
    : store'.view = store.view := by
  cases store with
  | inMemory store =>
      simp only [recordFailure, InMemoryCaseStore.recordFailure] at recorded
      split at recorded
      · cases recorded
      · split at recorded <;> cases recorded
        rfl
  | postgres store =>
      simp only [recordFailure, PostgresCaseStore.recordFailure] at recorded
      split at recorded <;> cases recorded
      rfl

/-- A recorded decision is a new attempt, listed behind the case's earlier decisions. -/
theorem view_recordRetryDecision {decision : RetryDecision}
    (recorded : store.recordRetryDecision decision = .ok store')
    : decision.attemptNumber
        ∉ (store.view decision.caseId).decisions.map (·.attemptNumber)
      ∧ store'.view = Function.update store.view decision.caseId
          { store.view decision.caseId with
            decisions := (store.view decision.caseId).decisions ++ [decision] } := by
  have appended {table table' : Table RetryDecision.attempt}
      (inserted : table.insert? decision = some table')
      : decision.attemptNumber
          ∉ (table.rows.filter (·.caseId = decision.caseId)).map (·.attemptNumber)
        ∧ ∀ caseId,
            table'.rows.filter (·.caseId = caseId)
            = table.rows.filter (·.caseId = caseId)
              ++ if decision.caseId = caseId then [decision] else [] := by
    obtain ⟨fresh, rows⟩ := Table.insert?_some inserted
    constructor
    · intro member
      obtain ⟨old, listed, attempt⟩ := List.mem_map.mp member
      obtain ⟨stored, caseId⟩ := List.mem_filter.mp listed
      refine Table.find?_eq_none_iff.mp fresh (List.mem_map.mpr ⟨old, stored, ?_⟩)
      simp only [RetryDecision.attempt, attempt, of_decide_eq_true caseId]
    · intro caseId
      rw [rows, List.filter_append]
      by_cases same : decision.caseId = caseId <;> simp [same]
  cases store with
  | inMemory store =>
      simp only [recordRetryDecision, InMemoryCaseStore.recordRetryDecision] at recorded
      cases inserted : store.decisions.insert? decision with
      | none => simp [inserted, ofInMemory] at recorded
      | some decisions =>
          simp only [inserted] at recorded
          cases recorded
          refine ⟨(appended inserted).1, funext fun caseId => ?_⟩
          by_cases same : caseId = decision.caseId
          · subst same
            simp [view, (appended inserted).2]
          · simp [view, (appended inserted).2, same, Ne.symm same]
  | postgres store =>
      simp only [recordRetryDecision, PostgresCaseStore.recordRetryDecision] at recorded
      cases inserted : store.retryDecisions.insert? decision with
      | none => simp [inserted, ofPostgres] at recorded
      | some decisions =>
          simp only [inserted] at recorded
          cases recorded
          refine ⟨(appended inserted).1, funext fun caseId => ?_⟩
          by_cases same : caseId = decision.caseId
          · subst same
            simp [view, (appended inserted).2]
          · simp [view, (appended inserted).2, same, Ne.symm same]

/-- A decision is refused only where its attempt has one. -/
theorem recordRetryDecision_raised {decision : RetryDecision} {raised : StoreException}
    (refused : store.recordRetryDecision decision = .error raised)
    : decision.attemptNumber ∈ (store.view decision.caseId).decisions.map (·.attemptNumber) := by
  have taken {table : Table RetryDecision.attempt} (occupied : table.insert? decision = none)
      : decision.attemptNumber
        ∈ (table.rows.filter (·.caseId = decision.caseId)).map (·.attemptNumber) := by
    obtain ⟨old, found⟩ := Table.insert?_eq_none_iff.mp occupied
    have key := Table.find?_key found
    simp only [RetryDecision.attempt, Prod.mk.injEq] at key
    exact List.mem_map.mpr
      ⟨old, List.mem_filter.mpr ⟨Table.mem_of_find? found, by simp [key.1]⟩, key.2⟩
  cases store with
  | inMemory store =>
      simp only [recordRetryDecision, InMemoryCaseStore.recordRetryDecision] at refused
      cases inserted : store.decisions.insert? decision with
      | none => exact taken inserted
      | some decisions => simp [inserted, ofInMemory] at refused
  | postgres store =>
      simp only [recordRetryDecision, PostgresCaseStore.recordRetryDecision] at refused
      cases inserted : store.retryDecisions.insert? decision with
      | none => exact taken inserted
      | some decisions => simp [inserted, ofPostgres] at refused

/-- Writing a stored decision back changes nothing. -/
theorem updateRetryDecision_stored {decision : RetryDecision}
    (stored : decision ∈ (store.view decision.caseId).decisions)
    : store.updateRetryDecision decision = .ok store := by
  cases store with
  | inMemory store =>
      have member := (List.mem_filter.mp stored).1
      simp [updateRetryDecision, InMemoryCaseStore.updateRetryDecision,
        Table.find?_of_mem member, Table.update_of_mem member, ofInMemory]
  | postgres store =>
      have member := (List.mem_filter.mp stored).1
      simp [updateRetryDecision, PostgresCaseStore.updateRetryDecision,
        Table.update_of_mem member]

/-- A decision for an attempt that has one takes its place. -/
theorem view_updateRetryDecision {decision old : RetryDecision}
    (stored : old ∈ (store.view decision.caseId).decisions)
    (same : old.attemptNumber = decision.attemptNumber)
    : ∃ store',
        store.updateRetryDecision decision = .ok store'
        ∧ store'.view = Function.update store.view decision.caseId
            { store.view decision.caseId with
              decisions := (store.view decision.caseId).decisions.map fun old =>
                if old.attemptNumber = decision.attemptNumber then decision else old } := by
  let put (row : RetryDecision) : RetryDecision :=
    if row.attempt = decision.attempt then decision else row
  have kept (row : RetryDecision) : (put row).caseId = row.caseId := by
    simp only [put]
    split
    · next found => exact (Prod.mk.inj found).1.symm
    · rfl
  have replaced (table : Table RetryDecision.attempt) (caseId : String)
      : (table.update decision).rows.filter (·.caseId = caseId)
        = if caseId = decision.caseId then
            (table.rows.filter (·.caseId = caseId)).map fun row =>
              if row.attemptNumber = decision.attemptNumber then decision else row
          else table.rows.filter (·.caseId = caseId) := by
    have moved
        : (table.update decision).rows.filter (·.caseId = caseId)
          = (table.rows.filter (·.caseId = caseId)).map put := by
      simp only [Table.update, List.filter_map, Function.comp_def]
      exact congrArg (List.map put) (List.filter_congr fun row _ => by rw [kept])
    rw [moved]
    split
    · next here =>
        refine List.map_congr_left fun row member => ?_
        have owned : row.caseId = caseId := by simpa using (List.mem_filter.mp member).2
        simp [put, RetryDecision.attempt, owned, here]
    · next other =>
        conv_rhs => rw [← List.map_id (table.rows.filter _)]
        refine List.map_congr_left fun row member => ?_
        have owned : row.caseId = caseId := by simpa using (List.mem_filter.mp member).2
        simp [put, RetryDecision.attempt, owned, other]
  have attempt : old.attempt = decision.attempt := by
    simp only [RetryDecision.attempt, view_decisions_caseId stored, same]
  cases store with
  | inMemory store =>
      have found := Table.find?_of_mem (List.mem_filter.mp stored).1
      rw [attempt] at found
      refine ⟨.inMemory { store with decisions := store.decisions.update decision },
        by simp [updateRetryDecision, InMemoryCaseStore.updateRetryDecision, found, ofInMemory],
        funext fun caseId => ?_⟩
      by_cases here : caseId = decision.caseId
      · subst here
        simp [view, replaced]
      · simp [view, replaced, here]
  | postgres store =>
      refine ⟨_, rfl, funext fun caseId => ?_⟩
      by_cases here : caseId = decision.caseId
      · subst here
        simp [view, replaced, PostgresCaseStore.updateRetryDecision]
      · simp [view, replaced, here, PostgresCaseStore.updateRetryDecision]

@[simp] theorem view_nextSequence (store : CaseStore) : store.nextSequence.2.view = store.view := by
  cases store <;> rfl

/-- An inserted entry ends the trail of its case. -/
theorem view_insertAudit {entry : AuditEntry} (inserted : store.insertAudit entry = .ok store')
    : store'.view = Function.update store.view entry.caseId
        { store.view entry.caseId with trail := (store.view entry.caseId).trail ++ [entry] } := by
  cases store with
  | inMemory store =>
      cases inserted
      funext caseId
      by_cases same : caseId = entry.caseId
      · subst same
        simp [view, InMemoryCaseStore.insertAudit]
      · simp [view, InMemoryCaseStore.insertAudit, same]
  | postgres store =>
      simp only [insertAudit, PostgresCaseStore.insertAudit] at inserted
      cases added : store.auditEntries.insert? entry with
      | none => simp [added] at inserted
      | some table =>
          simp only [added, Option.map_some] at inserted
          cases inserted
          funext caseId
          by_cases same : caseId = entry.caseId
          · subst same
            simp [view, (Table.insert?_some added).2]
          · simp [view, (Table.insert?_some added).2, same, Ne.symm same]

/-- An entry under the next sequence id is accepted. -/
theorem insertAudit_next {entry : AuditEntry}
    (numbered : entry.sequenceId = some store.nextSequence.1)
    : ∃ store', store.nextSequence.2.insertAudit entry = .ok store' := by
  cases store with
  | inMemory store => exact ⟨_, rfl⟩
  | postgres store =>
      have fresh := store.nextSequence_fresh
      rw [← show entry.sequenceId = some store.nextSequence from numbered] at fresh
      cases added : store.auditEntries.insert? entry with
      | none =>
          obtain ⟨old, taken⟩ := Table.insert?_eq_none_iff.mp added
          rw [fresh] at taken
          cases taken
      | some table => simp [nextSequence, insertAudit, PostgresCaseStore.insertAudit, added]

end CaseStore

end RecoveryAgent
