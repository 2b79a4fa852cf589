import RecoveryAgent.Core.Replay
import RecoveryAgent.Service.Appends
import RecoveryAgent.Service.Filing

/-! Failure webhooks on Postgres, and the writes each of them makes.
A delivery that is not refused writes its case, records its payment and appends its entries,
each in a transaction of its own.
-/

namespace RecoveryAgent

open StateMachine

namespace PostgresCaseStore

variable {store mid last : PostgresCaseStore}

/-- The stored case of a mandate; an empty mandate counts as none. -/
def mandateCase (store : PostgresCaseStore) : Option String → Option RecoveryCase
  | none => none
  | some mandateId => if mandateId = "" then none else store.findCaseByMandate mandateId

/-- The attempt a failure of the case is given. -/
def nextAttempt (store : PostgresCaseStore) (existing : Option RecoveryCase) : Option Nat :=
  existing.map fun case => store.getMaxAttemptNumber case.caseId + 1

/-- The first write of a delivery. -/
def put (store : PostgresCaseStore) (existing : Option RecoveryCase) (case : RecoveryCase)
    : Except CaseStoreError PostgresCaseStore :=
  match existing with
  | none => store.createCase case
  | some _ => .ok (store.updateCase case)

/-- `for entry in audit_entries: store.append_audit(entry)`. -/
def appendAll (store : PostgresCaseStore) (entries : List AuditEntry) : PostgresCaseStore :=
  entries.foldl appendAccepted store

/-- What a parsed failure leaves of the store. -/
def ingest (store : PostgresCaseStore) (config : AppConfig) (clock : Clock)
    (existing : Option RecoveryCase) (event : PaymentFailureEvent) : PostgresCaseStore :=
  match handlePaymentFailed existing event config clock with
  | .error _ => store
  | .ok (case, event', entries) =>
      match store.put existing case with
      | .error _ => store
      | .ok mid =>
          match mid.recordFailure event' with
          | .error _ => mid
          | .ok last => last.appendAll entries

/-- The writes of a failure delivery that is not refused, at the time of a clock. -/
structure Delivery (config : AppConfig) (clock : Clock) (entity : PaymentEntity)
    (store : PostgresCaseStore) where
  event : PaymentFailureEvent
  case : RecoveryCase
  event' : PaymentFailureEvent
  entries : List AuditEntry
  mid : PostgresCaseStore
  last : PostgresCaseStore
  named : entity.id.getD "" ≠ ""
  unrecorded : store.findAttemptByPaymentId (entity.id.getD "") = none
  parsed
    : parsePaymentFailed entity (store.mandateCase entity.mandateId)
        (store.nextAttempt (store.mandateCase entity.mandateId)) = .ok event
  handled
    : handlePaymentFailed (store.mandateCase entity.mandateId) event config clock
      = .ok (case, event', entries)
  written : store.put (store.mandateCase entity.mandateId) case = .ok mid
  recorded : mid.recordFailure event' = .ok last

/-- The first write of a delivery touches neither failures nor trails. -/
theorem put_kept {existing : Option RecoveryCase} {case : RecoveryCase}
    (written : store.put existing case = .ok mid)
    : mid.paymentFailures = store.paymentFailures ∧ mid.auditEntries = store.auditEntries := by
  unfold put at written
  cases existing with
  | none =>
      simp only [createCase] at written
      split at written <;> cases written
      exact ⟨rfl, rfl⟩
  | some old =>
      cases written
      exact ⟨rfl, rfl⟩

/-- Whether the first write is accepted depends on the id alone. -/
theorem put_ok {existing : Option RecoveryCase} {case case' : RecoveryCase}
    (written : store.put existing case = .ok mid) (same : case'.caseId = case.caseId)
    : ∃ mid', store.put existing case' = .ok mid' := by
  cases existing with
  | some old => exact ⟨_, rfl⟩
  | none =>
      simp only [put, createCase] at written ⊢
      cases inserted : store.recoveryCases.insert? case' with
      | some recoveryCases => exact ⟨_, rfl⟩
      | none =>
          have taken := Table.insert?_eq_none_iff.mp inserted
          rw [same] at taken
          rw [Table.insert?_eq_none_iff.mpr taken] at written
          cases written

/-- A payment that was not recorded before the first write can be after it. -/
theorem recordFailure_put {existing : Option RecoveryCase} {case : RecoveryCase}
    (written : store.put existing case = .ok mid) {event : PaymentFailureEvent}
    (unrecorded : store.findAttemptByPaymentId event.paymentId = none)
    : ∃ last, mid.recordFailure event = .ok last := by
  unfold recordFailure
  rw [(put_kept written).1]
  cases inserted : store.paymentFailures.insert? (failureRow event) with
  | some paymentFailures => exact ⟨_, rfl⟩
  | none =>
      obtain ⟨old, found⟩ := Table.insert?_eq_none_iff.mp inserted
      simp only [findAttemptByPaymentId, Option.map_eq_none_iff] at unrecorded
      rw [show (failureRow event).paymentId = event.paymentId from rfl, unrecorded] at found
      cases found

/-- A recorded payment is found, and nothing else has changed. -/
theorem recordFailure_kept {event : PaymentFailureEvent}
    (recorded : store.recordFailure event = .ok last)
    : last.recoveryCases = store.recoveryCases ∧ last.auditEntries = store.auditEntries
      ∧ last.findAttemptByPaymentId event.paymentId ≠ none := by
  unfold recordFailure at recorded
  cases inserted : store.paymentFailures.insert? (failureRow event) with
  | none =>
      rw [inserted] at recorded
      cases recorded
  | some paymentFailures =>
      rw [inserted] at recorded
      cases recorded
      refine ⟨rfl, rfl, ?_⟩
      have found := Table.find?_insert inserted event.paymentId
      rw [if_pos (show event.paymentId = (failureRow event).paymentId from rfl)] at found
      simp [findAttemptByPaymentId, found]

theorem appendAccepted_kept (store : PostgresCaseStore) (entry : AuditEntry)
    : (store.appendAccepted entry).recoveryCases = store.recoveryCases
      ∧ (store.appendAccepted entry).paymentFailures = store.paymentFailures := by
  unfold appendAccepted appendAudit insertAudit
  dsimp only
  cases store.auditEntries.insert? _ <;> exact ⟨rfl, rfl⟩

/-- Appends touch nothing but trails, by induction over the entries. -/
theorem appendAll_kept (store : PostgresCaseStore) (entries : List AuditEntry)
    : (store.appendAll entries).recoveryCases = store.recoveryCases
      ∧ (store.appendAll entries).paymentFailures = store.paymentFailures := by
  induction entries generalizing store with
  | nil => exact ⟨rfl, rfl⟩
  | cons entry rest ih =>
      obtain ⟨cases, failures⟩ := ih (store.appendAccepted entry)
      obtain ⟨cases', failures'⟩ := store.appendAccepted_kept entry
      exact ⟨cases.trans cases', failures.trans failures'⟩

/-- A fresh entry is accepted. -/
theorem appendAudit_fresh (store : PostgresCaseStore) {entry : AuditEntry} (fresh : entry.Fresh)
    : store.appendAudit entry = some (store.appendAccepted entry) := by
  have accepted : ∃ store', store.appendAudit entry = some store' := by
    unfold appendAudit insertAudit
    rw [fresh.sequenceId]
    dsimp only
    cases added : store.auditEntries.insert? _ with
    | some auditEntries => exact ⟨_, rfl⟩
    | none =>
        obtain ⟨old, taken⟩ := Table.insert?_eq_none_iff.mp added
        have unused := store.nextSequence_fresh
        rw [show store.auditEntries.find? (some store.nextSequence) = _ from taken] at unused
        cases unused
  obtain ⟨store', appended⟩ := accepted
  rw [appendAccepted, appended]
  rfl

end PostgresCaseStore

namespace Handler

variable (deployment : Deployment)

/-- A store call on Postgres leaves its store, or raises and leaves the world as it was. -/
theorem exec_orRaise_postgres (worker : Worker) (store : PostgresCaseStore)
    (log : EtcdStore Effect) (written : Except CaseStoreError PostgresCaseStore)
    : exec deployment (orRaise (World.stored ⟨worker, ⟨.postgres store, log⟩⟩
          (CaseStore.ofPostgres written)).1)
        (World.stored ⟨worker, ⟨.postgres store, log⟩⟩ (CaseStore.ofPostgres written)).2
      = match written with
        | .error error =>
            (.error (.exception (.store (.postgres error))), ⟨worker, ⟨.postgres store, log⟩⟩)
        | .ok mid => (.ok (), ⟨worker, ⟨.postgres mid, log⟩⟩) := by
  cases written <;> rfl

/-- Fresh entries are appended on Postgres, by induction over them. -/
theorem exec_appendAll_postgres (worker : Worker) (store : PostgresCaseStore)
    (log : EtcdStore Effect) {entries : List AuditEntry} (fresh : ∀ entry ∈ entries, entry.Fresh)
    : exec deployment (appendAll entries) ⟨worker, ⟨.postgres store, log⟩⟩
      = (.ok (), ⟨worker, ⟨.postgres (store.appendAll entries), log⟩⟩) := by
  induction entries generalizing store with
  | nil => rfl
  | cons entry rest ih =>
      obtain ⟨first, later⟩ := List.forall_mem_cons.mp fresh
      unfold appendAll
      rw [exec_bind, exec_appendAudit_postgres deployment entry rfl, store.appendAudit_fresh first]
      exact ih (store.appendAccepted entry) later

/-- The first write of a delivery on Postgres. -/
theorem exec_put_postgres (worker : Worker) (store : PostgresCaseStore) (log : EtcdStore Effect)
    (existing : Option RecoveryCase) (case : RecoveryCase)
    : exec deployment (match existing with
          | none => createCase case
          | some _ => updateCase case) ⟨worker, ⟨.postgres store, log⟩⟩
      = match store.put existing case with
        | .error error =>
            (.error (.exception (.store (.postgres error))), ⟨worker, ⟨.postgres store, log⟩⟩)
        | .ok mid => (.ok (), ⟨worker, ⟨.postgres mid, log⟩⟩) := by
  cases existing with
  | none => exact exec_orRaise_postgres deployment worker store log (store.createCase case)
  | some old =>
      exact exec_orRaise_postgres deployment worker store log (.ok (store.updateCase case))

theorem exec_recordFailure_postgres (worker : Worker) (store : PostgresCaseStore)
    (log : EtcdStore Effect) (event : PaymentFailureEvent)
    : exec deployment (recordFailure event) ⟨worker, ⟨.postgres store, log⟩⟩
      = match store.recordFailure event with
        | .error error =>
            (.error (.exception (.store (.postgres error))), ⟨worker, ⟨.postgres store, log⟩⟩)
        | .ok last => (.ok (), ⟨worker, ⟨.postgres last, log⟩⟩) :=
  exec_orRaise_postgres deployment worker store log (store.recordFailure event)

/-- The state machine's part on Postgres, where what it does to a case object is lost. -/
theorem exec_handleFailure_postgres (config : AppConfig) (existing : Option RecoveryCase)
    (event : PaymentFailureEvent) (worker : Worker) (store : PostgresCaseStore)
    (log : EtcdStore Effect)
    : exec deployment (handleFailure config existing event) ⟨worker, ⟨.postgres store, log⟩⟩
      = ((handlePaymentFailed existing event config worker.clock.view).mapError conflict,
        World.tick ⟨worker, ⟨.postgres store, log⟩⟩ 1) := by
  unfold handleFailure
  rw [exec_bind, exec_readClock]
  dsimp only
  cases existing with
  | none =>
      dsimp only [handlePaymentFailed]
      cases handleNewFailure event config worker.clock.view <;> rfl
  | some case =>
      dsimp only [handlePaymentFailed]
      cases (handleExistingFailure case event config worker.clock.view).result with
      | ok handled =>
          obtain ⟨event', entries⟩ := handled
          rfl
      | error raised => rfl

/-- The writes of a delivery on Postgres. -/
theorem exec_deliver_postgres (worker : Worker) (store : PostgresCaseStore)
    (log : EtcdStore Effect) (existing : Option RecoveryCase) (case : RecoveryCase)
    (event : PaymentFailureEvent) {entries : List AuditEntry}
    (fresh : ∀ entry ∈ entries, entry.Fresh)
    : exec deployment (do
        match existing with
        | none => createCase case
        | some _ => updateCase case
        recordFailure event
        appendAll entries) ⟨worker, ⟨.postgres store, log⟩⟩
      = match store.put existing case with
        | .error error =>
            (.error (.exception (.store (.postgres error))), ⟨worker, ⟨.postgres store, log⟩⟩)
        | .ok mid =>
            match mid.recordFailure event with
            | .error error =>
                (.error (.exception (.store (.postgres error))), ⟨worker, ⟨.postgres mid, log⟩⟩)
            | .ok last => (.ok (), ⟨worker, ⟨.postgres (last.appendAll entries), log⟩⟩) := by
  have record (mid : PostgresCaseStore)
      : exec deployment (do recordFailure event; appendAll entries) ⟨worker, ⟨.postgres mid, log⟩⟩
        = match mid.recordFailure event with
          | .error error =>
              (.error (.exception (.store (.postgres error))), ⟨worker, ⟨.postgres mid, log⟩⟩)
          | .ok last => (.ok (), ⟨worker, ⟨.postgres (last.appendAll entries), log⟩⟩) := by
    rw [exec_bind, exec_recordFailure_postgres]
    cases mid.recordFailure event with
    | error error => rfl
    | ok last => exact exec_appendAll_postgres deployment worker last log fresh
  have put := exec_put_postgres deployment worker store log existing case
  cases existing with
  | none =>
      dsimp only at put ⊢
      rw [exec_bind, put]
      cases store.put none case with
      | error error => rfl
      | ok mid => exact record mid
  | some old =>
      dsimp only at put ⊢
      rw [exec_bind, put]
      cases store.put (some old) case with
      | error error => rfl
      | ok mid => exact record mid

/-- What a parsed failure leaves behind the connections. -/
theorem exec_parsed (config : AppConfig) (existing : Option RecoveryCase)
    (event : PaymentFailureEvent) (worker : Worker) (store : PostgresCaseStore)
    (log : EtcdStore Effect)
    : (exec deployment (do
        let (case, event, entries) ← handleFailure config existing event
        ExceptT.adapt storeConflict do
          match existing with
          | none => createCase case
          | some _ => updateCase case
          recordFailure event
          appendAll entries
        if existing.isNone then
          recordDistress case.instrumentId (← now)
        return (case, event)) ⟨worker, ⟨.postgres store, log⟩⟩).2.toShared
      = ⟨.postgres (store.ingest config worker.clock.view existing event), log⟩ := by
  unfold PostgresCaseStore.ingest
  rw [exec_bind, exec_handleFailure_postgres]
  cases handled : handlePaymentFailed existing event config worker.clock.view with
  | error raised => rfl
  | ok done =>
      obtain ⟨case, event', entries⟩ := done
      have fresh (entry : AuditEntry) (member : entry ∈ entries) : entry.Fresh :=
        (handlePaymentFailed_entries handled entry member).1
      let ticked : Worker := { worker with clock := worker.clock.skip 1 }
      have delivered := exec_deliver_postgres deployment ticked store log existing
        case event' fresh
      dsimp only [Except.mapError]
      rw [exec_bind, exec_adapt]
      erw [delivered]
      cases store.put existing case with
      | error error => rfl
      | ok mid =>
          dsimp only
          cases mid.recordFailure event' with
          | error error => rfl
          | ok last => cases existing <;> rfl

/-- What any failure leaves behind the connections. -/
theorem exec_ingestFailure_shared (config : AppConfig) (entity : PaymentEntity)
    (existing : Option RecoveryCase) (detail : PyError → Detail) (worker : Worker)
    (store : PostgresCaseStore) (log : EtcdStore Effect)
    : (exec deployment (ingestFailure config entity existing detail)
        ⟨worker, ⟨.postgres store, log⟩⟩).2.toShared
      = match parsePaymentFailed entity existing (store.nextAttempt existing) with
        | .error _ => ⟨.postgres store, log⟩
        | .ok event => ⟨.postgres (store.ingest config worker.clock.view existing event), log⟩ := by
  unfold ingestFailure
  cases existing with
  | none =>
      rw [exec_bind, exec_pure]
      dsimp only
      cases parsed : parsePaymentFailed entity none none with
      | error raised =>
          rw [show parsePaymentFailed entity none (store.nextAttempt none) = _ from parsed]
          rfl
      | ok event =>
          rw [show parsePaymentFailed entity none (store.nextAttempt none) = _ from parsed]
          exact exec_parsed deployment config none event worker store log
  | some case =>
      have counted
          : exec deployment (getMaxAttemptNumber case.caseId) ⟨worker, ⟨.postgres store, log⟩⟩
            = (.ok (store.getMaxAttemptNumber case.caseId), ⟨worker, ⟨.postgres store, log⟩⟩) := rfl
      rw [exec_bind, counted]
      dsimp only
      rw [exec_bind, exec_pure]
      cases parsed : parsePaymentFailed entity (some case)
          (some (store.getMaxAttemptNumber case.caseId + 1)) with
      | error raised =>
          rw [show parsePaymentFailed entity (some case) (store.nextAttempt (some case)) = _
            from parsed]
          dsimp only
          rw [parsed]
          rfl
      | ok event =>
          rw [show parsePaymentFailed entity (some case) (store.nextAttempt (some case)) = _
            from parsed]
          dsimp only
          rw [parsed]
          exact exec_parsed deployment config (some case) event worker store log

/-- A failure is ingested by the writes of its delivery, where there is one. -/
theorem exec_ingestFailure_postgres {config : AppConfig} {entity : PaymentEntity}
    {detail : PyError → Detail} {worker : Worker} {store : PostgresCaseStore}
    {log : EtcdStore Effect} (named : entity.id.getD "" ≠ "")
    (unrecorded : store.findAttemptByPaymentId (entity.id.getD "") = none)
    : let shared := (exec deployment
        (ingestFailure config entity (store.mandateCase entity.mandateId) detail)
        ⟨worker, ⟨.postgres store, log⟩⟩).2.toShared
      shared = ⟨.postgres store, log⟩ ∧ IsEmpty (store.Delivery config worker.clock.view entity)
      ∨ ∃ delivery : store.Delivery config worker.clock.view entity,
          shared = ⟨.postgres (delivery.last.appendAll delivery.entries), log⟩ := by
  dsimp only
  rw [exec_ingestFailure_shared]
  cases parsed : parsePaymentFailed entity (store.mandateCase entity.mandateId)
      (store.nextAttempt (store.mandateCase entity.mandateId)) with
  | error raised =>
      exact .inl ⟨rfl, ⟨fun delivery => by cases parsed.symm.trans delivery.parsed⟩⟩
  | ok event =>
      dsimp only
      unfold PostgresCaseStore.ingest
      cases handled : handlePaymentFailed (store.mandateCase entity.mandateId) event config
          worker.clock.view with
      | error raised =>
          refine .inl ⟨rfl, ⟨fun delivery => ?_⟩⟩
          cases parsed.symm.trans delivery.parsed
          cases handled.symm.trans delivery.handled
      | ok done =>
          obtain ⟨case, event', entries⟩ := done
          dsimp only
          cases written : store.put (store.mandateCase entity.mandateId) case with
          | error raised =>
              refine .inl ⟨rfl, ⟨fun delivery => ?_⟩⟩
              cases parsed.symm.trans delivery.parsed
              cases handled.symm.trans delivery.handled
              cases written.symm.trans delivery.written
          | ok mid =>
              have payment : entity.id.getD "" = event'.paymentId := by
                rw [(parsePaymentFailed_resolved parsed).1, handlePaymentFailed_payment handled]
                rfl
              obtain ⟨last, recorded⟩ := PostgresCaseStore.recordFailure_put written
                (payment ▸ unrecorded)
              dsimp only
              rw [recorded]
              exact .inr ⟨{ event, case, event', entries, mid, last, named, unrecorded, parsed,
                            handled, written, recorded }, rfl⟩

theorem exec_findAttemptByPaymentId_postgres (worker : Worker) (store : PostgresCaseStore)
    (log : EtcdStore Effect) (paymentId : String)
    : exec deployment (findAttemptByPaymentId paymentId) ⟨worker, ⟨.postgres store, log⟩⟩
      = (.ok (store.findAttemptByPaymentId paymentId), ⟨worker, ⟨.postgres store, log⟩⟩) := rfl

theorem exec_lookupMandate_postgres (worker : Worker) (store : PostgresCaseStore)
    (log : EtcdStore Effect) (mandateId : Option String)
    : exec deployment (lookupMandate mandateId) ⟨worker, ⟨.postgres store, log⟩⟩
      = (.ok (store.mandateCase mandateId), ⟨worker, ⟨.postgres store, log⟩⟩) := by
  unfold lookupMandate PostgresCaseStore.mandateCase
  cases mandateId with
  | none => rfl
  | some mandateId =>
      dsimp only
      split <;> rfl

/-- A failure webhook leaves the writes of its delivery, where there is one. -/
theorem exec_webhookPaymentFailed_postgres (config : AppConfig) (signed : Bool)
    (entity : PaymentEntity) (worker : Worker) (store : PostgresCaseStore)
    (log : EtcdStore Effect)
    : let shared := (exec deployment (webhookPaymentFailed config signed entity)
        ⟨worker, ⟨.postgres store, log⟩⟩).2.toShared
      shared = ⟨.postgres store, log⟩
        ∧ (signed = true → IsEmpty (store.Delivery config worker.clock.view entity))
      ∨ ∃ delivery : store.Delivery config worker.clock.view entity,
          shared = ⟨.postgres (delivery.last.appendAll delivery.entries), log⟩ := by
  dsimp only
  have looked := exec_findAttemptByPaymentId_postgres deployment worker store log
    (entity.id.getD "")
  unfold webhookPaymentFailed
  cases signed with
  | false => exact .inl ⟨rfl, by simp⟩
  | true =>
      by_cases unnamed : entity.id.getD "" = ""
      · refine .inl ⟨by simp [unnamed], fun _ => ⟨fun delivery => delivery.named unnamed⟩⟩
      cases recorded : store.findAttemptByPaymentId (entity.id.getD "") with
      | some attempt =>
          refine .inl ⟨by simp [unnamed, looked, recorded], fun _ => ⟨fun delivery => ?_⟩⟩
          cases recorded.symm.trans delivery.unrecorded
      | none =>
          have ingested := @exec_ingestFailure_postgres deployment config entity
            (fun _ => .text "Malformed webhook payload") worker store log unnamed recorded
          simp only [unnamed, looked, recorded, exec_bind, exec_lookupMandate_postgres,
            Bool.not_true, Bool.false_eq_true, if_false, exec_pure] at ingested ⊢
          rcases ran : exec deployment (ingestFailure config entity
              (store.mandateCase entity.mandateId) fun _ => .text "Malformed webhook payload")
              ⟨worker, ⟨.postgres store, log⟩⟩ with ⟨raised | done, world'⟩
          · rw [ran] at ingested
            exact ingested.imp (fun same => ⟨same.1, fun _ => same.2⟩) id
          · rw [ran] at ingested
            exact ingested.imp (fun same => ⟨same.1, fun _ => same.2⟩) id

end Handler

/-- A case with its failures and what its trail says has happened. -/
structure Evidence where
  case : Option RecoveryCase
  failures : List PaymentFailureEvent
  transitions : List (CaseState × CaseState × String)

/-- The failures recorded for a case. -/
def CaseStore.failures : CaseStore → String → List PaymentFailureEvent
  | .inMemory store, caseId => store.failures.rows.filter (·.caseId = caseId)
  | .postgres store, caseId => store.paymentFailures.rows.filter (·.caseId = caseId)

def CaseStore.evidence (store : CaseStore) (caseId : String) : Evidence where
  case := (store.view caseId).case
  failures := store.failures caseId
  transitions := (store.view caseId).trail.map (·.transition)

namespace PostgresCaseStore

variable {store mid last : PostgresCaseStore}

/-- What the trail of a case says has happened. -/
def transitions (store : PostgresCaseStore) (caseId : String)
    : List (CaseState × CaseState × String) :=
  (store.auditEntries.rows.filter (·.caseId = caseId)).map (·.transition)

/-- A fresh entry becomes the last row. -/
theorem appendAccepted_rows (store : PostgresCaseStore) {entry : AuditEntry}
    (fresh : entry.Fresh)
    : ∃ logged,
        (store.appendAccepted entry).auditEntries.rows = store.auditEntries.rows ++ [logged]
        ∧ logged.bare = entry := by
  have accepted := store.appendAudit_fresh fresh
  unfold appendAudit insertAudit at accepted
  rw [fresh.sequenceId] at accepted
  dsimp only at accepted
  obtain ⟨auditEntries, inserted, same⟩ := Option.map_eq_some_iff.mp accepted
  rw [← same]
  exact ⟨_, (Table.insert?_some inserted).2, fresh⟩

/-- What fresh entries say is added to the trails of their cases, by induction over them. -/
theorem transitions_appendAll (store : PostgresCaseStore) {entries : List AuditEntry}
    (fresh : ∀ entry ∈ entries, entry.Fresh) (caseId : String)
    : (store.appendAll entries).transitions caseId
      = store.transitions caseId ++ (entries.filter (·.caseId = caseId)).map (·.transition) := by
  induction entries generalizing store with
  | nil => simp [appendAll]
  | cons entry rest ih =>
      obtain ⟨first, later⟩ := List.forall_mem_cons.mp fresh
      obtain ⟨logged, rows, bare⟩ := store.appendAccepted_rows first
      have rest_eq := ih (store.appendAccepted entry) later
      have named : logged.caseId = entry.caseId := by
        rw [← bare]
        rfl
      have said : logged.transition = entry.transition := by
        rw [← bare]
        rfl
      have added
          : (store.appendAccepted entry).transitions caseId
            = store.transitions caseId
              ++ ([entry].filter (·.caseId = caseId)).map (·.transition) := by
        unfold transitions
        rw [rows, List.filter_append, List.map_append]
        by_cases same : entry.caseId = caseId <;> simp [named, said, same]
      rw [added, List.append_assoc, ← List.map_append, ← List.filter_append] at rest_eq
      exact rest_eq

namespace Delivery

variable {config : AppConfig} {clock clock' : Clock} {entity : PaymentEntity}
  (delivery : store.Delivery config clock entity)

/-- The payment that is recorded is the one of the payload. -/
theorem payment : entity.id.getD "" = delivery.event'.paymentId := by
  rw [(parsePaymentFailed_resolved delivery.parsed).1, handlePaymentFailed_payment delivery.handled]
  rfl

/-- The delivery could be made at another time, and any that is made then says the same. -/
theorem alike (clocks : clock.Alike clock')
    : Nonempty (store.Delivery config clock' entity)
      ∧ ∀ later : store.Delivery config clock' entity,
          later.case.caseId = delivery.case.caseId
          ∧ later.entries.map (·.transition) = delivery.entries.map (·.transition) := by
  obtain ⟨_, case', entries', handled', caseId, said⟩ :=
    handlePaymentFailed_alike delivery.handled clocks
  refine ⟨?_, fun later => ?_⟩
  · obtain ⟨mid', written'⟩ := put_ok delivery.written caseId
    obtain ⟨last', recorded'⟩ := recordFailure_put written'
      (delivery.payment ▸ delivery.unrecorded)
    exact ⟨{ delivery with
      case := case', entries := entries', mid := mid', last := last'
      handled := handled', written := written', recorded := recorded' }⟩
  · have event : later.event = delivery.event :=
      Except.ok.inj (later.parsed.symm.trans delivery.parsed)
    have done := handled'.symm.trans (event ▸ later.handled)
    simp only [Except.ok.injEq, Prod.mk.injEq] at done
    rw [← done.1, ← done.2.2]
    exact ⟨caseId, said⟩

/-- The entries are fresh ones about the case. -/
theorem entries_plain (entry : AuditEntry) (member : entry ∈ delivery.entries)
    : entry.Fresh ∧ entry.caseId = delivery.case.caseId :=
  handlePaymentFailed_entries delivery.handled entry member

theorem fresh (entry : AuditEntry) (member : entry ∈ delivery.entries) : entry.Fresh :=
  (delivery.entries_plain entry member).1

/-- They begin in the state the case was in, or with its creation. -/
theorem first
    : delivery.entries.head?.map (·.fromState)
      = some (((store.mandateCase entity.mandateId).map (·.state)).getD .received) :=
  (handlePaymentFailed_alike delivery.handled fun _ resolved found => ⟨resolved, found⟩).1

/-- A stored case that is found is the one that is written. -/
theorem found_caseId {old : RecoveryCase} (found : store.mandateCase entity.mandateId = some old)
    : delivery.case.caseId = old.caseId
      ∧ store.recoveryCases.find? old.caseId = some old := by
  have handled := delivery.handled
  rw [found] at handled
  obtain ⟨answered, left⟩ := handlePaymentFailed_existing _ _ _ handled
  have same := (handleExistingFailure_answer old config clock answered).sameCase.caseId
  rw [left] at same
  refine ⟨same, ?_⟩
  unfold mandateCase at found
  split at found
  · cases found
  split at found
  · cases found
  · exact Table.find?_of_mem (List.mem_of_find?_eq_some found)

/-- The case is stored once it is written. -/
theorem mid_case : delivery.mid.recoveryCases.find? delivery.case.caseId = some delivery.case := by
  have written := delivery.written
  cases found : store.mandateCase entity.mandateId with
  | none =>
      rw [found] at written
      simp only [put, createCase] at written
      cases inserted : store.recoveryCases.insert? delivery.case with
      | none =>
          rw [inserted] at written
          cases written
      | some recoveryCases =>
          rw [inserted] at written
          rw [← Except.ok.inj written]
          exact (Table.find?_insert inserted _).trans (if_pos rfl)
  | some old =>
      obtain ⟨same, stored⟩ := delivery.found_caseId found
      rw [found] at written
      rw [← Except.ok.inj written]
      exact (Table.find?_update _ _ _).trans (by rw [if_pos rfl, same, stored]; rfl)

theorem transitions_mid : delivery.mid.transitions = store.transitions := by
  unfold transitions
  rw [(put_kept delivery.written).2]

/-- The entries that are appended are what is added to the trail. -/
theorem transitions_taken {taken rest : List AuditEntry}
    (split : delivery.entries = taken ++ rest) (caseId : String)
    : (delivery.last.appendAll taken).transitions caseId
      = store.transitions caseId ++ (taken.filter (·.caseId = caseId)).map (·.transition) := by
  have fresh (entry : AuditEntry) (member : entry ∈ taken) : entry.Fresh :=
    delivery.fresh entry (split ▸ List.mem_append_left rest member)
  rw [transitions_appendAll _ fresh, ← delivery.transitions_mid]
  unfold transitions
  rw [(recordFailure_kept delivery.recorded).2.1]

/-- All entries are about the case, so that all of them are added to its trail. -/
theorem filter_entries {taken rest : List AuditEntry} (split : delivery.entries = taken ++ rest)
    : taken.filter (·.caseId = delivery.case.caseId) = taken := by
  refine List.filter_eq_self.mpr fun entry member => ?_
  have member : entry ∈ delivery.entries := split ▸ List.mem_append_left rest member
  simpa using (delivery.entries_plain entry member).2

end Delivery

end PostgresCaseStore

end RecoveryAgent
