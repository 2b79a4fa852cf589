import RecoveryAgent.Service.Appends
import RecoveryAgent.Service.Filing
import RecoveryAgent.Service.NextRetry

/-! What a failure delivery leaves in the in-memory store, accepted or refused.
The case is written before the payment is checked, and an outcome is counted before its
codes are classified: two ways in which a refused delivery is not without a trace.
-/

namespace RecoveryAgent

open StateMachine

namespace InMemoryCaseStore

/-- The attempt a failure of the case is given. -/
def nextAttempt (store : InMemoryCaseStore) (existing : Option RecoveryCase) : Option Nat :=
  existing.map fun case => store.getMaxAttemptNumber case.caseId + 1

/-- The first write of a delivery. -/
def put (store : InMemoryCaseStore) (existing : Option RecoveryCase) (case : RecoveryCase)
    : Except CaseStoreError InMemoryCaseStore :=
  match existing with
  | none => store.createCase case
  | some _ => store.updateCase case

/-- What the state machine leaves of a stored case when it raises. -/
def abandon (store : InMemoryCaseStore) (existing : Option RecoveryCase)
    (event : PaymentFailureEvent) (config : AppConfig) (clock : Clock)
    : InMemoryCaseStore :=
  match existing with
  | none => store
  | some case => store.mutateCase (handleExistingFailure case event config clock).case

/-- `for entry in audit_entries: store.append_audit(entry)`. -/
def appendAll (store : InMemoryCaseStore) (entries : List AuditEntry) : InMemoryCaseStore :=
  entries.foldl appendAudit store

/-- How a failure delivery ends, and the store it leaves. -/
inductive Ingested (config : AppConfig) (clock : Clock) (entity : PaymentEntity)
    (existing : Option RecoveryCase) (store : InMemoryCaseStore)
    : Except Raised (RecoveryCase × PaymentFailureEvent) → InMemoryCaseStore → Prop where
  | malformed {raised : PyError} (refusal : Raised)
      (parsed : parsePaymentFailed entity existing (store.nextAttempt existing) = .error raised)
    : Ingested config clock entity existing store (.error refusal) store
  | unhandled {event : PaymentFailureEvent} {raised : PyError} (refusal : Raised)
      (parsed : parsePaymentFailed entity existing (store.nextAttempt existing) = .ok event)
      (handled : handlePaymentFailed existing event config clock = .error raised)
    : Ingested config clock entity existing store (.error refusal)
        (store.abandon existing event config clock)
  | unwritten {event event' : PaymentFailureEvent} {case : RecoveryCase}
      {entries : List AuditEntry} {error : CaseStoreError} (refusal : Raised)
      (parsed : parsePaymentFailed entity existing (store.nextAttempt existing) = .ok event)
      (handled : handlePaymentFailed existing event config clock = .ok (case, event', entries))
      (written : store.put existing case = .error error)
    : Ingested config clock entity existing store (.error refusal) store
  /-- The payment is refused after the case has been written. -/
  | unrecorded {event event' : PaymentFailureEvent} {case : RecoveryCase}
      {entries : List AuditEntry} {mid : InMemoryCaseStore} {error : CaseStoreError}
      (refusal : Raised)
      (parsed : parsePaymentFailed entity existing (store.nextAttempt existing) = .ok event)
      (handled : handlePaymentFailed existing event config clock = .ok (case, event', entries))
      (written : store.put existing case = .ok mid)
      (recorded : mid.recordFailure event' = .error error)
    : Ingested config clock entity existing store (.error refusal) mid
  | accepted {event event' : PaymentFailureEvent} {case : RecoveryCase}
      {entries : List AuditEntry} {mid last : InMemoryCaseStore}
      (parsed : parsePaymentFailed entity existing (store.nextAttempt existing) = .ok event)
      (handled : handlePaymentFailed existing event config clock = .ok (case, event', entries))
      (written : store.put existing case = .ok mid)
      (recorded : mid.recordFailure event' = .ok last)
    : Ingested config clock entity existing store (.ok (case, event')) (last.appendAll entries)

end InMemoryCaseStore

namespace Handler

variable (deployment : Deployment)

/-- Appends in memory, by induction over the entries. -/
theorem exec_appendAll_inMemory {world : World} {store : InMemoryCaseStore}
    (inMemory : world.store = .inMemory store) (entries : List AuditEntry)
    : exec deployment (appendAll entries) world
      = (.ok (), { world with store := .inMemory (store.appendAll entries) }) := by
  induction entries generalizing world store with
  | nil =>
      obtain ⟨worker, ⟨_, log⟩⟩ := world
      cases inMemory
      rfl
  | cons entry rest ih =>
      unfold appendAll
      rw [exec_bind, exec_appendAudit_inMemory deployment entry inMemory]
      dsimp only
      rw [ih rfl]
      rfl

/-- A store call in memory leaves its store, or raises and leaves the world as it was. -/
theorem exec_orRaise_inMemory (worker : Worker) (store : InMemoryCaseStore)
    (log : EtcdStore Effect) (written : Except CaseStoreError InMemoryCaseStore)
    : exec deployment (orRaise (World.stored ⟨worker, ⟨.inMemory store, log⟩⟩
          (CaseStore.ofInMemory written)).1)
        (World.stored ⟨worker, ⟨.inMemory store, log⟩⟩ (CaseStore.ofInMemory written)).2
      = match written with
        | .error error =>
            (.error (.exception (.store (.inMemory error))), ⟨worker, ⟨.inMemory store, log⟩⟩)
        | .ok mid => (.ok (), ⟨worker, ⟨.inMemory mid, log⟩⟩) := by
  cases written <;> rfl

/-- The writes of a delivery in memory. -/
theorem exec_deliver_inMemory {world : World} {store : InMemoryCaseStore}
    (inMemory : world.store = .inMemory store) (existing : Option RecoveryCase)
    (case : RecoveryCase) (event : PaymentFailureEvent) (entries : List AuditEntry)
    : exec deployment (do
        match existing with
        | none => createCase case
        | some _ => updateCase case
        recordFailure event
        appendAll entries) world
      = match store.put existing case with
        | .error error => (.error (.exception (.store (.inMemory error))), world)
        | .ok mid =>
            match mid.recordFailure event with
            | .error error =>
                (.error (.exception (.store (.inMemory error))),
                  { world with store := .inMemory mid })
            | .ok last =>
                (.ok (), { world with store := .inMemory (last.appendAll entries) }) := by
  obtain ⟨worker, ⟨_, log⟩⟩ := world
  cases inMemory
  have create := exec_orRaise_inMemory deployment worker store log (store.createCase case)
  have update := exec_orRaise_inMemory deployment worker store log (store.updateCase case)
  have record (mid : InMemoryCaseStore)
      : exec deployment (do recordFailure event; appendAll entries) ⟨worker, ⟨.inMemory mid, log⟩⟩
        = match mid.recordFailure event with
          | .error error =>
              (.error (.exception (.store (.inMemory error))), ⟨worker, ⟨.inMemory mid, log⟩⟩)
          | .ok last => (.ok (), ⟨worker, ⟨.inMemory (last.appendAll entries), log⟩⟩) := by
    have call := exec_orRaise_inMemory deployment worker mid log (mid.recordFailure event)
    change exec deployment (recordFailure event) _ = _ at call
    rw [exec_bind, call]
    cases mid.recordFailure event with
    | error error => rfl
    | ok last => exact exec_appendAll_inMemory deployment rfl entries
  unfold InMemoryCaseStore.put
  cases existing with
  | none =>
      change exec deployment (createCase case) _ = _ at create
      dsimp only
      rw [exec_bind, create]
      cases store.createCase case with
      | error error => rfl
      | ok mid => exact record mid
  | some old =>
      change exec deployment (updateCase case) _ = _ at update
      dsimp only
      rw [exec_bind, update]
      cases store.updateCase case with
      | error error => rfl
      | ok mid => exact record mid

/-- Every failure delivery in memory ends in one of these ways. -/
theorem exec_ingestFailure_inMemory (config : AppConfig) (entity : PaymentEntity)
    (existing : Option RecoveryCase) (detail : PyError → Detail) {world : World}
    {store : InMemoryCaseStore} (inMemory : world.store = .inMemory store)
    : ∃ store',
        (exec deployment (ingestFailure config entity existing detail) world).2.store
          = .inMemory store'
        ∧ store.Ingested config world.clock.view entity existing
            (exec deployment (ingestFailure config entity existing detail) world).1 store' := by
  obtain ⟨worker, ⟨_, log⟩⟩ := world
  cases inMemory
  unfold ingestFailure
  cases existing with
  | none =>
      simp only [exec_bind, exec_pure]
      cases parsed : parsePaymentFailed entity none none with
      | error raised => exact ⟨store, rfl, .malformed _ parsed⟩
      | ok event =>
          simp only [exec_pure, handleFailure, exec_bind, exec_readClock]
          cases handled : handleNewFailure event config worker.clock.view with
          | error raised =>
              exact ⟨store, rfl, .unhandled _ parsed handled⟩
          | ok done =>
              obtain ⟨case, event', entries⟩ := done
              have run := exec_deliver_inMemory deployment
                (show (World.tick ⟨worker, ⟨.inMemory store, log⟩⟩ 1).store = .inMemory store
                  from rfl)
                none case event' entries
              simp only [exec_pure, exec_adapt] at run ⊢
              rw [run]
              cases written : store.put none case with
              | error error => exact ⟨store, rfl, .unwritten _ parsed handled written⟩
              | ok mid =>
                  dsimp only
                  cases recorded : mid.recordFailure event' with
                  | error error =>
                      exact ⟨mid, rfl, .unrecorded _ parsed handled written recorded⟩
                  | ok last =>
                      exact ⟨_, rfl, .accepted parsed handled written recorded⟩
  | some case =>
      have attempts
          : exec deployment (getMaxAttemptNumber case.caseId) ⟨worker, ⟨.inMemory store, log⟩⟩
          = (.ok (store.getMaxAttemptNumber case.caseId), ⟨worker, ⟨.inMemory store, log⟩⟩) := rfl
      simp only [exec_bind, attempts, exec_pure]
      cases parsed : parsePaymentFailed entity (some case)
          (some (store.getMaxAttemptNumber case.caseId + 1)) with
      | error raised => exact ⟨store, rfl, .malformed _ parsed⟩
      | ok event =>
          simp only [exec_pure, handleFailure, exec_bind, exec_readClock]
          have failed : handlePaymentFailed (some case) event config worker.clock.view
              = (handleExistingFailure case event config worker.clock.view).result.map
                fun answer =>
                  ((handleExistingFailure case event config worker.clock.view).case,
                    answer.1, answer.2) := rfl
          cases handled : (handleExistingFailure case event config worker.clock.view).result with
          | error raised =>
              rw [handled] at failed
              exact ⟨_, rfl, .unhandled _ parsed failed⟩
          | ok done =>
              rw [handled] at failed
              obtain ⟨event', entries⟩ := done
              generalize (handleExistingFailure case event config worker.clock.view).case = case'
                at failed ⊢
              have run := exec_deliver_inMemory deployment
                (show (World.tick ⟨worker, ⟨.inMemory store, log⟩⟩ 1).store = .inMemory store
                  from rfl)
                (some case) case' event' entries
              simp only [exec_pure, exec_adapt] at run ⊢
              rw [run]
              cases written : store.put (some case) case' with
              | error error => exact ⟨store, rfl, .unwritten _ parsed failed written⟩
              | ok mid =>
                  dsimp only
                  cases recorded : mid.recordFailure event' with
                  | error error =>
                      exact ⟨mid, rfl, .unrecorded _ parsed failed written recorded⟩
                  | ok last =>
                      exact ⟨_, rfl, .accepted parsed failed written recorded⟩

end Handler

namespace InMemoryCaseStore

variable {store mid : InMemoryCaseStore}

/-- The next attempt of a case is free. -/
theorem find?_nextAttempt (store : InMemoryCaseStore) (caseId : String)
    : store.failures.find? (caseId, store.getMaxAttemptNumber caseId + 1) = none := by
  cases found : store.failures.find? (caseId, store.getMaxAttemptNumber caseId + 1) with
  | none => rfl
  | some event =>
      have attempt := Table.find?_key found
      simp only [PaymentFailureEvent.attempt, Prod.mk.injEq] at attempt
      have listed : event.attemptNumber
          ∈ (store.failures.rows.filter (·.caseId = caseId)).map (·.attemptNumber) :=
        List.mem_map_of_mem
          (List.mem_filter.mpr ⟨Table.mem_of_find? found, by simpa using attempt.1⟩)
      have bound : event.attemptNumber ≤ store.getMaxAttemptNumber caseId :=
        le_foldl_max (.inr listed)
      omega

/-- A case without a row has no failures. -/
theorem Filed.find?_unopened (filed : store.Filed) {caseId : String}
    (absent : store.cases.find? caseId = none) (attemptNumber : Nat)
    : store.failures.find? (caseId, attemptNumber) = none := by
  cases found : store.failures.find? (caseId, attemptNumber) with
  | none => rfl
  | some event =>
      have attempt := Table.find?_key found
      simp only [PaymentFailureEvent.attempt, Prod.mk.injEq] at attempt
      have owner := filed.owners event (Table.mem_of_find? found)
      rw [attempt.1] at owner
      exact absurd absent owner

/-- A failure of a free attempt is refused exactly when its payment is recorded. -/
theorem recordFailure_error_iff {event : PaymentFailureEvent}
    (free : store.failures.find? event.attempt = none)
    : (∃ error, store.recordFailure event = .error error)
      ↔ store.findAttemptByPaymentId event.paymentId ≠ none := by
  unfold recordFailure findAttemptByPaymentId
  cases inserted : store.failures.insert? event with
  | none =>
      obtain ⟨old, found⟩ := Table.insert?_eq_none_iff.mp inserted
      rw [free] at found
      cases found
  | some failures => cases store.paymentAttemptIndex event.paymentId <;> simp

/-- The first write of a delivery touches neither failures nor payments. -/
theorem put_payments {existing : Option RecoveryCase} {case : RecoveryCase}
    (written : store.put existing case = .ok mid)
    : mid.failures = store.failures
      ∧ mid.findAttemptByPaymentId = store.findAttemptByPaymentId := by
  unfold put at written
  cases existing with
  | none =>
      simp only [createCase] at written
      split at written
      · cases written
      split at written <;> cases written
      exact ⟨rfl, rfl⟩
  | some old =>
      simp only [updateCase] at written
      split at written <;> cases written
      exact ⟨rfl, rfl⟩

/-- The outcome of a retry comes with codes that cannot be classified. -/
def OutcomeUnclassified (config : AppConfig) (entity : PaymentEntity)
    (existing : Option RecoveryCase) (store : InMemoryCaseStore)
    : Prop :=
  ∃ case event raised,
    existing = some case ∧ case.state = .retryExecuted
    ∧ parsePaymentFailed entity existing (store.nextAttempt existing) = .ok event
    ∧ classifyFailure config event.reasonCode event.errorReason = .error raised

/-- A failure of a payment that is recorded would move its case, or open one. -/
def PaymentTaken (config : AppConfig) (clock : Clock) (entity : PaymentEntity)
    (existing : Option RecoveryCase) (store : InMemoryCaseStore)
    : Prop :=
  ∃ event,
    parsePaymentFailed entity existing (store.nextAttempt existing) = .ok event
    ∧ store.findAttemptByPaymentId event.paymentId ≠ none
    ∧ match existing with
      | some case => case.state = .controlHeld ∨ case.state = .retryExecuted
      | none =>
          ∃ case event' entries created,
            handleNewFailure event config clock = .ok (case, event', entries)
            ∧ store.createCase case = .ok created

/-- Such codes make the state machine raise. -/
theorem handled_unclassified {config : AppConfig} {clock : Clock} {case : RecoveryCase}
    {event : PaymentFailureEvent} {raised : PyError} (executed : case.state = .retryExecuted)
    (unclassified : classifyFailure config event.reasonCode event.errorReason = .error raised)
    : handlePaymentFailed (some case) event config clock = .error raised := by
  simp only [handlePaymentFailed, handleExistingFailure]
  rw [if_neg (by simp [executed]), if_neg (by simp [executed]), unclassified]
  rfl

/-- The attempt a delivery records is free, whether its case is stored or new. -/
theorem Filed.free (filed : store.Filed) {config : AppConfig} {clock : Clock}
    {entity : PaymentEntity} {existing : Option RecoveryCase} {case : RecoveryCase}
    {event event' : PaymentFailureEvent} {entries : List AuditEntry}
    (parsed : parsePaymentFailed entity existing (store.nextAttempt existing) = .ok event)
    (handled : handlePaymentFailed existing event config clock = .ok (case, event', entries))
    (written : store.put existing case = .ok mid)
    : mid.failures.find? event'.attempt = none ∧ event'.paymentId = event.paymentId := by
  have resolved := (parsePaymentFailed_resolved parsed).2
  rw [(put_payments written).1]
  cases existing with
  | none =>
      have opened : handleNewFailure event config clock = .ok (case, event', entries) := handled
      have renamed := handleNewFailure_event opened
      have caseId := (handleNewFailure_opened opened).caseId
      have absent := (filed.createCase (show store.createCase case = .ok mid from written)).2.1
      rw [renamed]
      refine ⟨?_, rfl⟩
      rw [caseId] at absent
      exact filed.find?_unopened absent event.attemptNumber
  | some old =>
      have renamed := handleExistingFailure_event (handlePaymentFailed_existing _ _ _ handled).1
      simp only [nextAttempt, Option.map_some, resolveAttempt, Except.ok.injEq,
        Prod.mk.injEq] at resolved
      rw [renamed]
      refine ⟨?_, rfl⟩
      have free := store.find?_nextAttempt old.caseId
      simp only [PaymentFailureEvent.attempt, ← resolved.1, ← resolved.2]
      exact free

/-- A counted case is another case. -/
theorem mutateCase_counted_ne {case : RecoveryCase}
    (stored : store.cases.find? case.caseId = some case)
    : store.mutateCase { case with retriesUsed := case.retriesUsed + 1 } ≠ store := by
  intro same
  have row := congrArg (fun store => store.cases.find? case.caseId) same
  simp only [mutateCase] at row
  rw [Table.find?_update, if_pos rfl, stored] at row
  have retries := congrArg RecoveryCase.retriesUsed (Option.some.inj row)
  simp at retries

/-- A refused delivery leaves the store as it was, except in these two cases. -/
theorem Ingested.untraced_iff {config : AppConfig} {clock : Clock} {entity : PaymentEntity}
    {existing : Option RecoveryCase} {result : Except Raised (RecoveryCase × PaymentFailureEvent)}
    {store' : InMemoryCaseStore}
    (ingested : Ingested config clock entity existing store result store')
    (filed : store.Filed)
    (stored : ∀ case, existing = some case → store.cases.find? case.caseId = some case)
    : ((∃ raised, result = .error raised) → store' = store)
      ↔ ¬ (OutcomeUnclassified config entity existing store
        ∨ PaymentTaken config clock entity existing store) := by
  cases ingested with
  | malformed refusal parsed =>
      refine iff_of_true (fun _ => rfl) fun traced => ?_
      rcases traced with ⟨_, _, _, _, _, ok, _⟩ | ⟨_, ok, _⟩ <;>
      · rw [parsed] at ok
        cases ok
  | @unhandled event raised refusal parsed handled =>
      cases existing with
      | none =>
          refine iff_of_true (fun _ => rfl) fun traced => ?_
          rcases traced with ⟨_, _, _, absent, _⟩ | ⟨_, ok, _, _, _, _, _, opened, _⟩
          · cases absent
          · rw [parsed] at ok
            cases ok
            rw [show handleNewFailure event config clock = _ from handled] at opened
            cases opened
      | some case =>
          have failed : (handleExistingFailure case event config clock).result = .error raised := by
            simp only [handlePaymentFailed] at handled
            cases result : (handleExistingFailure case event config clock).result with
            | ok done => rw [result] at handled; cases handled
            | error other => rw [result] at handled; cases handled; rfl
          obtain ⟨executed, counted, unclassified⟩
            := handleExistingFailure_raised case config clock failed
          have here := stored case rfl
          refine iff_of_false (fun kept => ?_) (not_not.mpr (.inl
            ⟨case, event, raised, rfl, executed, parsed, unclassified⟩))
          have same := kept ⟨_, rfl⟩
          simp only [abandon, counted] at same
          exact mutateCase_counted_ne here same
  | unwritten refusal parsed handled written =>
      cases existing with
      | none =>
          refine iff_of_true (fun _ => rfl) fun traced => ?_
          rcases traced with ⟨_, _, _, absent, _⟩ | ⟨_, ok, _, _, _, _, _, opened, created⟩
          · cases absent
          · rw [parsed] at ok
            cases ok
            rw [show handleNewFailure _ config clock = _ from handled] at opened
            cases opened
            rw [show store.createCase _ = _ from written] at created
            cases created
      | some case =>
          have same := (handleExistingFailure_answer case config clock
            (handlePaymentFailed_existing _ _ _ handled).1).sameCase
          rw [(handlePaymentFailed_existing _ _ _ handled).2] at same
          have updated := filed.updateCase (same.caseId ▸ stored case rfl) same.mandateId.symm
          rw [show store.updateCase _ = _ from written] at updated
          cases updated
  | @unrecorded event event' case entries _ error refusal parsed handled written recorded =>
      obtain ⟨free, payment⟩ := filed.free parsed handled written
      have taken := (recordFailure_error_iff free).mp ⟨error, recorded⟩
      rw [(put_payments written).2, payment] at taken
      cases existing with
      | none =>
          have created : store.createCase case = .ok store' := written
          obtain ⟨_, absent, found⟩ := filed.createCase created
          refine iff_of_false (fun kept => ?_) (not_not.mpr (.inr
            ⟨event, parsed, taken, case, event', entries, store', handled, created⟩))
          have row := found case.caseId
          rw [kept ⟨_, rfl⟩, absent, if_pos rfl] at row
          cases row
      | some old =>
          have here := stored old rfl
          obtain ⟨answered, left⟩ := handlePaymentFailed_existing _ _ _ handled
          have same := (handleExistingFailure_answer old config clock answered).sameCase
          have moves := handleExistingFailure_moves _ _ _ answered
          rw [left] at same moves
          have updated := filed.updateCase (same.caseId ▸ here) same.mandateId.symm
          rw [show store.updateCase case = .ok store' from written] at updated
          cases updated
          rcases moves with ⟨moving, moved⟩ | ⟨resting, still⟩
          · refine iff_of_false (fun kept => ?_)
              (not_not.mpr (.inr ⟨event, parsed, taken, moving⟩))
            have row := congrArg (fun store => store.cases.find? old.caseId) (kept ⟨_, rfl⟩)
            simp only [Table.find?_update, same.caseId, here] at row
            exact moved (congrArg RecoveryCase.state (Option.some.inj row))
          · refine iff_of_true (fun _ => ?_) fun traced => ?_
            · rw [still, Table.update_of_mem (Table.mem_of_find? here)]
            · rcases traced with ⟨_, _, _, existing, executed, _⟩ | ⟨_, _, _, moving⟩
              · cases existing
                exact resting (.inr executed)
              · exact resting moving
  | accepted parsed handled written recorded =>
      obtain ⟨free, payment⟩ := filed.free parsed handled written
      refine iff_of_true (fun refused => ?_) fun traced => ?_
      · obtain ⟨_, absurd⟩ := refused
        cases absurd
      rcases traced with ⟨case, _, raised, existing, executed, ok, unclassified⟩ | ⟨_, ok, taken, _⟩
      · rw [parsed] at ok
        cases ok
        cases existing
        rw [handled_unclassified executed unclassified] at handled
        cases handled
      · rw [parsed] at ok
        cases ok
        rw [← payment, ← (put_payments written).2] at taken
        obtain ⟨error, refused⟩ := (recordFailure_error_iff free).mpr taken
        rw [recorded] at refused
        cases refused

end InMemoryCaseStore

-----------------------------------------------------------------------------------------
-- Failure requests
-----------------------------------------------------------------------------------------

/-- The stored case of a mandate; an empty mandate counts as none. -/
def InMemoryCaseStore.mandateCase (store : InMemoryCaseStore)
    : Option String → Option RecoveryCase
  | none => none
  | some mandateId => if mandateId = "" then none else store.findCaseByMandate mandateId

/-- The request is one of those that are refused too late: a webhook with codes that cannot
be classified on the outcome of a retry, or a simulated failure of a recorded payment that
moves or opens a case.
-/
def FailureDelivery.RefusedLate (config : AppConfig) (clock : Clock)
    (store : InMemoryCaseStore)
    : FailureDelivery → Prop
  | .webhook signed entity =>
      signed = true ∧ entity.id.getD "" ≠ ""
      ∧ store.findAttemptByPaymentId (entity.id.getD "") = none
      ∧ store.OutcomeUnclassified config entity (store.mandateCase entity.mandateId)
  | .simulated request =>
      config.profileName = .demo
      ∧ store.PaymentTaken config clock request.entity (store.mandateCase request.mandateId)

theorem Handler.exec_lookupMandate_inMemory (deployment : Deployment) {world : World}
    {store : InMemoryCaseStore} (inMemory : world.store = .inMemory store)
    (mandateId : Option String)
    : exec deployment (lookupMandate mandateId) world
      = (.ok (store.mandateCase mandateId), world) := by
  obtain ⟨worker, ⟨_, log⟩⟩ := world
  cases inMemory
  unfold lookupMandate InMemoryCaseStore.mandateCase
  cases mandateId with
  | none => rfl
  | some mandateId =>
      dsimp only
      split <;> rfl

/-- A case found by its mandate is stored under its id. -/
theorem InMemoryCaseStore.mandateCase_stored {store : InMemoryCaseStore}
    {mandateId : Option String} {case : RecoveryCase}
    (found : store.mandateCase mandateId = some case)
    : store.cases.find? case.caseId = some case := by
  unfold mandateCase at found
  cases mandateId with
  | none => cases found
  | some mandateId =>
      dsimp only at found
      split at found
      · cases found
      · exact @CaseStore.findCaseByMandate_view (.inMemory store) mandateId case found

/-- A delivery that reaches the store is refused without a trace exactly outside the two
cases.
-/
theorem Handler.exec_ingested_untraced (deployment : Deployment) {world : World}
    {store : InMemoryCaseStore} (inMemory : world.store = .inMemory store)
    (filed : store.Filed) (entity : PaymentEntity) (mandateId : Option String)
    (detail : PyError → Detail) {α : Type} (result : RecoveryCase × PaymentFailureEvent → α)
    : let served := exec deployment (do
        let ingested ← ingestFailure deployment.config entity (store.mandateCase mandateId) detail
        pure (result ingested)) world
      ((∃ raised, served.1 = .error raised) → served.2.store = world.store)
      ↔ ¬ (store.OutcomeUnclassified deployment.config entity (store.mandateCase mandateId)
        ∨ store.PaymentTaken deployment.config world.clock.view entity
          (store.mandateCase mandateId)) := by
  obtain ⟨store', left, ingested⟩ := exec_ingestFailure_inMemory deployment deployment.config
    entity (store.mandateCase mandateId) detail inMemory
  rw [← ingested.untraced_iff filed fun case found =>
    InMemoryCaseStore.mandateCase_stored found]
  dsimp only
  rw [exec_bind]
  rcases ran : exec deployment
      (ingestFailure deployment.config entity (store.mandateCase mandateId) detail) world
    with ⟨ended | done, world'⟩
  · rw [ran] at left
    have left : world'.store = .inMemory store' := left
    simp [left, inMemory]
  · simp

theorem Handler.exec_findAttemptByPaymentId_inMemory (deployment : Deployment) {world : World}
    {store : InMemoryCaseStore} (inMemory : world.store = .inMemory store) (paymentId : String)
    : exec deployment (findAttemptByPaymentId paymentId) world
      = (.ok (store.findAttemptByPaymentId paymentId), world) := by
  obtain ⟨worker, ⟨_, log⟩⟩ := world
  cases inMemory
  rfl

/-- A signed webhook with a payment that is not recorded is ingested. -/
theorem Handler.exec_webhookPaymentFailed_new (deployment : Deployment) {world : World}
    {store : InMemoryCaseStore} (inMemory : world.store = .inMemory store)
    {entity : PaymentEntity} (named : entity.id.getD "" ≠ "")
    (fresh : store.findAttemptByPaymentId (entity.id.getD "") = none)
    : exec deployment (webhookPaymentFailed deployment.config true entity) world
      = exec deployment (do
          let ingested ← ingestFailure deployment.config entity
            (store.mandateCase entity.mandateId) (fun _ => .text "Malformed webhook payload")
          pure { Response.ofCase ingested.1 with paymentId := some ingested.2.paymentId })
          world := by
  simp only [webhookPaymentFailed, named, exec_bind,
    exec_findAttemptByPaymentId_inMemory deployment inMemory, fresh,
    exec_lookupMandate_inMemory deployment inMemory, Bool.not_true, Bool.false_eq_true, if_false,
    exec_pure]

/-- A webhook with a recorded payment, or refused before that is looked up, writes nothing. -/
theorem Handler.exec_webhookPaymentFailed_known (deployment : Deployment) {world : World}
    {store : InMemoryCaseStore} (inMemory : world.store = .inMemory store) (signed : Bool)
    {entity : PaymentEntity}
    (known
      : signed = false ∨ entity.id.getD "" = ""
        ∨ store.findAttemptByPaymentId (entity.id.getD "") ≠ none)
    : (exec deployment (webhookPaymentFailed deployment.config signed entity) world).2 = world
      ∧ ∀ response,
          (exec deployment (webhookPaymentFailed deployment.config signed entity) world).1
            = .ok response
          → response.status = "duplicate" := by
  have looked := exec_findAttemptByPaymentId_inMemory deployment inMemory (entity.id.getD "")
  unfold webhookPaymentFailed
  cases signed with
  | false => exact ⟨rfl, by simp⟩
  | true =>
      by_cases unnamed : entity.id.getD "" = ""
      · simp [unnamed]
      cases recorded : store.findAttemptByPaymentId (entity.id.getD "") with
      | none => simp [unnamed, recorded] at known
      | some attempt => simp +contextual [unnamed, looked, recorded, eq_comm]

/-- A refused delivery through the webhook. -/
theorem FailureDelivery.webhook_untraced_iff (deployment : Deployment) {world : World}
    {store : InMemoryCaseStore} (inMemory : world.store = .inMemory store)
    (filed : store.Filed) (signed : Bool) (entity : PaymentEntity)
    : let served := Handler.exec deployment
        (Handler.webhookPaymentFailed deployment.config signed entity) world
      ((∃ raised, served.1 = .error raised) → served.2.store = world.store)
      ↔ ¬ FailureDelivery.RefusedLate deployment.config world.clock.view store
          (.webhook signed entity) := by
  intro served
  unfold RefusedLate
  by_cases known
    : signed = false ∨ entity.id.getD "" = ""
      ∨ store.findAttemptByPaymentId (entity.id.getD "") ≠ none
  · refine iff_of_true (fun _ => ?_) fun late => ?_
    · exact congrArg (·.store)
        (Handler.exec_webhookPaymentFailed_known deployment inMemory signed known).1
    · obtain ⟨rfl, named, fresh, _⟩ := late
      simp [named, fresh] at known
  simp only [not_or, not_not, Bool.not_eq_false] at known
  obtain ⟨rfl, named, fresh⟩ := known
  have untraced := Handler.exec_ingested_untraced deployment inMemory filed entity
    entity.mandateId (fun _ => .text "Malformed webhook payload") fun ingested =>
      { Response.ofCase ingested.1 with paymentId := some ingested.2.paymentId }
  have ingests : served = _ :=
    Handler.exec_webhookPaymentFailed_new deployment inMemory named fresh
  rw [ingests]
  refine untraced.trans (not_congr ⟨fun late => ?_, fun late => .inl late.2.2.2⟩)
  rcases late with unclassified | ⟨event, parsed, taken, _⟩
  · exact ⟨rfl, named, fresh, unclassified⟩
  · have payment := (parsePaymentFailed_resolved parsed).1
    rw [payment, Option.getD_some] at fresh
    exact absurd fresh taken

/-- A refused delivery through the simulation endpoint. -/
theorem FailureDelivery.simulated_untraced_iff (deployment : Deployment) {world : World}
    {store : InMemoryCaseStore} (inMemory : world.store = .inMemory store)
    (filed : store.Filed) (request : Handler.SimulateFailureRequest)
    : let served := Handler.exec deployment
        (Handler.simulateFailure deployment.config request) world
      ((∃ raised, served.1 = .error raised) → served.2.store = world.store)
      ↔ ¬ FailureDelivery.RefusedLate deployment.config world.clock.view store
          (.simulated request) := by
  intro served
  unfold RefusedLate
  by_cases demo : deployment.config.profileName = .demo
  swap
  · refine iff_of_true (fun _ => ?_) fun late => demo late.1
    simp [served, Handler.simulateFailure, demo]
  have served_eq : served = Handler.exec deployment (do
      let ingested ← Handler.ingestFailure deployment.config request.entity
        (store.mandateCase request.mandateId) (fun raised => .ofException (.python raised))
      pure (Response.ofCase ingested.1)) world := by
    simp only [served, Handler.simulateFailure, demo, Handler.exec_bind,
      Handler.exec_lookupMandate_inMemory deployment inMemory, ne_eq, not_true_eq_false, if_false,
      Handler.exec_pure]
  have untraced := Handler.exec_ingested_untraced deployment inMemory filed request.entity
    request.mandateId (fun raised => .ofException (.python raised)) fun ingested =>
      Response.ofCase ingested.1
  rw [served_eq]
  refine untraced.trans (not_congr ⟨fun late => ?_, fun late => .inr late.2⟩)
  rcases late with ⟨_, event, raised, _, _, parsed, unclassified⟩ | taken
  · obtain ⟨code, reason⟩ := Handler.parsePaymentFailed_codes parsed
    obtain ⟨_, classified⟩ := classifyFailure_ok deployment.config request.codes.1 request.codes.2
    rw [code, reason] at unclassified
    rw [show classifyFailure deployment.config (request.entity.errorCode.getD (.str ""))
      request.entity.errorReason = _ from classified] at unclassified
    cases unclassified
  · exact ⟨demo, taken⟩

/-- In every reachable in-memory store, a refused failure request leaves everything as it was
exactly when it is not one of those refused late.
-/
theorem rejected_untraced_iff (deployment : Deployment) (clock : ServiceClock)
    (activities : List Activity) (delivery : FailureDelivery)
    : let world := activities.foldl (World.act deployment) (World.start false clock)
      let served := Handler.exec deployment (delivery.request.handler deployment) world
      ∃ store,
        world.store = .inMemory store
        ∧ (((∃ raised, served.1 = .error raised) → served.2.store = world.store)
          ↔ ¬ delivery.RefusedLate deployment.config world.clock.view store) := by
  intro world served
  obtain ⟨store, inMemory⟩ := World.inMemory_run deployment clock activities
  have filed := World.filed_run deployment false clock activities store inMemory
  refine ⟨store, inMemory, ?_⟩
  cases delivery with
  | webhook signed entity =>
      exact FailureDelivery.webhook_untraced_iff deployment inMemory filed signed entity
  | simulated request =>
      exact FailureDelivery.simulated_untraced_iff deployment inMemory filed request

/-- A simulated failure of a payment without a mandate. -/
def unmandated (paymentId : String) : Handler.SimulateFailureRequest where
  paymentId := paymentId
  amountPaise := 50000
  vpa := "a@upi"
  errorCode := "upi_timeout"
  createdAt := 1788580800
  amountPaise_pos := fiveHundredRupees_pos

/-- Two failures on one mandate: the second payment is the second attempt of the first's case. -/
def twoFailures : List Activity := [
  .served (.request (timeout "pay_2")),
  .served (.request (timeout "pay_3"))]

/-- A request was refused, and there is a case that was not there before. -/
def refusedWithCase (caseId : String) (before : World) (served : Except Raised Response × World)
    : Bool :=
  !served.1.isOk
    && (before.store.view caseId).case.isNone
    && (served.2.store.view caseId).case.isSome

/-- A refused failure request can leave a trace. Witness: the second payment simulated again
without its mandate, which opens a case before the payment is found to be recorded.
-/
theorem rejected_not_untraced
    : ¬ ∀ (deployment : Deployment) (clock : ServiceClock) (activities : List Activity)
        (delivery : FailureDelivery),
        let world := activities.foldl (World.act deployment) (World.start false clock)
        let served := Handler.exec deployment (delivery.request.handler deployment) world
        (∃ raised, served.1 = .error raised) → served.2.store = world.store := by
  intro claimed
  have kept := claimed demoDeployment demoClock twoFailures (.simulated (unmandated "pay_3"))
  have traced
      : refusedWithCase "pay_3"
          (twoFailures.foldl (World.act demoDeployment) (.start false demoClock))
          (Handler.exec demoDeployment (Handler.simulateFailure demoDeployment.config
            (unmandated "pay_3"))
            (twoFailures.foldl (World.act demoDeployment) (.start false demoClock))) = true := by
    decide +kernel
  generalize twoFailures.foldl (World.act demoDeployment) (.start false demoClock) = world
    at kept traced
  dsimp only [FailureDelivery.request, Request.handler] at kept
  generalize Handler.exec demoDeployment (Handler.simulateFailure demoDeployment.config
    (unmandated "pay_3")) world = served at kept traced
  obtain ⟨result, world'⟩ := served
  unfold refusedWithCase at traced
  cases result with
  | ok response => cases traced
  | error raised =>
      rw [show world'.store = world.store from kept ⟨raised, rfl⟩] at traced
      cases stored : (world.store.view "pay_3").case <;> simp [stored] at traced

end RecoveryAgent
