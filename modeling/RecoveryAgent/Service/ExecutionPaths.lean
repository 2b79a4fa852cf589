import RecoveryAgent.Service.NextRetry

/-! The two ways to execute a retry, compared.
The service commits an effect and applies it to the case; the state machine has an operation of
its own for the same step, which also marks the decision as executed. The service writes the
decision back as it was.
-/

namespace RecoveryAgent

open StateMachine

namespace Handler

/-- `attempt_execution` under an approving backend, with its results persisted. -/
def persistAttempt (case : RecoveryCase) (decision : RetryDecision) : Handler Unit := do
  let clock ← readClock 1
  match attemptExecution case decision (fun _ => .ok true) clock with
  | .error raised => throw (.exception (.python raised))
  | .ok ((case, decision, entries), _) => do
      updateCase case
      appendAll entries
      updateRetryDecision decision

/-- The state machine's path moves the case, with one entry, and marks the decision. -/
theorem exec_persistAttempt (deployment : Deployment) {world : World} {caseId : String}
    {case : RecoveryCase} (stored : (world.view caseId).case = some case)
    (scheduled : case.state = .retryScheduled) {decision : RetryDecision}
    (recorded : decision ∈ (world.view caseId).decisions)
    : (exec deployment (persistAttempt case decision) world).2.view caseId
      = {
          case := some { case with state := .retryExecuted }
          decisions := (world.view caseId).decisions.map fun old =>
            if old.attemptNumber = decision.attemptNumber then
              { decision with executedAt := some (world.clock.reading 0) }
            else old
          trail := (world.view caseId).trail
            ++ [audit caseId .retryScheduled .retryExecuted "commit_approved"
              (world.clock.reading 0)]
          committed := (world.view caseId).committed
        } := by
  have id_eq := CaseStore.view_caseId stored
  subst id_eq
  generalize reads : world.clock.reading 0 = now
  have owned : decision.caseId = case.caseId := CaseStore.view_decisions_caseId recorded
  obtain ⟨first, updated, overwrote⟩ := @exec_updateCase deployment (world.tick 1)
    { case with state := .retryExecuted } case stored
  obtain ⟨second, logged, appended, bare, added⟩ := @exec_appendAll deployment first case.caseId
    [audit case.caseId .retryScheduled .retryExecuted "commit_approved" now]
    (by simp [AuditEntry.Fresh, AuditEntry.bare, audit])
  have wrote := overwrote.trans added
  have kept : decision ∈ (second.store.view case.caseId).decisions := by
    rw [wrote.view_eq, overwrote.view_eq]
    exact recorded
  obtain ⟨last, replaced, marked⟩ := @exec_replaceRetryDecision deployment second
    { decision with executedAt := some now } decision (owned ▸ kept) rfl
  have attempted : attemptExecution case decision (fun _ => .ok true) world.clock.view
      = .ok (executed case decision now, true) := by
    simp [attemptExecution, scheduled, ← reads]
    rfl
  have run : exec deployment (persistAttempt case decision) world = (.ok (), last) := by
    unfold persistAttempt
    rw [exec_bind, exec_readClock]
    dsimp only
    rw [attempted]
    simp only [executed, exec_bind, updated, appended, replaced]
  have left := wrote.trans (owned ▸ marked)
  have after := left.view_eq
  have before : second.store.view case.caseId = _ := wrote.view_eq
  have earlier : first.store.view case.caseId = _ := overwrote.view_eq
  have log : last.log = world.log := left.log
  rw [run]
  simp only [World.view, after, log, owned, before, earlier, World.tick_store, List.map_append,
    bare]

end Handler

/-- Marking a stored decision as executed changes nothing exactly if it is marked already, since
an attempt has one decision.
-/
theorem CaseStore.marked_iff {store : CaseStore} {caseId : String} {decision : RetryDecision}
    {executedAt : Option Datetime} (recorded : decision ∈ (store.view caseId).decisions)
    : (store.view caseId).decisions
          = (store.view caseId).decisions.map (fun old =>
              if old.attemptNumber = decision.attemptNumber then { decision with executedAt }
              else old)
        ↔ decision.executedAt = executedAt := by
  constructor
  · intro same
    have each := List.map_inj_left.mp ((List.map_id _).trans same) decision recorded
    rw [if_pos rfl] at each
    exact congrArg RetryDecision.executedAt each
  · rintro rfl
    conv_lhs => rw [← List.map_id (store.view caseId).decisions]
    refine List.map_congr_left fun old member => ?_
    split
    · next attempt =>
        exact List.inj_on_of_nodup_map (store.view_decisions_unique caseId) member recorded attempt
    · rfl

/-- The transition of an entry, and when it was made. -/
def AuditEntry.move (entry : AuditEntry) : CaseState × CaseState × Datetime :=
  (entry.fromState, entry.toState, entry.timestamp)

/-- Two stores hold the same record and decisions of a case, and the same transitions. -/
structure SameRecords (caseId : String) (live model : World) : Prop where
  case : (live.view caseId).case = (model.view caseId).case
  decisions : (live.view caseId).decisions = (model.view caseId).decisions
  moves : (live.view caseId).trail.map (·.move) = (model.view caseId).trail.map (·.move)

/-- The endpoint gets to its commit: it is enabled, the instrument is not distressed and the
decision in front of the case's pending ones is due.
-/
structure GetsToCommit (deployment : Deployment) (world : World) (caseId : String)
    (case : RecoveryCase)
    : Prop where
  demo : deployment.config.profileName = .demo
  calm : world.distress.isDistressed case.instrumentId (world.clock.reading 0) = false
  due
    : ∃ first,
        (world.view caseId).pending.head? = some first
        ∧ first.scheduledAt ≤ world.clock.reading 1

/-- The live path agrees with the state machine's exactly if it gets to its commit and the stored
decision is already marked with the time of this execution: it never marks one itself. The
state machine's path is taken at that time, which is the fourth the endpoint reads.
-/
theorem executeRetry_agrees_iff {deployment : Deployment} (etcd : deployment.useEtcd = true)
    {world : World} (sound : SoundLog world.log) (caseId : Handler.PathSegment)
    {case : RecoveryCase} (stored : (world.view caseId.text).case = some case)
    (scheduled : case.state = .retryScheduled) {decision : RetryDecision}
    (recorded : decision ∈ (world.view caseId.text).decisions)
    : SameRecords caseId.text
          (Handler.exec deployment (Handler.executeRetry deployment caseId) world).2
          (Handler.exec deployment (Handler.persistAttempt case decision) (world.tick 3)).2
      ↔ GetsToCommit deployment world caseId.text case
        ∧ decision.executedAt = some (world.clock.reading 3) := by
  have model := @Handler.exec_persistAttempt deployment (world.tick 3) caseId.text case stored
    scheduled decision recorded
  simp only [World.tick_view, World.tick_clock, ServiceClock.reading_skip, Nat.add_zero] at model
  have marks := @CaseStore.marked_iff world.store caseId.text decision
    (some (world.clock.reading 3)) recorded
  have agrees {live : World}
      (executed
        : live.view caseId.text
          = { Handler.executedView (world.view caseId.text) case (world.clock.reading 3) with
              committed := (live.view caseId.text).committed })
      : SameRecords caseId.text live
          (Handler.exec deployment (Handler.persistAttempt case decision) (world.tick 3)).2
        ↔ decision.executedAt = some (world.clock.reading 3) := by
    rw [← marks]
    constructor
    · rintro ⟨_, same, _⟩
      rw [executed, model] at same
      exact same
    · intro same
      refine ⟨?_, ?_, ?_⟩
      · rw [executed, model]
        rfl
      · rw [executed, model]
        exact same
      · rw [executed, model]
        simp [Handler.executedView, AuditEntry.move, Handler.effectApplied]
  have idle (blocked : ¬ GetsToCommit deployment world caseId.text case) {live : World}
      (moved : (live.view caseId.text).case ≠ some { case with state := .retryExecuted })
      : SameRecords caseId.text live
            (Handler.exec deployment (Handler.persistAttempt case decision) (world.tick 3)).2
        ↔ GetsToCommit deployment world caseId.text case
          ∧ decision.executedAt = some (world.clock.reading 3) := by
    refine iff_of_false (fun same => moved ?_) fun both => blocked both.1
    rw [same.case, model]
  generalize live_eq
    : (Handler.exec deployment (Handler.executeRetry deployment caseId) world).2 = live
  have outcome := Handler.exec_executeRetry deployment world sound caseId
  rw [live_eq] at outcome
  cases outcome with
  | @approved case' first admitted _ uncommitted touched =>
      cases stored.symm.trans admitted.stored
      have gets : GetsToCommit deployment world caseId.text case :=
        ⟨admitted.demo, admitted.calm, first, admitted.first, admitted.due⟩
      rw [agrees (by rw [touched.here])]
      exact (and_iff_right gets).symm
  | @healed case' first admitted _ committed touched =>
      cases stored.symm.trans admitted.stored
      have gets : GetsToCommit deployment world caseId.text case :=
        ⟨admitted.demo, admitted.calm, first, admitted.first, admitted.due⟩
      rw [agrees (by rw [touched.here])]
      exact (and_iff_right gets).symm
  | escalated stored' _ distressed touched =>
      cases stored.symm.trans stored'
      refine idle (fun gets => ?_) ?_
      · rw [gets.calm] at distressed
        cases distressed
      · rw [touched.here]
        simp
  | idle turned spent touched =>
      refine idle (fun gets => ?_) ?_
      · obtain ⟨demo, calm, first, front, due⟩ := gets
        have off := turned case first ⟨demo, stored, scheduled, calm, front, due⟩
        rw [etcd] at off
        cases off
      · rw [touched.here, stored]
        intro same
        have state := congrArg RecoveryCase.state (Option.some.inj same)
        rw [scheduled] at state
        cases state

/-- The decision in front of a case's pending ones is due, as a test. -/
def frontDue (world : World) (caseId : String) : Bool :=
  (world.view caseId).pending.head?.any fun first =>
    first.scheduledAt ≤ world.clock.reading 1

theorem getsToCommit_of_frontDue {deployment : Deployment} {world : World} {caseId : String}
    {case : RecoveryCase} {decision : RetryDecision}
    (demo : deployment.config.profileName = .demo) (ready : NextDue world caseId case decision)
    (front : frontDue world caseId = true)
    : GetsToCommit deployment world caseId case := by
  obtain ⟨first, pending, due⟩ := (Option.any_eq_true _ _).mp front
  exact ⟨demo, ready.calm, first, pending, of_decide_eq_true due⟩

/-- A store without a marked decision does not agree. -/
theorem not_sameRecords_of_unmarked {deployment : Deployment} {world live : World}
    {caseId : String} {case : RecoveryCase} {decision : RetryDecision}
    (ready : NextDue world caseId case decision)
    (unmarked : (live.view caseId).decisions.all (·.executedAt = none) = true)
    : ¬ SameRecords caseId live
        (Handler.exec deployment (Handler.persistAttempt case decision) (world.tick 3)).2 := by
  intro same
  have model := @Handler.exec_persistAttempt deployment (world.tick 3) caseId case
    ready.stored ready.scheduled decision ready.recorded
  rw [same.decisions, model] at unmarked
  have marked := List.all_eq_true.mp unmarked
    { decision with executedAt := some ((world.tick 3).clock.reading 0) }
    (List.mem_map.mpr ⟨decision, ready.recorded, if_pos rfl⟩)
  simp at marked

/-- The first retry of a case is executed, and its decision left unmarked. -/
theorem executeRetry_agrees_iff_first
    : ∃ case decision,
        NextDue firstRetryDue "pay_2" case decision
        ∧ (SameRecords "pay_2"
              (Handler.exec demoDeployment
                (Handler.executeRetry demoDeployment ⟨"pay_2", by decide⟩) firstRetryDue).2
              (Handler.exec demoDeployment (Handler.persistAttempt case decision)
                (firstRetryDue.tick 3)).2
          ↔ GetsToCommit demoDeployment firstRetryDue "pay_2" case
            ∧ decision.executedAt = some (firstRetryDue.clock.reading 3)) := by
  obtain ⟨case, decision, ready⟩ := exists_nextDue
    (show nextDue firstRetryDue "pay_2" = true by decide +kernel)
  have regular : firstRetryDue.Regular :=
    World.regular_run demoDeployment false demoClock (declineAndNotice "pay_2")
  exact ⟨case, decision, ready, executeRetry_agrees_iff rfl regular.sound ⟨"pay_2", by decide⟩
    ready.stored ready.scheduled ready.recorded⟩

/-- The paths do not agree on that retry: the state machine's marks the decision. -/
theorem executeRetry_not_agrees
    : ∃ case decision,
        NextDue firstRetryDue "pay_2" case decision
        ∧ GetsToCommit demoDeployment firstRetryDue "pay_2" case
        ∧ ¬ SameRecords "pay_2"
            (Handler.exec demoDeployment
              (Handler.executeRetry demoDeployment ⟨"pay_2", by decide⟩) firstRetryDue).2
            (Handler.exec demoDeployment (Handler.persistAttempt case decision)
              (firstRetryDue.tick 3)).2 := by
  obtain ⟨case, decision, ready⟩ := exists_nextDue
    (show nextDue firstRetryDue "pay_2" = true by decide +kernel)
  have unmarked
      : (((Handler.exec demoDeployment (Handler.executeRetry demoDeployment ⟨"pay_2", by decide⟩)
          firstRetryDue).2.view "pay_2").decisions.all (·.executedAt = none)) = true := by
    decide +kernel
  generalize (Handler.exec demoDeployment (Handler.executeRetry demoDeployment
    ⟨"pay_2", by decide⟩) firstRetryDue).2 = live at unmarked ⊢
  have gets := @getsToCommit_of_frontDue demoDeployment firstRetryDue "pay_2" case decision rfl
    ready (by decide +kernel)
  exact ⟨case, decision, ready, gets, not_sameRecords_of_unmarked ready unmarked⟩

end RecoveryAgent
