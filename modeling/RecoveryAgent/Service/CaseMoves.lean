import RecoveryAgent.Service.Filing

/-! What any activity of a service does to the row of a case, said once.
A case that was paid, closed by a human, or judged in the control bucket is left alone from
then on.
-/

namespace RecoveryAgent

open StateMachine

/-- How the row of a case can change in one activity. -/
inductive CaseMoves : Option RecoveryCase → Option RecoveryCase → Prop where
  | same (row : Option RecoveryCase) : CaseMoves row row
  | opened {event : PaymentFailureEvent} {now : Datetime} {case : RecoveryCase}
      {entries : List AuditEntry} (opened : Opened event now case entries)
    : CaseMoves none (some case)
  | transition {config : AppConfig} {now : Datetime} {case case' : RecoveryCase}
      {entries : List AuditEntry} (step : Transition config now case case' entries)
    : CaseMoves (some case) (some case')
  | counted {case : RecoveryCase} (executed : case.state = .retryExecuted)
    : CaseMoves (some case) (some { case with retriesUsed := case.retriesUsed + 1 })
  | resolved {case : RecoveryCase} (escalated : case.state = .escalated)
      (note : ResolutionNote)
    : CaseMoves (some case)
        (some { case with state := .resolvedByHuman, resolutionNote := some note })
  | distressed {case : RecoveryCase} (scheduled : case.state = .retryScheduled)
    : CaseMoves (some case) (some { case with state := .escalated })

/-- The states a payment, a human or the control signal closes a case in. -/
def closedState (state : CaseState) : Prop :=
  state ∈ [CaseState.recovered, .recoveredNaturally, .resolvedByHuman, .controlRecovered,
    .controlStillFailed]

instance (state : CaseState) : Decidable (closedState state) :=
  inferInstanceAs (Decidable (_ ∈ _))

/-- A transition leaves a closed case as it is. -/
theorem StateMachine.Transition.closed {config : AppConfig} {now : Datetime}
    {case case' : RecoveryCase} {entries : List AuditEntry}
    (step : Transition config now case case' entries) (closed : closedState case.state)
    : case' = case := by
  cases step with
  | unchanged => rfl
  | answered answer =>
      cases answer with
      | noted rule cited => rfl
      | settled settles outcome rule cited =>
          generalize case.state = state at closed settles
          cases settles with
          | naturallyRecovered awaiting =>
              rcases awaitsExecution_iff.mp awaiting with rfl | rfl | rfl | rfl <;>
                simp [closedState] at closed
          | _ => simp [closedState] at closed
      | evaluated executed eligible rule cited => simp [executed, closedState] at closed
  | triggered triggers rule cited =>
      generalize case.state = state at closed triggers
      cases triggers <;> simp [closedState] at closed
  | noticeLost pending => simp [pending, closedState] at closed
  | noticed pending scheduledAt => simp [pending, closedState] at closed

namespace CaseMoves

variable {case : RecoveryCase} {row : Option RecoveryCase}

/-- A stored case stays stored, under its mandate and with its amount. -/
theorem kept (moves : CaseMoves (some case) row)
    : ∃ case', row = some case' ∧ SameCase case case' := by
  cases moves with
  | same => exact ⟨case, rfl, .refl case⟩
  | transition step => exact ⟨_, rfl, step.sameCase⟩
  | _ => exact ⟨_, rfl, ⟨rfl, rfl, rfl, rfl, rfl⟩⟩

/-- A closed case is left alone. -/
theorem closed (moves : CaseMoves (some case) row) (closed : closedState case.state)
    : row = some case := by
  cases moves with
  | same => rfl
  | transition step => rw [step.closed closed]
  | counted executed => simp [executed, closedState] at closed
  | resolved escalated => simp [escalated, closedState] at closed
  | distressed scheduled => simp [scheduled, closedState] at closed

end CaseMoves

/-- An event of the service moves the row of each case. -/
theorem Moved.moves {deployment : Deployment} {world : World} {clock : ServiceClock}
    {caseId : String} {event : Event} {view : CaseView}
    (moved : Moved deployment world clock caseId event view)
    : CaseMoves (world.view caseId).case view.case := by
  have executes {case : RecoveryCase} (scheduled : case.state = .retryScheduled)
      : CaseMoves (some case) (some { case with state := .retryExecuted }) := by
    have triggers : Triggers case.state .retryExecuted := scheduled ▸ .executed
    have step := @Transition.triggered (shippedConfig .demo) 0 case _ triggers
      "commit_effect_applied" (by decide)
    exact .transition step
  cases moved with
  | same => exact .same _
  | stepped spends step =>
      cases step with
      | same => exact .same _
      | opened early absent opened part =>
          rw [absent]
          exact .opened opened
      | answered early stored answer part flags =>
          rw [stored]
          exact .transition (.answered answer)
      | counted inMemory stored executed unclassifiable =>
          rw [stored]
          exact .counted executed
      | noticeLost stored pending =>
          rw [stored]
          exact .transition (.noticeLost pending : Transition (shippedConfig .demo) 0 _ _ _)
      | noticed demo early stored pending decided first =>
          rw [stored]
          exact .transition (.noticed pending 0 : Transition (shippedConfig .demo) 0 _ _ _)
      | noticedAgain demo early stored pending decided again =>
          rw [stored]
          exact .transition (.noticed pending 0 : Transition (shippedConfig .demo) 0 _ _ _)
      | resolved early stored escalated =>
          rw [stored]
          exact .resolved escalated _
  | approved named spends etcd admitted uncommitted =>
      rw [admitted.stored]
      exact executes admitted.scheduled
  | healed named spends etcd admitted committed =>
      rw [admitted.stored]
      exact executes admitted.scheduled
  | escalated named spends stored scheduled =>
      rw [stored]
      exact .distressed scheduled
  | reordered spends perm kept => exact .same _

/-- The entries of a transition are fresh ones about its case. -/
theorem StateMachine.Transition.entries_fresh {config : AppConfig} {now : Datetime}
    {case case' : RecoveryCase} {entries : List AuditEntry}
    (step : Transition config now case case' entries)
    : ∀ entry ∈ entries, entry.Fresh ∧ entry.caseId = case.caseId := by
  cases step with
  | unchanged => simp
  | answered answer =>
      intro entry member
      obtain ⟨named, _, _, _, fresh⟩ := answer.entries_plain entry member
      exact ⟨fresh, named⟩
  | triggered triggers rule cited => simp [audit, AuditEntry.Fresh, AuditEntry.bare]
  | noticeLost pending => simp
  | noticed pending scheduledAt =>
      simp [noticeEntries, audit, AuditEntry.Fresh, AuditEntry.bare]

/-- A call of the state machine on a stored case leaves what it returns, and nothing else.
Without a case it leaves everything as it is.
-/
theorem Handler.exec_operate (deployment : Deployment) (config : AppConfig) {world : World}
    (sound : SoundLog world.log) (caseId : String) (operation : Operation)
    : ∃ spent view,
        world.Touched (exec deployment (operate config caseId operation) world).2 spent caseId
          view
        ∧ (view = world.view caseId
          ∨ ∃ case,
              (world.view caseId).case = some case
              ∧ view
                = { world.view caseId with
                    case := some (Tracked.call config case world.clock.view operation).1
                    trail := (world.view caseId).trail
                      ++ (Tracked.call config case world.clock.view operation).2 }) := by
  unfold operate
  rw [exec_bind]
  rcases exec_getCase deployment world caseId with
    ⟨case, stored, got⟩ | ⟨absent, raised, got⟩
  swap
  · rw [got]
    exact ⟨0, _, .tick sound caseId 0, .inl rfl⟩
  rw [got]
  have id_eq := CaseStore.view_caseId stored
  subst id_eq
  simp only [exec_bind, exec_readClock]
  have called := Tracked.call_cases config case world.clock.view operation
  have same := Tracked.call_sameCase config case world.clock.view operation
  generalize done_eq : Tracked.call config case world.clock.view operation = done at called same ⊢
  obtain ⟨case', entries⟩ := done
  dsimp only at called same ⊢
  have fresh : ∀ entry ∈ entries, entry.Fresh ∧ entry.caseId = case.caseId := by
    rcases called with step | ⟨executed, _, counted⟩
    · exact step.entries_fresh
    · cases counted
      simp
  have stored' : ((world.tick 2).store.view case'.caseId).case = some case := by
    rw [same.caseId]
    exact stored
  obtain ⟨first, updated, overwrote⟩ := exec_updateCase deployment (world.tick 2) stored'
  obtain ⟨last, logged, appended, bare, added⟩ := exec_appendAll deployment first entries fresh
  rw [same.caseId] at overwrote
  have wrote := overwrote.trans added
  have before : first.store.view case.caseId = _ := overwrote.view_eq
  rw [before] at wrote
  simp only [updated, appended]
  refine ⟨_, _, (wrote.touched sound).after, .inr ⟨case, stored, ?_⟩⟩
  rw [done_eq]
  simp [World.view, bare]

/-- A call of the state machine moves its case. -/
theorem StateMachine.Tracked.call_moves (config : AppConfig) (case : RecoveryCase)
    (clock : Clock) (operation : Operation)
    : CaseMoves (some case) (some (call config case clock operation).1) := by
  rcases call_cases config case clock operation with step | ⟨executed, _, counted⟩
  · exact .transition step
  · rw [counted]
    exact .counted executed

/-- Every activity moves every case, and all commits stay sound. -/
theorem World.act_moves (deployment : Deployment) {world : World} (sound : SoundLog world.log)
    (activity : Activity)
    : SoundLog (world.act deployment activity).log
      ∧ ∀ caseId,
          CaseMoves (world.view caseId).case
            ((world.act deployment activity).view caseId).case := by
  cases activity with
  | served event =>
      obtain ⟨sound', moved⟩ := World.handle_moved deployment sound event
      exact ⟨sound', fun caseId => (moved caseId).moves⟩
  | called caseId operation =>
      obtain ⟨spent, view, touched, called⟩ :=
        Handler.exec_operate deployment deployment.config sound caseId operation
      have moves : CaseMoves (world.view caseId).case view.case := by
        rcases called with rfl | ⟨case, stored, rfl⟩
        · exact .same _
        · rw [stored]
          exact Tracked.call_moves _ case _ operation
      refine ⟨touched.sound, fun other => ?_⟩
      by_cases here : other = caseId
      · rw [here]
        exact (congrArg CaseView.case touched.here) ▸ moves
      · have away := touched.elsewhere other here
        exact (congrArg CaseView.case away) ▸ CaseMoves.same _

end RecoveryAgent
