import RecoveryAgent.Core.Lifecycle

/-! The same failure handled at another time.
Which case a failure opens, or how a stored case answers it, depends on the clock only in the
instants that are written down.
-/

namespace RecoveryAgent

/-- What an entry says has happened, without the time and the place in the trail. -/
def AuditEntry.transition (entry : AuditEntry) : CaseState × CaseState × String :=
  (entry.fromState, entry.toState, entry.ruleFired)

/-- The second clock resolves the delays that the first does. -/
def Clock.Alike (clock clock' : Clock) : Prop :=
  ∀ delay resolved,
    clock.resolveDelay delay = .ok resolved → ∃ resolved', clock'.resolveDelay delay = .ok resolved'

/-- All clocks of services refuse the same delays, the negative ones. -/
theorem ServiceClock.view_alike (clock clock' : ServiceClock) : clock.view.Alike clock'.view := by
  have refuses (clock : ServiceClock) (delay : Timedelta)
      : (∃ resolved, clock.view.resolveDelay delay = .ok resolved) ↔ ¬ delay < 0 := by
    unfold view resolveDelay
    cases clock.timeScale with
    | none =>
        dsimp only
        unfold RealClock.resolveDelay
        split <;> simp_all
    | some scale =>
        dsimp only
        unfold AcceleratedClock.resolveDelay
        split <;> simp_all
  intro delay resolved found
  exact (refuses clock' delay).mpr ((refuses clock delay).mp ⟨resolved, found⟩)

/-- When a case is opened changes nothing else about the creation. -/
theorem RecoveryCase.create_at {caseId mandateId instrumentId : String} {amount : Int}
    {openedAt : Datetime} {case : RecoveryCase}
    (created : RecoveryCase.create caseId mandateId instrumentId amount openedAt = .ok case)
    (now : Datetime)
    : RecoveryCase.create caseId mandateId instrumentId amount now
      = .ok { case with openedAt := now } := by
  unfold RecoveryCase.create at created ⊢
  split at created
  · cases created
  split at created
  · cases created
  split at created
  · cases created
  split at created
  · cases created
  cases created
  simp_all

/-- A case would be opened alike at another time: the trail begins with its creation. -/
theorem StateMachine.handleNewFailure_alike {event event' : PaymentFailureEvent}
    {config : AppConfig} {clock clock' : Clock} {case : RecoveryCase} {entries : List AuditEntry}
    (opened : handleNewFailure event config clock = .ok (case, event', entries))
    (alike : clock.Alike clock')
    : entries.head?.map (·.fromState) = some .received
      ∧ ∃ case' entries',
          handleNewFailure event config clock' = .ok (case', event', entries')
          ∧ case'.caseId = case.caseId
          ∧ entries'.map (·.transition) = entries.map (·.transition) := by
  simp only [handleNewFailure, bind, Except.bind, pure, Except.pure] at opened ⊢
  split at opened
  · cases opened
  next fresh created =>
  obtain ⟨caseId, _, _, amount, _, unassigned⟩ := RecoveryCase.create_eq created
  have created' := RecoveryCase.create_at created (clock'.now 0)
  generalize { fresh with openedAt := clock'.now 0 } = fresh' at created'
  obtain ⟨caseId', _, _, amount', _, unassigned'⟩ := RecoveryCase.create_eq created'
  simp only [created', assignBucket_eq unassigned, assignBucket_eq unassigned', caseId, caseId',
    amount, amount'] at opened ⊢
  cases classified : classifyFailure config event.reasonCode event.errorReason with
  | error raised =>
      rw [classified] at opened
      cases opened
  | ok classes =>
      rw [classified] at opened
      dsimp only at opened ⊢
      by_cases control : isControlCase event.caseId = true
      · simp only [control, if_true] at opened ⊢
        cases window : clock.resolveDelay config.selfImposed.controlObservationWindow with
        | error raised =>
            rw [window] at opened
            cases opened
        | ok resolved =>
            obtain ⟨resolved', window'⟩ := alike _ _ window
            rw [window] at opened
            rw [window']
            cases opened
            exact ⟨rfl, _, _, rfl, rfl, rfl⟩
      · simp only [control, if_false, Bool.false_eq_true] at opened ⊢
        split at opened
        · next business =>
            cases opened
            rw [if_pos business]
            exact ⟨rfl, _, _, rfl, rfl, rfl⟩
        next technical =>
        rw [if_neg technical]
        cases ceiled : afaCeiling config (event.notes.getD []) with
        | error raised =>
            rw [ceiled] at opened
            cases opened
        | ok ceiling =>
            rw [ceiled] at opened
            dsimp only at opened ⊢
            split at opened
            · next above =>
                cases opened
                rw [if_pos above]
                exact ⟨rfl, _, _, rfl, rfl, rfl⟩
            · next below =>
                cases opened
                rw [if_neg below]
                exact ⟨rfl, _, _, rfl, rfl, rfl⟩

/-- A stored case would answer alike at another time, from the state it is in. -/
theorem StateMachine.handleExistingFailure_alike {case : RecoveryCase}
    {event event' : PaymentFailureEvent} {config : AppConfig} {clock : Clock}
    {entries : List AuditEntry}
    (handled : (handleExistingFailure case event config clock).result = .ok (event', entries))
    (clock' : Clock)
    : entries.head?.map (·.fromState) = some case.state
      ∧ (handleExistingFailure case event config clock').case
        = (handleExistingFailure case event config clock).case
      ∧ ∃ entries',
          (handleExistingFailure case event config clock').result = .ok (event', entries')
          ∧ entries'.map (·.transition) = entries.map (·.transition) := by
  unfold handleExistingFailure at handled ⊢
  dsimp only at handled ⊢
  split at handled
  · next held =>
      cases handled
      simp only [if_pos held]
      exact ⟨by rw [held]; rfl, trivial, _, rfl, rfl⟩
  next free =>
  simp only [if_neg free]
  split at handled
  · next elsewhere =>
      cases handled
      simp only [if_pos elsewhere]
      exact ⟨rfl, trivial, _, rfl, rfl⟩
  next executed =>
  simp only [if_neg executed]
  split at handled
  · cases handled
  next declineClass _ classified =>
  have executed := not_not.mp executed
  split at handled
  · next capped =>
      cases handled
      simp only [if_pos capped]
      exact ⟨by rw [executed]; rfl, trivial, _, rfl, rfl⟩
  · next eligible =>
      cases handled
      simp only [if_neg eligible]
      exact ⟨by rw [executed]; rfl, trivial, _, rfl, rfl⟩

namespace StateMachine

variable {existing : Option RecoveryCase} {event event' : PaymentFailureEvent}
  {config : AppConfig} {clock clock' : Clock} {case : RecoveryCase} {entries : List AuditEntry}

/-- A failure would be handled alike at another time. Its trail begins in the state the case
is in, or with the creation of one.
-/
theorem handlePaymentFailed_alike
    (handled : handlePaymentFailed existing event config clock = .ok (case, event', entries))
    (alike : clock.Alike clock')
    : entries.head?.map (·.fromState) = some ((existing.map (·.state)).getD .received)
      ∧ ∃ case' entries',
          handlePaymentFailed existing event config clock' = .ok (case', event', entries')
          ∧ case'.caseId = case.caseId
          ∧ entries'.map (·.transition) = entries.map (·.transition) := by
  cases existing with
  | none => exact handleNewFailure_alike handled alike
  | some old =>
      obtain ⟨answered, left⟩ := handlePaymentFailed_existing _ _ _ handled
      obtain ⟨first, same, entries', answered', transitions⟩ :=
        handleExistingFailure_alike answered clock'
      refine ⟨first, case, entries', ?_, rfl, transitions⟩
      simp only [handlePaymentFailed, answered', same, left, Except.map]

/-- Every entry of a failure is a fresh one about its case. -/
theorem handlePaymentFailed_entries
    (handled : handlePaymentFailed existing event config clock = .ok (case, event', entries))
    : ∀ entry ∈ entries, entry.Fresh ∧ entry.caseId = case.caseId := by
  intro entry member
  cases existing with
  | none =>
      have opened :=
        handleNewFailure_opened (show handleNewFailure event config clock = _ from handled)
      exact ⟨opened.fresh entry member, opened.entries_named entry member⟩
  | some old =>
      obtain ⟨answered, left⟩ := handlePaymentFailed_existing _ _ _ handled
      have answer := handleExistingFailure_answer old config clock answered
      have plain := answer.entries_plain entry member
      rw [← left, answer.sameCase.caseId]
      exact ⟨plain.2.2.2.2, plain.1⟩

end StateMachine

end RecoveryAgent
