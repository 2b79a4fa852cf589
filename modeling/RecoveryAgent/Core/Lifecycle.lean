import RecoveryAgent.Core.StateMachine

/-! What one call of the state machine can do to a case, said once.
Every operation is one of a few transitions, and later invariants are proved by cases on
the transition instead of on the operations.
-/

namespace RecoveryAgent.StateMachine

/-- Moves a payment event makes that leave the retry counter alone. -/
inductive Settles : CaseState → CaseState → Prop where
  | controlRecovered : Settles .controlHeld .controlRecovered
  | controlStillFailed : Settles .controlHeld .controlStillFailed
  | agentRecovered : Settles .retryExecuted .recovered
  | naturallyRecovered {state} (awaiting : awaitsExecution state = true)
    : Settles state .recoveredNaturally
  | escalationPaid : Settles .escalated .recovered
  | afaPaid : Settles .afaRequired .recovered

/-- A payment event settles a case in one of four states. -/
theorem Settles.target {fromState toState : CaseState} (settles : Settles fromState toState)
    : toState = .controlRecovered ∨ toState = .controlStillFailed ∨ toState = .recovered
      ∨ toState = .recoveredNaturally := by
  cases settles <;> simp

/-- Moves made by an explicit trigger. -/
inductive Triggers : CaseState → CaseState → Prop where
  | executed : Triggers .retryScheduled .retryExecuted
  | throttled : Triggers .retryScheduled .throttled
  | released : Triggers .throttled .retryScheduled

/-- How a case answers a payment event handled at the given instant: the case it becomes and
the entries written about it.
-/
inductive Answer (config : AppConfig) (now : Datetime) (case : RecoveryCase)
    : RecoveryCase → List AuditEntry → Prop where
  /-- An event that does not fit the state leaves one entry from the state to itself. -/
  | noted (rule : String) (cited : rule ≠ "")
    : Answer config now case case [audit case.caseId case.state case.state rule now cited]
  | settled {next : CaseState} (settles : Settles case.state next)
      (outcome : Option ControlOutcome) (rule : String) (cited : rule ≠ "")
    : Answer config now case { case with state := next, controlOutcome := outcome }
        [audit case.caseId case.state next rule now cited]
  /-- A failed retry: only below the cap does another cycle begin. -/
  | evaluated (executed : case.state = .retryExecuted) {next : CaseState}
      (eligible
        : next = .escalated
          ∨ next = .noticePending ∧ (case.retriesUsed + 1 : Int) < config.npciRules.maxRetries)
      (rule : String) (cited : rule ≠ "")
    : Answer config now case
        { case with state := next, retriesUsed := case.retriesUsed + 1 }
        [audit case.caseId .retryExecuted .retryEval "execution_outcome" now,
          audit case.caseId .retryEval next rule now cited]

/-- The two entries of a notice. -/
def noticeEntries (caseId : String) (now scheduledAt : Datetime) : List AuditEntry := [
  audit caseId .noticePending .noticeSent "notice_sent" now,
  { audit caseId .noticeSent .retryScheduled "schedule_retry" now with
    scheduledAt := some scheduledAt }]

/-- One call on a case at the given instant: the case it leaves and the entries it returns. -/
inductive Transition (config : AppConfig) (now : Datetime) (case : RecoveryCase)
    : RecoveryCase → List AuditEntry → Prop where
  /-- A refusal. -/
  | unchanged : Transition config now case case []
  | answered {case' : RecoveryCase} {entries : List AuditEntry}
      (answer : Answer config now case case' entries)
    : Transition config now case case' entries
  | triggered {next : CaseState} (triggers : Triggers case.state next) (rule : String)
      (cited : rule ≠ "")
    : Transition config now case { case with state := next }
        [audit case.caseId case.state next rule now cited]
  /-- The scheduler raised after the notice had been marked on the case object. -/
  | noticeLost (pending : case.state = .noticePending)
    : Transition config now case { case with state := .noticeSent } []
  | noticed (pending : case.state = .noticePending) (scheduledAt : Datetime)
    : Transition config now case { case with state := .retryScheduled }
        (noticeEntries case.caseId now scheduledAt)

/-- The identity of a case, its amount and its bucket never change. -/
structure SameCase (case case' : RecoveryCase) : Prop where
  caseId : case'.caseId = case.caseId
  mandateId : case'.mandateId = case.mandateId
  instrumentId : case'.instrumentId = case.instrumentId
  originalAmount : case'.originalAmount = case.originalAmount
  bucket : case'.bucket = case.bucket

theorem SameCase.refl (case : RecoveryCase) : SameCase case case := ⟨rfl, rfl, rfl, rfl, rfl⟩

theorem SameCase.trans {case case' case'' : RecoveryCase} (first : SameCase case case')
    (second : SameCase case' case'')
    : SameCase case case'' where
  caseId := second.caseId.trans first.caseId
  mandateId := second.mandateId.trans first.mandateId
  instrumentId := second.instrumentId.trans first.instrumentId
  originalAmount := second.originalAmount.trans first.originalAmount
  bucket := second.bucket.trans first.bucket

section Transition

variable {config : AppConfig} {now : Datetime} {case case' : RecoveryCase}
  {entries : List AuditEntry}

theorem Answer.sameCase (answer : Answer config now case case' entries)
    : SameCase case case' := by
  cases answer <;> exact ⟨rfl, rfl, rfl, rfl, rfl⟩

theorem Transition.sameCase (step : Transition config now case case' entries)
    : SameCase case case' := by
  cases step with
  | answered answer => exact answer.sameCase
  | _ => exact ⟨rfl, rfl, rfl, rfl, rfl⟩

/-- The entries of an answer name the case and carry the instant of the call; none of them
sends a notice or moves the case into execution.
-/
theorem Answer.entries_plain (answer : Answer config now case case' entries)
    : ∀ entry ∈ entries,
        entry.caseId = case.caseId
        ∧ entry.timestamp = now
        ∧ ¬ entry.Enters .noticeSent
        ∧ ¬ entry.Enters .retryExecuted
        ∧ entry.Fresh := by
  cases answer with
  | noted rule cited => simp [audit, AuditEntry.Enters, AuditEntry.Fresh, AuditEntry.bare]
  | settled settles outcome rule cited =>
      rcases settles.target with rfl | rfl | rfl | rfl <;>
        simp [audit, AuditEntry.Enters, AuditEntry.Fresh, AuditEntry.bare]
  | evaluated executed eligible rule cited =>
      rcases eligible with rfl | ⟨rfl, _⟩ <;>
        simp [audit, AuditEntry.Enters, AuditEntry.Fresh, AuditEntry.bare]

/-- An answer only names RETRY_EXECUTED as a target where the case is in that state. -/
theorem Answer.executed_of_target (answer : Answer config now case case' entries)
    {entry : AuditEntry} (member : entry ∈ entries) (target : entry.toState = .retryExecuted)
    : case.state = .retryExecuted := by
  cases answer with
  | noted rule cited =>
      rw [List.mem_singleton.mp member] at target
      exact target
  | settled settles outcome rule cited =>
      rw [List.mem_singleton.mp member] at target
      rcases settles.target with rfl | rfl | rfl | rfl <;> cases target
  | evaluated executed eligible rule cited => exact executed

/-- An answer never moves a case towards an execution, except that a failed retry below the
cap starts another cycle.
-/
theorem Answer.state_cases (answer : Answer config now case case' entries)
    : case' = case
      ∨ (case.state = .retryExecuted ∧ case'.retriesUsed = case.retriesUsed + 1
        ∧ (case'.state = .escalated ∨ case'.state = .noticePending))
      ∨ (case'.retriesUsed = case.retriesUsed
        ∧ (case'.state = .controlRecovered ∨ case'.state = .controlStillFailed
          ∨ case'.state = .recovered ∨ case'.state = .recoveredNaturally)) := by
  cases answer with
  | noted rule cited => exact .inl rfl
  | settled settles outcome rule cited =>
      exact .inr (.inr ⟨rfl, settles.target⟩)
  | evaluated executed eligible rule cited =>
      exact .inr (.inl ⟨executed, rfl, eligible.imp id And.left⟩)

/-- The entries of a transition carry the instant of the call. -/
theorem Transition.stamped (step : Transition config now case case' entries)
    : ∀ entry ∈ entries, entry.timestamp = now := by
  cases step with
  | answered answer => exact fun entry member => (answer.entries_plain entry member).2.1
  | _ => simp [noticeEntries]

/-- A transition leaves the resolution of a case alone, and a resolved case as it is. -/
theorem Transition.resolution (step : Transition config now case case' entries)
    : case'.resolutionNote = case.resolutionNote
      ∧ (case.state = .resolvedByHuman → case' = case) := by
  cases step with
  | unchanged => exact ⟨rfl, fun _ => rfl⟩
  | answered answer =>
      cases answer with
      | noted rule cited => exact ⟨rfl, fun _ => rfl⟩
      | settled settles outcome rule cited =>
          refine ⟨rfl, fun closed => ?_⟩
          rw [closed] at settles
          cases settles with
          | naturallyRecovered awaiting => cases awaiting
      | evaluated executed eligible rule cited =>
          exact ⟨rfl, fun closed => by rw [executed] at closed; cases closed⟩
  | triggered triggers rule cited =>
      refine ⟨rfl, fun closed => ?_⟩
      rw [closed] at triggers
      cases triggers
  | noticeLost pending => exact ⟨rfl, fun closed => by rw [pending] at closed; cases closed⟩
  | noticed pending scheduledAt =>
      exact ⟨rfl, fun closed => by rw [pending] at closed; cases closed⟩

/-- The states of a control case are left by nothing but their own outcomes. -/
theorem Transition.control (step : Transition config now case case' entries)
    (held : case.state ∈ [CaseState.controlHeld, .controlRecovered, .controlStillFailed])
    : case'.state ∈ [CaseState.controlHeld, .controlRecovered, .controlStillFailed] := by
  cases step with
  | unchanged => exact held
  | answered answer =>
      cases answer with
      | noted rule cited => exact held
      | settled settles outcome rule cited =>
          generalize case.state = state at held settles
          cases settles with
          | controlRecovered => simp
          | controlStillFailed => simp
          | naturallyRecovered awaiting =>
              rcases awaitsExecution_iff.mp awaiting with rfl | rfl | rfl | rfl <;>
                simp at held
          | _ => simp at held
      | evaluated executed eligible rule cited => simp [executed] at held
  | triggered triggers rule cited =>
      generalize case.state = state at held triggers
      cases triggers <;> simp at held
  | noticeLost pending => simp [pending] at held
  | noticed pending scheduledAt => simp [pending] at held

end Transition

/-- The states a case is opened in. -/
def openingState (state : CaseState) : Prop :=
  state ∈ [CaseState.controlHeld, .escalated, .afaRequired, .noticePending]

/-- A case as its first failure event leaves it. -/
structure Opened (event : PaymentFailureEvent) (now : Datetime) (case : RecoveryCase)
    (entries : List AuditEntry)
    : Prop where
  caseId : case.caseId = event.caseId
  retriesUsed : case.retriesUsed = 0
  originalAmount : case.originalAmount = event.amount
  instrumentId : case.instrumentId = event.instrumentId
  state : openingState case.state
  bucketed : case.bucket ≠ none
  held : case.bucket = some .control → case.state = .controlHeld
  entries_named : ∀ entry ∈ entries, entry.caseId = case.caseId
  stamped : ∀ entry ∈ entries, entry.timestamp = now
  notExecuted : ∀ entry ∈ entries, entry.toState ≠ .retryExecuted
  fromOpening : ∀ entry ∈ entries, entry.fromState ≠ .retryExecuted
  notNoticed : ∀ entry ∈ entries, entry.toState ≠ .noticeSent
  fresh : ∀ entry ∈ entries, entry.Fresh

/-- `_handle_new_failure` opens a case at its first clock reading, in one of the four
opening states. Witness: the routing branches, each with its last entry's target state.
-/
theorem handleNewFailure_opened {event event' : PaymentFailureEvent} {config : AppConfig}
    {clock : Clock} {case : RecoveryCase} {entries : List AuditEntry}
    (opened : handleNewFailure event config clock = .ok (case, event', entries))
    : Opened event (clock.now 0) case entries := by
  simp only [handleNewFailure, bind, Except.bind, pure, Except.pure] at opened
  split at opened
  · cases opened
  next fresh created =>
  obtain ⟨caseId, _, instrumentId, amount, unused, unassigned⟩ := RecoveryCase.create_eq created
  simp only [assignBucket_eq unassigned] at opened
  split at opened
  · cases opened
  split at opened
  · -- the control bucket waits for its observation window
    split at opened
    · cases opened
    cases opened
    constructor <;> simp [audit, openingState, AuditEntry.Fresh, AuditEntry.bare, caseId,
      instrumentId, amount, unused]
  split at opened
  · -- a business decline is escalated at once
    cases opened
    constructor <;> simp [audit, openingState, AuditEntry.Fresh, AuditEntry.bare, caseId,
      instrumentId, amount, unused]
  split at opened
  · cases opened
  split at opened <;> cases opened <;>
    constructor <;> simp [audit, openingState, AuditEntry.Fresh, AuditEntry.bare, caseId,
      instrumentId, amount, unused]

section Calls

variable (case : RecoveryCase) (config : AppConfig) (clock : Clock)

/-- A success event is noted, or moves the case where its state waits for a payment. -/
theorem handlePaymentSuccess_answer (event : PaymentSuccessEvent)
    : Answer config (clock.now 0) case (handlePaymentSuccess case event clock).1
        (handlePaymentSuccess case event clock).2 := by
  unfold handlePaymentSuccess
  dsimp only
  split
  · exact .noted _ (by decide)
  split
  · split
    · exact .noted _ (by decide)
    · next held =>
        have held := not_not.mp held
        exact held ▸ .settled (held ▸ .controlRecovered) _ _ (by decide)
  split
  · next executed =>
      exact executed ▸ .settled (executed ▸ .agentRecovered) case.controlOutcome _ (by decide)
  split
  · next awaiting =>
      exact .settled (.naturallyRecovered awaiting) case.controlOutcome _ (by decide)
  split
  · next late =>
      have settles : Settles case.state .recovered := by
        rcases late with state | state <;> rw [state]
        · exact .escalationPaid
        · exact .afaPaid
      exact .settled settles case.controlOutcome _ (by decide)
  · exact .noted _ (by decide)

theorem handlePaymentSuccess_sameCase (event : PaymentSuccessEvent)
    : SameCase case (handlePaymentSuccess case event clock).1 := by
  unfold handlePaymentSuccess
  dsimp only
  repeat' split
  all_goals exact ⟨rfl, rfl, rfl, rfl, rfl⟩

/-- A success leaves an entry that names RETRY_EXECUTED as its target only on an amount that
is not the case's, or on a control case.
-/
theorem handlePaymentSuccess_flags (event : PaymentSuccessEvent)
    : ∀ entry ∈ (handlePaymentSuccess case event clock).2,
        entry.toState = .retryExecuted
        → event.amount ≠ case.originalAmount ∨ case.bucket = some .control := by
  unfold handlePaymentSuccess
  dsimp only
  split
  · next mismatch => exact fun _ _ _ => .inl mismatch
  split
  · next control => exact fun _ _ _ => .inr control
  split
  · simp
  split
  · simp
  split
  · simp
  · next elsewhere _ _ => simp [elsewhere]

/-- A failure never leaves an entry that names RETRY_EXECUTED as its target. -/
theorem handleExistingFailure_unflagged {event event' : PaymentFailureEvent}
    {entries : List AuditEntry}
    (handled : (handleExistingFailure case event config clock).result = .ok (event', entries))
    : ∀ entry ∈ entries, entry.toState ≠ .retryExecuted := by
  unfold handleExistingFailure at handled
  dsimp only at handled
  split at handled
  · cases handled
    simp
  split at handled
  · next elsewhere =>
      cases handled
      simpa using elsewhere
  split at handled
  · cases handled
  split at handled <;> cases handled <;> simp

/-- A failure event whose codes can be classified is answered. -/
theorem handleExistingFailure_answer {event event' : PaymentFailureEvent}
    {entries : List AuditEntry}
    (handled : (handleExistingFailure case event config clock).result = .ok (event', entries))
    : Answer config (clock.now 0) case
        (handleExistingFailure case event config clock).case entries := by
  unfold handleExistingFailure at handled ⊢
  dsimp only at handled ⊢
  split at handled
  · next held =>
      rw [if_pos held]
      cases handled
      exact held ▸ .settled (held ▸ .controlStillFailed) _ _ (by decide)
  split at handled
  · next free elsewhere =>
      rw [if_neg free, if_pos elsewhere]
      cases handled
      exact .noted _ (by decide)
  next free executed =>
  rw [if_neg free, if_neg executed]
  have executed := not_not.mp executed
  split at handled
  · cases handled
  next declineClass _ classified =>
  split at handled
  · next capped =>
      rw [if_pos capped]
      cases handled
      exact .evaluated executed (.inl rfl) _ (by decide)
  · next eligible =>
      rw [if_neg eligible]
      cases handled
      refine .evaluated executed (.inr ⟨rfl, ?_⟩) _ (by decide)
      have below := (not_or.mp eligible).1
      push_cast at below
      omega

/-- Only a failure of a case in CONTROL_HELD or RETRY_EXECUTED moves the case. -/
theorem handleExistingFailure_moves {event event' : PaymentFailureEvent}
    {entries : List AuditEntry}
    (handled : (handleExistingFailure case event config clock).result = .ok (event', entries))
    : ((case.state = .controlHeld ∨ case.state = .retryExecuted)
        ∧ (handleExistingFailure case event config clock).case.state ≠ case.state)
      ∨ (¬ (case.state = .controlHeld ∨ case.state = .retryExecuted)
        ∧ (handleExistingFailure case event config clock).case = case) := by
  unfold handleExistingFailure at handled ⊢
  dsimp only at handled ⊢
  split at handled
  · next held =>
      refine .inl ⟨.inl held, ?_⟩
      rw [if_pos held, held]
      simp
  next free =>
  rw [if_neg free]
  split at handled
  · next elsewhere =>
      rw [if_pos elsewhere]
      exact .inr ⟨by simp [free, elsewhere], rfl⟩
  next executed =>
  have executed := not_not.mp executed
  refine .inl ⟨.inr executed, ?_⟩
  rw [if_neg (not_not.mpr executed), executed]
  split at handled
  · cases handled
  split at handled
  · next capped =>
      rw [if_pos capped]
      simp
  · next eligible =>
      rw [if_neg eligible]
      simp

/-- A failure that a stored case answers. -/
theorem handlePaymentFailed_existing {case' : RecoveryCase} {event event' : PaymentFailureEvent}
    {entries : List AuditEntry}
    (handled
      : handlePaymentFailed (some case) event config clock = .ok (case', event', entries))
    : (handleExistingFailure case event config clock).result = .ok (event', entries)
      ∧ (handleExistingFailure case event config clock).case = case' := by
  simp only [handlePaymentFailed] at handled
  cases result : (handleExistingFailure case event config clock).result with
  | error raised => rw [result] at handled; cases handled
  | ok done => rw [result] at handled; cases handled; exact ⟨rfl, rfl⟩

/-- A failure event that cannot be classified has already been counted, on a case awaiting
the outcome of its retry.
-/
theorem handleExistingFailure_raised {event : PaymentFailureEvent} {raised : PyError}
    (failed : (handleExistingFailure case event config clock).result = .error raised)
    : case.state = .retryExecuted
      ∧ (handleExistingFailure case event config clock).case
        = { case with retriesUsed := case.retriesUsed + 1 }
      ∧ classifyFailure config event.reasonCode event.errorReason = .error raised := by
  unfold handleExistingFailure at failed ⊢
  dsimp only at failed ⊢
  split at failed
  · cases failed
  split at failed
  · cases failed
  next free executed =>
  rw [if_neg free, if_neg executed]
  split at failed
  · next classified =>
      cases failed
      exact ⟨not_not.mp executed, rfl, classified⟩
  · split at failed <;> cases failed

/-- A notice that was sent: the case is scheduled and the decision is for the next attempt,
at an instant computed from the second clock reading on.
-/
structure Noticed (case : RecoveryCase) (config : AppConfig) (clock : Clock)
    (previous : Option Datetime) (bandit : Option Suggest) (case' : RecoveryCase)
    (entries : List AuditEntry) (decision : RetryDecision)
    : Prop where
  pending : case.state = .noticePending
  case_eq : case' = { case with state := .retryScheduled }
  entries_eq : entries = noticeEntries case.caseId (clock.now 0) decision.scheduledAt
  caseId : decision.caseId = case.caseId
  attemptNumber : decision.attemptNumber = case.retriesUsed + 1
  outcome : decision.outcome = .pending
  computed
    : ∃ reasonCode,
        computeScheduledAt case.retriesUsed reasonCode config
          { clock with now := fun i => clock.now (i + 1) } previous bandit
        = .ok (decision.scheduledAt, decision.reasoning)

/-- What the scheduler answered is what was decided. -/
theorem markNoticeSent_computed {reasonCode : Option String} {previous : Option Datetime}
    {bandit : Option Suggest} {entries : List AuditEntry} {decision : RetryDecision}
    (sent
      : (markNoticeSent case config clock reasonCode previous bandit).result
        = .ok (entries, decision))
    : computeScheduledAt case.retriesUsed reasonCode config
        { clock with now := fun i => clock.now (i + 1) } previous bandit
      = .ok (decision.scheduledAt, decision.reasoning) := by
  unfold markNoticeSent at sent
  dsimp only at sent
  split at sent
  · cases sent
  split at sent
  · cases sent
  next decided computed =>
  cases sent
  simp only [bind, Except.bind] at computed
  split at computed
  · cases computed
  next scheduled schedule =>
  obtain ⟨_, _, scheduledAt, reasoning, _⟩ := RetryDecision.create_eq computed
  rw [schedule, scheduledAt, reasoning]

theorem markNoticeSent_ok {reasonCode : Option String} {previous : Option Datetime}
    {bandit : Option Suggest} {entries : List AuditEntry} {decision : RetryDecision}
    (sent
      : (markNoticeSent case config clock reasonCode previous bandit).result
        = .ok (entries, decision))
    : Noticed case config clock previous bandit
        (markNoticeSent case config clock reasonCode previous bandit).case entries decision := by
  have schedule := markNoticeSent_computed case config clock sent
  unfold markNoticeSent at sent ⊢
  dsimp only at sent ⊢
  split at sent
  · cases sent
  next pending =>
  rw [if_neg pending]
  split at sent
  · cases sent
  next decided computed =>
  cases sent
  simp only [bind, Except.bind] at computed
  split at computed
  · cases computed
  next scheduled _ =>
  obtain ⟨caseId, attemptNumber, _, _, outcome⟩ := RetryDecision.create_eq computed
  exact {
    pending := not_not.mp pending
    case_eq := rfl
    entries_eq := rfl
    caseId := caseId
    attemptNumber := attemptNumber
    outcome := outcome
    computed := ⟨reasonCode, schedule⟩
  }

/-- A pending notice is sent for the instant that the scheduler answers with. -/
theorem markNoticeSent_of_computed {reasonCode : Option String} {previous : Option Datetime}
    {bandit : Option Suggest} {scheduled : Datetime} {reasoning : String}
    (pending : case.state = .noticePending)
    (computed
      : computeScheduledAt case.retriesUsed reasonCode config
          { clock with now := fun i => clock.now (i + 1) } previous bandit
        = .ok (scheduled, reasoning))
    : ∃ entries decision,
        (markNoticeSent case config clock reasonCode previous bandit).result
          = .ok (entries, decision)
        ∧ decision.scheduledAt = scheduled := by
  have reasoned := computeScheduledAt_reasoned computed
  have referenced
      : "retry-" ++ case.caseId ++ "-" ++ toString (case.retriesUsed + 1) ≠ "" := by
    simp
  unfold markNoticeSent
  simp only [if_neg (not_not.mpr pending), computed, bind, Except.bind, RetryDecision.create,
    dif_neg reasoned, dif_neg referenced]
  rw [dif_neg (by omega)]
  exact ⟨_, _, rfl, rfl⟩

/-- A pending notice is sent where its schedule is in the calendar. -/
theorem markNoticeSent_sends {config : AppConfig} {clock : Clock} (loaded : config.Loaded)
    (resolves : Resolves clock) (pending : case.state = .noticePending) {spacing : Timedelta}
    (entry : config.selfImposed.spacing? case.retriesUsed = some spacing)
    (reasonCode : Option String) {previous : Option Datetime} {bandit : Option Suggest}
    (picks : ∀ suggest, bandit = some suggest → Picks suggest)
    (calendar
      : InCalendar config
          (floorAt (clock.now 1) config.npciRules.noticeLeadTime spacing previous))
    : ∃ done, (markNoticeSent case config clock reasonCode previous bandit).result = .ok done := by
  have shifted : Resolves { clock with now := fun i => clock.now (i + 1) } := resolves
  obtain ⟨scheduled, reasoning, computed, _⟩ := computeScheduledAt_total loaded shifted entry
    reasonCode picks calendar
  obtain ⟨entries, decision, sent, _⟩ := markNoticeSent_of_computed case config clock pending
    computed
  exact ⟨_, sent⟩

/-- A refused notice leaves the case as it was, or marked as sent where the scheduler
raised.
-/
theorem markNoticeSent_raised {reasonCode : Option String} {previous : Option Datetime}
    {bandit : Option Suggest} {raised : PyError}
    (failed
      : (markNoticeSent case config clock reasonCode previous bandit).result = .error raised)
    : (case.state ≠ .noticePending
        ∧ (markNoticeSent case config clock reasonCode previous bandit).case = case)
      ∨ (case.state = .noticePending
        ∧ (markNoticeSent case config clock reasonCode previous bandit).case
          = { case with state := .noticeSent }) := by
  unfold markNoticeSent at failed ⊢
  dsimp only at failed ⊢
  split at failed
  · next elsewhere => exact .inl ⟨elsewhere, by rw [if_pos elsewhere]⟩
  next pending =>
  rw [if_neg pending]
  split at failed
  · exact .inr ⟨not_not.mp pending, rfl⟩
  · cases failed

/-- A trigger moves a case out of its one source state. -/
theorem trigger_transition {fromState toState : CaseState}
    (triggers : Triggers fromState toState)
    {refusal rule : String} {cited : rule ≠ ""} {case' : RecoveryCase}
    {entries : List AuditEntry}
    (fired : trigger fromState toState refusal rule cited case clock = .ok (case', entries))
    : Transition config (clock.now 0) case case' entries := by
  unfold trigger at fired
  split at fired
  · cases fired
  next from_ =>
  cases fired
  cases not_not.mp from_
  exact .triggered triggers rule cited

theorem markRetryExecuted_transition {decision decision' : RetryDecision}
    {case' : RecoveryCase} {entries : List AuditEntry}
    (done : markRetryExecuted case decision clock = .ok (case', decision', entries))
    : Transition config (clock.now 0) case case' entries := by
  unfold markRetryExecuted at done
  split at done
  · cases done
  next scheduled =>
  cases done
  have scheduled := not_not.mp scheduled
  exact scheduled ▸ .triggered (scheduled ▸ .executed) _ (by decide)

/-- An execution is refused without a trace, or fires once the backend has approved it. -/
theorem attemptExecution_transition {decision decision' : RetryDecision}
    {commit : RetryDecision → Except PyError Bool} {case' : RecoveryCase}
    {entries : List AuditEntry} {committed : Bool}
    (done
      : attemptExecution case decision commit clock
        = .ok ((case', decision', entries), committed))
    : Transition config (clock.now 0) case case' entries := by
  unfold attemptExecution at done
  split at done
  · cases done
  next scheduled =>
  simp only [bind, Except.bind, pure, Except.pure] at done
  split at done
  · cases done
  split at done <;> cases done
  · have scheduled := not_not.mp scheduled
    exact scheduled ▸ .triggered (scheduled ▸ .executed) _ (by decide)
  · exact .unchanged

end Calls

end RecoveryAgent.StateMachine
