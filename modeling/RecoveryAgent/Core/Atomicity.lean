import RecoveryAgent.Core.RetryCap

/-! What an operation leaves of the case when it raises.
The triggers check the state before they change it. The outcome of a retry is counted before its
codes are classified, and a notice is marked as sent before its retry is scheduled: these two
leave a changed case behind where the second half raises.
-/

namespace RecoveryAgent.StateMachine

/-- What a call leaves that changes the case only where it returns. -/
def returned (case : RecoveryCase) : Except PyError (RecoveryCase × List AuditEntry)
    → Mutated (List AuditEntry)
  | .ok (case', entries) => ⟨case', .ok entries⟩
  | .error raised => ⟨case, .error raised⟩

/-- What a call leaves of the case it is handed, with the entries it returns or the exception it
raises.
-/
def outcome (config : AppConfig) (case : RecoveryCase) (clock : Clock)
    : Operation → Mutated (List AuditEntry)
  | .paymentFailed event =>
      let handled := handleExistingFailure case event config clock
      ⟨handled.case, handled.result.map (·.2)⟩
  | .paymentSucceeded event => returned case (.ok (handlePaymentSuccess case event clock))
  | .markNoticeSent reasonCode previous bandit =>
      let sent := markNoticeSent case config clock reasonCode previous bandit
      ⟨sent.case, sent.result.map (·.1)⟩
  | .markRetryExecuted decision =>
      returned case ((markRetryExecuted case decision clock).map fun (case, _, entries) =>
        (case, entries))
  | .attemptExecution decision commit =>
      returned case ((attemptExecution case decision commit clock).map
        fun ((case, _, entries), _) => (case, entries))
  | .applyThrottle => returned case (applyThrottle case clock)
  | .releaseThrottle => returned case (releaseThrottle case clock)

/-- A history keeps the case a call leaves, and the entries of a call that returns. -/
theorem call_eq_outcome (config : AppConfig) (case : RecoveryCase) (clock : Clock)
    (operation : Operation)
    : Tracked.call config case clock operation
      = ((outcome config case clock operation).case,
        (outcome config case clock operation).result.toOption.getD []) := by
  have kept_eq (done : Except PyError (RecoveryCase × List AuditEntry))
      : Tracked.kept case done
        = ((returned case done).case, (returned case done).result.toOption.getD []) := by
    cases done <;> rfl
  cases operation with
  | paymentFailed event =>
      simp only [Tracked.call, outcome, handlePaymentFailed]
      cases (handleExistingFailure case event config clock).result <;> rfl
  | paymentSucceeded event => rfl
  | markNoticeSent reasonCode previous bandit =>
      simp only [Tracked.call, outcome]
      cases (markNoticeSent case config clock reasonCode previous bandit).result <;> rfl
  | markRetryExecuted decision => exact kept_eq _
  | attemptExecution decision commit => exact kept_eq _
  | applyThrottle => exact kept_eq _
  | releaseThrottle => exact kept_eq _

/-- A call that raises has not changed the case it was handed. -/
def Atomic {α : Type} (case : RecoveryCase) (left : Mutated α) : Prop :=
  ∀ raised, left.result = .error raised → left.case = case

theorem atomic_returned (case : RecoveryCase)
    (done : Except PyError (RecoveryCase × List AuditEntry))
    : Atomic case (returned case done) := by
  intro raised failed
  cases done with
  | ok done => cases failed
  | error raised => rfl

/-- There is a spacing entry for the next retry, its schedule is in the calendar, the clock
resolves the delays it is asked for, and a bandit, if there is one, picks one of the slots it is
handed.
-/
def Schedulable (config : AppConfig) (case : RecoveryCase) (clock : Clock)
    (reasonCode : Option String) (previous : Option Datetime) (bandit : Option Suggest)
    : Prop :=
  ∃ slot spacing floor,
    config.selfImposed.spacing? case.retriesUsed = some spacing
    ∧ floor = floorAt (clock.now 1) config.npciRules.noticeLeadTime spacing previous
    ∧ BoundsReached config (clock.now 1) spacing previous
    ∧ Chosen config { clock with now := fun i => clock.now (i + 1) } reasonCode floor
        (floor + config.selfImposed.maxScheduleWindow) slot bandit

/-- A retry can be scheduled where the schedule from its floor is in the calendar. -/
theorem schedulable_of_inCalendar {config : AppConfig} (loaded : config.Loaded)
    {case : RecoveryCase} {clock : Clock} (resolves : Resolves clock) {spacing : Timedelta}
    (entry : config.selfImposed.spacing? case.retriesUsed = some spacing)
    (reasonCode : Option String) {previous : Option Datetime} {bandit : Option Suggest}
    (picks : ∀ suggest, bandit = some suggest → Picks suggest)
    (calendar
      : InCalendar config
          (floorAt (clock.now 1) config.npciRules.noticeLeadTime spacing previous))
    : Schedulable config case clock reasonCode previous bandit := by
  obtain ⟨scheduled, reasoning, computed, _⟩ :=
    @computeScheduledAt_total config loaded { clock with now := fun i => clock.now (i + 1) }
      resolves case.retriesUsed spacing entry reasonCode previous bandit picks calendar
  exact ⟨scheduled, computeScheduledAt_iff.mp ⟨reasoning, computed⟩⟩

/-- The notice of a schedulable retry is sent. -/
theorem Schedulable.sends {config : AppConfig} {case : RecoveryCase} {clock : Clock}
    {reasonCode : Option String} {previous : Option Datetime} {bandit : Option Suggest}
    (schedulable : Schedulable config case clock reasonCode previous bandit)
    (pending : case.state = .noticePending)
    : ∃ done, (markNoticeSent case config clock reasonCode previous bandit).result = .ok done := by
  obtain ⟨slot, chosen⟩ := schedulable
  obtain ⟨reasoning, computed⟩ := (@computeScheduledAt_iff config
    { clock with now := fun i => clock.now (i + 1) } case.retriesUsed reasonCode previous bandit
    slot).mpr chosen
  obtain ⟨entries, decision, sent, _⟩ := markNoticeSent_of_computed case config clock pending
    computed
  exact ⟨_, sent⟩

/-- The outcome of a retry has codes that can be classified, and a notice that is due a retry that
can be scheduled.
-/
def Settled (config : AppConfig) (case : RecoveryCase) (clock : Clock) : Operation → Prop
  | .paymentFailed event =>
      case.state = .retryExecuted → event.reasonCode.isCode ∧ event.errorReason.isCode
  | .markNoticeSent reasonCode previous bandit =>
      case.state = .noticePending → Schedulable config case clock reasonCode previous bandit
  | _ => True

/-- Codes are classified exactly if both are text or absent. -/
theorem classifyFailure_ok_iff {config : AppConfig} {reasonCode errorReason : Json}
    : (∃ verdict, classifyFailure config reasonCode errorReason = .ok verdict)
      ↔ reasonCode.isCode ∧ errorReason.isCode := by
  constructor
  · rintro ⟨verdict, classified⟩
    simp only [classifyFailure, bind, Except.bind] at classified
    split at classified
    · cases classified
    next code normalized =>
    split at classified
    · cases classified
    next reason normalized' =>
    exact ⟨⟨code, normalized⟩, ⟨reason, normalized'⟩⟩
  · rintro ⟨code, reason⟩
    exact classifyFailure_ok config code reason

section Calls

variable (config : AppConfig) (case : RecoveryCase) (clock : Clock)

/-- A failure is atomic unless it is the outcome of a retry with other codes. -/
theorem handleExistingFailure_atomic_iff (event : PaymentFailureEvent)
    : Atomic case (handleExistingFailure case event config clock)
      ↔ (case.state = .retryExecuted → event.reasonCode.isCode ∧ event.errorReason.isCode) := by
  constructor
  · intro atomic executed
    rw [← @classifyFailure_ok_iff config]
    cases classified : classifyFailure config event.reasonCode event.errorReason with
    | ok verdict => exact ⟨verdict, rfl⟩
    | error raised =>
        -- the attempt has been counted when its classification raises
        have counted : handleExistingFailure case event config clock
            = ⟨{ case with retriesUsed := case.retriesUsed + 1 }, .error raised⟩ := by
          simp [handleExistingFailure, executed, classified]
        have same := atomic raised (by rw [counted])
        rw [counted] at same
        simpa using congrArg RecoveryCase.retriesUsed same
  · intro codes raised failed
    obtain ⟨executed, _, classified⟩ := handleExistingFailure_raised case config clock failed
    obtain ⟨verdict, answered⟩ := classifyFailure_ok_iff.mpr (codes executed)
    cases classified.symm.trans answered

/-- A notice is atomic unless it is due and its retry cannot be scheduled. -/
theorem markNoticeSent_atomic_iff (reasonCode : Option String) (previous : Option Datetime)
    (bandit : Option Suggest)
    : Atomic case (markNoticeSent case config clock reasonCode previous bandit)
      ↔ (case.state = .noticePending
        → Schedulable config case clock reasonCode previous bandit) := by
  constructor
  · intro atomic pending
    cases result : (markNoticeSent case config clock reasonCode previous bandit).result with
    | ok done =>
        have computed := markNoticeSent_computed case config clock result
        exact ⟨_, computeScheduledAt_iff.mp ⟨_, computed⟩⟩
    | error raised =>
        -- the notice is marked as sent when its schedule raises
        have same := atomic raised result
        rcases markNoticeSent_raised case config clock result with ⟨elsewhere, _⟩ | ⟨_, noticed⟩
        · exact absurd pending elsewhere
        · rw [noticed] at same
          have state := congrArg RecoveryCase.state same
          rw [pending] at state
          cases state
  · intro schedulable raised failed
    rcases markNoticeSent_raised case config clock failed with ⟨_, same⟩ | ⟨pending, _⟩
    · exact same
    · obtain ⟨done, sent⟩ := (schedulable pending).sends pending
      cases failed.symm.trans sent

/-- An operation that raises leaves the case as it was, exactly if it is settled: every other
operation checks before it changes anything.
-/
theorem outcome_atomic_iff (operation : Operation)
    : Atomic case (outcome config case clock operation)
      ↔ Settled config case clock operation := by
  cases operation with
  | paymentFailed event =>
      refine Iff.trans ?_ (handleExistingFailure_atomic_iff config case clock event)
      simp only [Atomic, outcome]
      cases (handleExistingFailure case event config clock).result <;> simp [Except.map]
  | markNoticeSent reasonCode previous bandit =>
      refine Iff.trans ?_ (markNoticeSent_atomic_iff config case clock reasonCode previous bandit)
      simp only [Atomic, outcome]
      cases (markNoticeSent case config clock reasonCode previous bandit).result <;>
        simp [Except.map]
  | paymentSucceeded event => exact iff_of_true (atomic_returned case _) trivial
  | markRetryExecuted decision => exact iff_of_true (atomic_returned case _) trivial
  | attemptExecution decision commit => exact iff_of_true (atomic_returned case _) trivial
  | applyThrottle => exact iff_of_true (atomic_returned case _) trivial
  | releaseThrottle => exact iff_of_true (atomic_returned case _) trivial

end Calls

/-- A failure whose error code is a number. -/
def numberedDecline : PaymentFailureEvent := { technicalDecline with reasonCode := .int 42 }

/-- A bandit that answers with the epoch whatever it is handed. -/
def strayBandit : Suggest := fun _ => .ok 0

/-- The outcome of a retry with a number for its code is counted though the call raises, and a
notice stays marked as sent though the bandit's slot is refused, or the schedule window leads
past the calendar.
-/
theorem outcome_not_atomic
    : (∃ case : RecoveryCase, ¬ Atomic case
          (outcome (shippedConfig .prod) case (stoppedClock 0) (.paymentFailed numberedDecline)))
      ∧ ¬ Atomic declined.case
          (outcome (shippedConfig .prod) declined.case (stoppedClock 0)
            (.markNoticeSent none none (some strayBandit)))
      ∧ ¬ Atomic declined.case
          (outcome (wideConfig .prod) declined.case (stoppedClock 0)
            (.markNoticeSent none none none)) := by
  refine ⟨⟨{ declined.case with state := .retryExecuted }, fun atomic => ?_⟩, fun atomic => ?_,
    fun atomic => ?_⟩
  · have same := atomic .attributeError (by decide +kernel)
    exact absurd (congrArg RecoveryCase.retriesUsed same) (by decide +kernel)
  · have same := atomic (.assertionError "Bandit selected an illegal slot") (by decide +kernel)
    exact absurd (congrArg RecoveryCase.state same) (by decide +kernel)
  · have same := atomic .overflowError (by decide +kernel)
    exact absurd (congrArg RecoveryCase.state same) (by decide +kernel)

end RecoveryAgent.StateMachine
