import RecoveryAgent.Core.Lifecycle

/-! The retry cap over whole histories of one case.
The counter alone does not bound the executions: it is raised only when an outcome arrives.
What carries the bound is that the counter is below the cap wherever an execution is still
possible, together with the number of executions the trail shows.
-/

namespace RecoveryAgent.StateMachine

-----------------------------------------------------------------------------------------
-- Histories
-----------------------------------------------------------------------------------------

/-- The calls that can be made on an opened case. -/
inductive Operation where
  | paymentFailed (event : PaymentFailureEvent)
  | paymentSucceeded (event : PaymentSuccessEvent)
  | markNoticeSent (reasonCode : Option String) (previousExecutedAt : Option Datetime)
      (bandit : Option Suggest)
  | markRetryExecuted (decision : RetryDecision)
  | attemptExecution (decision : RetryDecision) (commit : RetryDecision → Except PyError Bool)
  | applyThrottle
  | releaseThrottle

/-- Failure deliveries carry codes that can be classified: text, or none. -/
def Operation.StringCodes : Operation → Prop
  | .paymentFailed event => event.reasonCode.isCode ∧ event.errorReason.isCode
  | _ => True

/-- A case with the entries written about it so far. -/
structure Tracked where
  case : RecoveryCase
  trail : List AuditEntry
  deriving DecidableEq

namespace Tracked

/-- The case a first failure opens. -/
def opened (event : PaymentFailureEvent) (config : AppConfig) (clock : Clock)
    : Except PyError Tracked :=
  (handlePaymentFailed none event config clock).map fun (case, _, entries) => ⟨case, entries⟩

/-- What is kept of a call that returns a changed case, or raises and changes nothing. -/
def kept (case : RecoveryCase) : Except PyError (RecoveryCase × List AuditEntry)
    → RecoveryCase × List AuditEntry
  | .ok done => done
  | .error _ => (case, [])

/-- One call: the case it leaves and the entries it returns. -/
def call (config : AppConfig) (case : RecoveryCase) (clock : Clock)
    : Operation → RecoveryCase × List AuditEntry
  | .paymentFailed event =>
      kept (handleExistingFailure case event config clock).case
        ((handlePaymentFailed (some case) event config clock).map fun (case, _, entries) =>
          (case, entries))
  | .paymentSucceeded event => handlePaymentSuccess case event clock
  | .markNoticeSent reasonCode previous bandit =>
      let sent := StateMachine.markNoticeSent case config clock reasonCode previous bandit
      kept sent.case (sent.result.map fun (entries, _) => (sent.case, entries))
  | .markRetryExecuted decision =>
      kept case ((StateMachine.markRetryExecuted case decision clock).map
        fun (case, _, entries) => (case, entries))
  | .attemptExecution decision commit =>
      kept case ((StateMachine.attemptExecution case decision commit clock).map
        fun ((case, _, entries), _) => (case, entries))
  | .applyThrottle => kept case (StateMachine.applyThrottle case clock)
  | .releaseThrottle => kept case (StateMachine.releaseThrottle case clock)

/-- One call extends the history by the entries it returned. -/
def perform (config : AppConfig) (tracked : Tracked) (step : Operation × Clock) : Tracked :=
  let done := call config tracked.case step.2 step.1
  ⟨done.1, tracked.trail ++ done.2⟩

/-- A history of calls, each with the clock readings it sees. -/
def performAll (config : AppConfig) (start : Tracked) (steps : List (Operation × Clock))
    : Tracked :=
  steps.foldl (perform config) start

/-- Every call is a transition at its first clock reading, or has counted an outcome whose
codes cannot be classified.
-/
theorem call_cases (config : AppConfig) (case : RecoveryCase) (clock : Clock)
    (operation : Operation)
    : Transition config (clock.now 0) case (call config case clock operation).1
          (call config case clock operation).2
      ∨ (case.state = .retryExecuted ∧ ¬ operation.StringCodes
        ∧ call config case clock operation
          = ({ case with retriesUsed := case.retriesUsed + 1 }, [])) := by
  cases operation with
  | paymentFailed event =>
      simp only [call, handlePaymentFailed]
      cases handled : (handleExistingFailure case event config clock).result with
      | error raised =>
          obtain ⟨executed, counted, failed⟩
            := handleExistingFailure_raised case config clock handled
          refine .inr ⟨executed, fun codes => ?_, by rw [counted]; rfl⟩
          obtain ⟨_, classified⟩ := classifyFailure_ok config codes.1 codes.2
          rw [classified] at failed
          cases failed
      | ok done =>
          exact .inl (.answered (handleExistingFailure_answer case config clock handled))
  | paymentSucceeded event =>
      exact .inl (.answered (handlePaymentSuccess_answer case config clock event))
  | markNoticeSent reasonCode previous bandit =>
      simp only [call]
      cases result
        : (StateMachine.markNoticeSent case config clock reasonCode previous bandit).result with
      | error raised =>
          simp only [kept, Except.map]
          rcases markNoticeSent_raised case config clock result with
            ⟨_, same⟩ | ⟨pending, noticed⟩
          · rw [same]
            exact .inl .unchanged
          · rw [noticed]
            exact .inl (.noticeLost pending)
      | ok done =>
          have sent := markNoticeSent_ok case config clock result
          have step : Transition config (clock.now 0) case _ _ :=
            .noticed sent.pending done.2.scheduledAt
          rw [← sent.case_eq, ← sent.entries_eq] at step
          exact .inl step
  | markRetryExecuted decision =>
      simp only [call]
      cases result : StateMachine.markRetryExecuted case decision clock with
      | error raised => exact .inl .unchanged
      | ok done => exact .inl (markRetryExecuted_transition case config clock result)
  | attemptExecution decision commit =>
      simp only [call]
      cases result : StateMachine.attemptExecution case decision commit clock with
      | error raised => exact .inl .unchanged
      | ok done => exact .inl (attemptExecution_transition case config clock result)
  | applyThrottle =>
      simp only [call]
      cases result : StateMachine.applyThrottle case clock with
      | error raised => exact .inl .unchanged
      | ok done => exact .inl (trigger_transition case config clock .throttled result)
  | releaseThrottle =>
      simp only [call]
      cases result : StateMachine.releaseThrottle case clock with
      | error raised => exact .inl .unchanged
      | ok done => exact .inl (trigger_transition case config clock .released result)

/-- Every call with classifiable codes is a transition at its first clock reading. -/
theorem call_transition (config : AppConfig) (case : RecoveryCase) (clock : Clock)
    {operation : Operation} (codes : operation.StringCodes)
    : Transition config (clock.now 0) case (call config case clock operation).1
        (call config case clock operation).2 :=
  (call_cases config case clock operation).resolve_right fun counted => counted.2.1 codes

/-- A call leaves the identity of the case alone. -/
theorem call_sameCase (config : AppConfig) (case : RecoveryCase) (clock : Clock)
    (operation : Operation)
    : SameCase case (call config case clock operation).1 := by
  rcases call_cases config case clock operation with step | ⟨_, _, counted⟩
  · exact step.sameCase
  · rw [counted]
    exact ⟨rfl, rfl, rfl, rfl, rfl⟩

/-- So does every run of calls, by induction over the calls. -/
theorem performAll_sameCase (config : AppConfig) (start : Tracked)
    (steps : List (Operation × Clock))
    : SameCase start.case (start.performAll config steps).case := by
  induction steps generalizing start with
  | nil => exact .refl _
  | cons step rest ih =>
      have first := call_sameCase config start.case step.2 step.1
      have later : SameCase (start.perform config step).case
          ((start.perform config step).performAll config rest).case := ih _
      exact first.trans later

-----------------------------------------------------------------------------------------
-- The invariant
-----------------------------------------------------------------------------------------

/-- How often the case has been moved into execution. -/
def executions (trail : List AuditEntry) : Nat :=
  trail.countP (·.Enters .retryExecuted)

@[simp] theorem executions_append (left right : List AuditEntry)
    : executions (left ++ right) = executions left + executions right :=
  List.countP_append

/-- The trail shows a payment collected by a retry. -/
def Collected (trail : List AuditEntry) : Prop :=
  ∃ entry ∈ trail, entry.fromState = .retryExecuted ∧ entry.toState = .recovered

instance (trail : List AuditEntry) : Decidable (Collected trail) :=
  inferInstanceAs (Decidable (∃ entry ∈ trail, _))

@[simp] theorem collected_append (left right : List AuditEntry)
    : Collected (left ++ right) ↔ Collected left ∨ Collected right := by
  simp only [Collected, List.mem_append, or_and_right, exists_or]

/-- One more entry is an execution when it enters that state from another. -/
@[simp] theorem executions_cons (entry : AuditEntry) (rest : List AuditEntry)
    : executions (entry :: rest)
      = (if entry.Enters .retryExecuted then 1 else 0) + executions rest := by
  simp only [executions, List.countP_cons, decide_eq_true_eq, Nat.add_comm]

@[simp] theorem collected_cons (entry : AuditEntry) (rest : List AuditEntry)
    : Collected (entry :: rest)
      ↔ (entry.fromState = .retryExecuted ∧ entry.toState = .recovered) ∨ Collected rest := by
  simp [Collected]

@[simp] theorem executions_nil : executions [] = 0 := rfl

@[simp] theorem collected_nil : ¬ Collected [] := by simp [Collected]

/-- An execution without a negative outcome: it awaits one, or it collected the payment. -/
def Outstanding (tracked : Tracked) : Prop :=
  tracked.case.state = .retryExecuted
    ∨ tracked.case.state = .recovered ∧ Collected tracked.trail

instance (tracked : Tracked) : Decidable tracked.Outstanding :=
  inferInstanceAs (Decidable (_ ∨ _))

/-- States from which the case can still be charged. -/
def chargeable (state : CaseState) : Prop :=
  state ∈ [CaseState.noticePending, .noticeSent, .retryScheduled, .throttled, .retryExecuted]

instance (state : CaseState) : Decidable (chargeable state) :=
  inferInstanceAs (Decidable (_ ∈ _))

/-- Counter, state and history agree, and leave room for the execution still possible. -/
structure Budget (config : AppConfig) (tracked : Tracked) : Prop where
  cap : (tracked.case.retriesUsed : Int) ≤ config.npciRules.maxRetries
  spare
    : chargeable tracked.case.state ∨ tracked.Outstanding
      → (tracked.case.retriesUsed : Int) < config.npciRules.maxRetries
  count
    : executions tracked.trail
      = tracked.case.retriesUsed + if tracked.Outstanding then 1 else 0
  closed : Collected tracked.trail → tracked.case.state = .recovered

/-- A case is opened within its budget: nothing has been executed. -/
theorem Budget.opened {event : PaymentFailureEvent} {config : AppConfig} {clock : Clock}
    {start : Tracked} (capped : 1 ≤ config.npciRules.maxRetries)
    (opened : Tracked.opened event config clock = .ok start)
    : Budget config start := by
  unfold Tracked.opened handlePaymentFailed at opened
  dsimp only at opened
  cases created : handleNewFailure event config clock with
  | error raised => rw [created] at opened; cases opened
  | ok done =>
      rw [created] at opened
      cases opened
      have fresh := handleNewFailure_opened created
      have unused := fresh.retriesUsed
      have uncollected : ¬ Collected done.2.2 := by
        rintro ⟨entry, member, from_, _⟩
        exact fresh.fromOpening entry member from_
      have idle : ¬ Outstanding ⟨done.1, done.2.2⟩ := by
        rintro (executed | ⟨_, collected⟩)
        · have state := fresh.state
          dsimp only at executed
          simp [openingState, executed] at state
        · exact uncollected collected
      have none_executed : executions done.2.2 = 0 :=
        List.countP_eq_zero.mpr fun entry member enters =>
          fresh.notExecuted entry member (of_decide_eq_true enters).1
      exact {
        cap := by simp only [unused]; omega
        spare := fun _ => by simp only [unused]; omega
        count := by simp [none_executed, unused, idle]
        closed := fun collected => absurd collected uncollected
      }

/-- Every transition keeps the budget. Witness: an execution spends the spare retry, an
outcome raises the counter by the one it spent, and nothing leaves RECOVERED.
-/
theorem Budget.step {config : AppConfig} {now : Datetime} {case case' : RecoveryCase}
    {trail entries : List AuditEntry} (budget : Budget config ⟨case, trail⟩)
    (step : Transition config now case case' entries)
    : Budget config ⟨case', trail ++ entries⟩ := by
  obtain ⟨cap, spare, count, closed⟩ := budget
  simp only [Outstanding] at spare count
  dsimp only at cap closed
  cases step with
  | unchanged => simpa using Budget.mk cap spare count closed
  | answered answer =>
      cases answer with
      | noted rule cited =>
          have neither : ¬ (case.state = .retryExecuted ∧ case.state = .recovered) := by
            rintro ⟨executed, recovered⟩
            cases executed.symm.trans recovered
          have same : Collected (trail ++ [audit case.caseId case.state case.state rule now cited])
              ↔ Collected trail := by
            simp [neither]
          have still
              : executions (trail ++ [audit case.caseId case.state case.state rule now cited])
                = executions trail := by
            simp [AuditEntry.Enters]
          exact {
            cap := cap
            spare := by simpa only [Outstanding, same] using spare
            count := by
              rw [still, count]
              exact congrArg _ (if_congr (by simp only [Outstanding, same]) rfl rfl)
            closed := by simpa only [same] using closed
          }
      | settled settles outcome rule cited =>
          obtain ⟨_, _, _, _, _, retriesUsed, state⟩ := case
          dsimp only at *
          cases settles with
          | naturallyRecovered awaiting =>
              rcases awaitsExecution_iff.mp awaiting with rfl | rfl | rfl | rfl <;>
              constructor <;> simp_all [Outstanding, chargeable, AuditEntry.Enters]
          | _ => constructor <;> simp_all [Outstanding, chargeable, AuditEntry.Enters]
      | evaluated executed eligible rule cited =>
          have spent := spare (.inl (by simp [chargeable, executed]))
          have within : (case.retriesUsed : Int) + 1 ≤ config.npciRules.maxRetries := spent
          rcases eligible with rfl | ⟨rfl, below⟩ <;>
          constructor <;> simp_all [Outstanding, chargeable, AuditEntry.Enters]
  | triggered triggers rule cited =>
      obtain ⟨_, _, _, _, _, retriesUsed, state⟩ := case
      dsimp only at *
      cases triggers <;> constructor <;>
        simp_all [Outstanding, chargeable, AuditEntry.Enters]
  | noticeLost pending =>
      constructor <;> simp_all [Outstanding, chargeable]
  | noticed pending scheduledAt =>
      constructor <;> simp_all [Outstanding, chargeable, AuditEntry.Enters, noticeEntries]

/-- The executions are within the cap: an outstanding one was spent from the spare retry. -/
theorem Budget.executions_le {config : AppConfig} {tracked : Tracked}
    (budget : Budget config tracked)
    : (executions tracked.trail : Int) ≤ config.npciRules.maxRetries := by
  rw [budget.count]
  split
  · next outstanding =>
      have below := budget.spare (.inr outstanding)
      push_cast
      omega
  · simpa using budget.cap

/-- The budget holds after every history of calls, by induction over the calls. -/
theorem Budget.performAll {config : AppConfig} {start : Tracked} (budget : Budget config start)
    {steps : List (Operation × Clock)} (codes : ∀ step ∈ steps, step.1.StringCodes)
    : Budget config (start.performAll config steps) := by
  induction steps generalizing start with
  | nil => exact budget
  | cons step rest ih =>
      have first := budget.step (call_transition config start.case step.2 (codes step (by simp)))
      exact ih first fun later member => codes later (List.mem_cons_of_mem _ member)

end Tracked

-----------------------------------------------------------------------------------------
-- The cap
-----------------------------------------------------------------------------------------

/-- From the opening on, whatever is called in whatever order, the counter and the number
of executions stay within the cap, and they differ by the execution without a negative
outcome. Witness: the budget of the final history.
-/
theorem retries_capped {event : PaymentFailureEvent} {config : AppConfig} {clock : Clock}
    {start : Tracked} {steps : List (Operation × Clock)}
    (capped : 1 ≤ config.npciRules.maxRetries)
    (opened : Tracked.opened event config clock = .ok start)
    (codes : ∀ step ∈ steps, step.1.StringCodes)
    : let final := start.performAll config steps
      (final.case.retriesUsed : Int) ≤ config.npciRules.maxRetries
      ∧ (Tracked.executions final.trail : Int) ≤ config.npciRules.maxRetries
      ∧ Tracked.executions final.trail
        = final.case.retriesUsed + if final.Outstanding then 1 else 0 := by
  intro final
  have budget := (Tracked.Budget.opened capped opened).performAll codes
  exact ⟨budget.cap, budget.executions_le, budget.count⟩

-----------------------------------------------------------------------------------------
-- A history
-----------------------------------------------------------------------------------------

/-- A technical decline of ₹500 on a mandate of the treatment bucket. -/
def technicalDecline : PaymentFailureEvent where
  caseId := "pay_2"
  paymentId := "pay_2"
  attemptNumber := 1
  reasonCode := .str "upi_timeout"
  declineClass := .unclassified
  amount := 50000
  receivedAt := 0
  mandateId := some "mandate_1"
  instrumentId := "card_1"
  errorReason := .null
  errorSource := .null
  errorStep := .null
  notes := some []
  attemptNumber_pos := by decide
  amount_pos := fiveHundredRupees_pos
  paymentId_ne := ne_empty _ trivial
  caseId_ne := ne_empty _ trivial

/-- A capture of the given amount on that case. -/
def capture (amount : Int) (amount_pos : 0 < amount) : PaymentSuccessEvent where
  caseId := "pay_2"
  paymentId := "pay_9"
  amount := amount
  capturedAt := 0
  caseId_ne := by decide
  paymentId_ne := by decide
  amount_pos := amount_pos

/-- The retry decided for the case's first attempt. -/
def firstDecision : RetryDecision where
  caseId := "pay_2"
  attemptNumber := 1
  scheduledAt := hours 24
  reasoning := "Retry attempt 1"
  commitBackend := .postgresOutbox
  commitRef := "retry-pay_2-1"
  attemptNumber_pos := by decide
  reasoning_ne := by decide
  commitRef_ne := by decide

/-- A real clock that stands at one instant. -/
def stoppedClock (t : Datetime) : Clock := ⟨fun _ => t, RealClock.resolveDelay⟩

theorem stoppedClock_identity (t : Datetime) : Identity (stoppedClock t) := by
  intro delay resolved found
  simp only [stoppedClock, RealClock.resolveDelay] at found
  split at found <;> cases found
  rfl

theorem stoppedClock_resolves (t : Datetime) : Resolves (stoppedClock t) :=
  fun delay legal => ⟨delay, if_neg (not_lt.mpr legal), legal, le_rfl⟩

/-- The shipped configuration with a schedule window of 100000000 hours, past the end of the
calendar.
-/
def wideConfig (profile : ProfileName) : AppConfig :=
  { shippedConfig profile with
    selfImposed := {
      (shippedConfig profile).selfImposed with maxScheduleWindow := hours 100000000 } }

theorem wideConfig_loaded (profile : ProfileName) : (wideConfig profile).Loaded where
  leadTime := (shippedConfig_loaded profile).leadTime
  scheduleWindow := by cases profile <;> decide
  spacing := (shippedConfig_loaded profile).spacing
  wholeMinutes := (shippedConfig_loaded profile).wholeMinutes

/-- The case after its first failure. -/
def declined : Tracked where
  case := {
    caseId := "pay_2"
    mandateId := "mandate_1"
    instrumentId := "card_1"
    originalAmount := 50000
    openedAt := 0
    state := .noticePending
    bucket := some .treatment
    caseId_ne := ne_empty _ trivial
    mandateId_ne := ne_empty _ trivial
    instrumentId_ne := ne_empty _ trivial
    originalAmount_pos := fiveHundredRupees_pos
  }
  trail := [
    audit "pay_2" .received .classified "create_case" 0,
    audit "pay_2" .classified .treatment "assign_bucket_treatment" 0,
    audit "pay_2" .treatment .noticePending "technical_decline" 0]

theorem declined_opened
    : Tracked.opened technicalDecline (shippedConfig .prod) (stoppedClock 0) = .ok declined := by
  decide +kernel

/-- A first retry that is executed and collects the payment. -/
def collectingSteps : List (Operation × Clock) := [
  (.markNoticeSent none none none, stoppedClock 0),
  (.markRetryExecuted firstDecision, stoppedClock (hours 24)),
  (.paymentSucceeded (capture 50000 (by decide)), stoppedClock (hours 25))]

/-- The bounds on a first retry that collects the payment. -/
theorem retries_capped_collected
    : let final := declined.performAll (shippedConfig .prod) collectingSteps
      (final.case.retriesUsed : Int) ≤ (shippedConfig .prod).npciRules.maxRetries
      ∧ (Tracked.executions final.trail : Int) ≤ (shippedConfig .prod).npciRules.maxRetries
      ∧ Tracked.executions final.trail
        = final.case.retriesUsed + if final.Outstanding then 1 else 0 :=
  retries_capped (by decide) declined_opened (by simp [collectingSteps, Operation.StringCodes])

/-- A first retry executed, then the given number of captures of a wrong amount. -/
def mismatchedSteps (n : Nat) : List (Operation × Clock) := [
  (.markNoticeSent none none none, stoppedClock 0),
  (.markRetryExecuted firstDecision, stoppedClock (hours 24))]
  ++ List.replicate n (.paymentSucceeded (capture 40000 (by decide)), stoppedClock (hours 25))

/-- Counting every entry whose target is RETRY_EXECUTED breaks the cap: a wrong amount is
noted by an entry from the state to itself, as often as it is delivered. Witness: one
execution under a cap of three, and three captures of a wrong amount.
-/
theorem retries_not_capped_by_target
    : ¬ ∀ (event : PaymentFailureEvent) (config : AppConfig) (clock : Clock) (start : Tracked)
        (steps : List (Operation × Clock)),
        1 ≤ config.npciRules.maxRetries
        → Tracked.opened event config clock = .ok start
        → (∀ step ∈ steps, step.1.StringCodes)
        → let final := start.performAll config steps
          let executed := final.trail.countP (·.toState = .retryExecuted)
          (final.case.retriesUsed : Int) ≤ config.npciRules.maxRetries
          ∧ (executed : Int) ≤ config.npciRules.maxRetries
          ∧ executed = final.case.retriesUsed + if final.Outstanding then 1 else 0 := by
  intro claimed
  have bounds := claimed technicalDecline (shippedConfig .prod) (stoppedClock 0) declined
    (mismatchedSteps 3) (by decide) declined_opened
    (by simp [mismatchedSteps, Operation.StringCodes])
  have four
      : (declined.performAll (shippedConfig .prod) (mismatchedSteps 3)).trail.countP
          (·.toState = .retryExecuted) = 4 := by
    decide +kernel
  have capped := bounds.2.1
  rw [four] at capped
  exact absurd capped (by decide)

end RecoveryAgent.StateMachine
