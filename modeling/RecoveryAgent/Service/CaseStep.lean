import RecoveryAgent.Service.Execution
import RecoveryAgent.Core.Lifecycle

/-! What every request but an execution does to what is stored: one step of one case.
-/

namespace RecoveryAgent

open StateMachine

/-- A success delivery for the case whose amount is not the case's. -/
def Request.Mismatches (store : CaseStore) (case : RecoveryCase) : Request → Prop
  | .paymentSucceeded _ entity =>
      store.findCaseByMandate (entity.mandateId.getD "") = some case
      ∧ entity.amount ≠ some case.originalAmount
  | .simulateSuccess request =>
      store.findCaseByMandate (request.mandateId.getD "") = some case
      ∧ request.amountPaise ≠ case.originalAmount
  | _ => False

/-- A failure delivery for the case whose codes cannot be classified. -/
def Request.Unclassifiable (config : AppConfig) (store : CaseStore) (case : RecoveryCase)
    : Request → Prop
  | .paymentFailed _ entity =>
      entity.mandateId.bind store.findCaseByMandate = some case
      ∧ ∃ raised,
          classifyFailure config (entity.errorCode.getD (.str "")) entity.errorReason
          = .error raised
  | .simulateFailure request =>
      request.mandateId.bind store.findCaseByMandate = some case
      ∧ ∃ raised,
          classifyFailure config (.str request.errorCode)
            ((request.errorReason.map Json.str).getD .null) = .error raised
  | _ => False

/-- The decision of a notice sent at the `i`-th reading: for the next attempt, at or after
the floor computed from the next reading.
-/
structure Scheduled (config : AppConfig) (clock : ServiceClock) (i : Nat)
    (case : RecoveryCase) (decision : RetryDecision)
    : Prop where
  caseId : decision.caseId = case.caseId
  attemptNumber : decision.attemptNumber = case.retriesUsed + 1
  outcome : decision.outcome = .pending
  floor
    : config.Loaded
      → ∃ spacing,
          config.selfImposed.spacing? case.retriesUsed = some spacing
          ∧ clock.reading (i + 1) + config.npciRules.noticeLeadTime ≤ decision.scheduledAt
          ∧ clock.reading (i + 1) + spacing ≤ decision.scheduledAt

/-- A notice sent with a bandit decides a retry at or after its floor. -/
theorem Scheduled.ofNoticed {config : AppConfig} {clock : ServiceClock}
    {case case' : RecoveryCase} {suggest : Suggest} {entries : List AuditEntry}
    {decision : RetryDecision}
    (sent : Noticed case config clock.view none (some suggest) case' entries decision)
    : Scheduled config clock 0 case decision where
  caseId := sent.caseId
  attemptNumber := sent.attemptNumber
  outcome := sent.outcome
  floor loaded := by
    obtain ⟨_, computed⟩ := sent.computed
    have forward : Forward { clock.view with now := fun i => clock.view.now (i + 1) } :=
      fun delay resolved found => forward_view clock delay resolved found
    exact computeScheduledAt_floor loaded forward computed

theorem Scheduled.after {config : AppConfig} {clock : ServiceClock} {earlier i : Nat}
    {case : RecoveryCase} {decision : RetryDecision}
    (decided : Scheduled config (clock.skip earlier) i case decision)
    : Scheduled config clock (earlier + i) case decision where
  caseId := decided.caseId
  attemptNumber := decided.attemptNumber
  outcome := decided.outcome
  floor loaded := by
    have floor := decided.floor loaded
    simp only [ServiceClock.reading_skip] at floor
    exact floor

/-- What one request other than an execution does to what is stored about one case, with so
many readings of the clock. The audit entries of a delivery are lost where its payment is
already recorded.
-/
inductive CaseStep (config : AppConfig) (request : Request) (world : World) (spent : Nat)
    (caseId : String)
    : CaseView → Prop where
  | same : CaseStep config request world spent caseId (world.view caseId)
  | opened {event : PaymentFailureEvent} {case : RecoveryCase}
      {entries written : List AuditEntry} {i : Nat} (early : i < spent)
      (absent : (world.view caseId).case = none)
      (opened : Opened event (world.clock.reading i) case entries)
      (part : written <+: entries)
    : CaseStep config request world spent caseId
        { world.view caseId with case := some case, trail := (world.view caseId).trail ++ written }
  | answered {case case' : RecoveryCase} {entries written : List AuditEntry} {i : Nat}
      (early : i < spent) (stored : (world.view caseId).case = some case)
      (answer : Answer config (world.clock.reading i) case case' entries)
      (part : written <+: entries)
      (flags
        : (∃ entry ∈ entries, entry.toState = .retryExecuted)
          → request.Mismatches world.store case ∨ case.bucket = some .control)
    : CaseStep config request world spent caseId
        { world.view caseId with case := some case', trail := (world.view caseId).trail ++ written }
  /-- In memory, an outcome whose codes cannot be classified has been counted already. -/
  | counted {case : RecoveryCase} (inMemory : world.store.isInMemory = true)
      (stored : (world.view caseId).case = some case) (executed : case.state = .retryExecuted)
      (unclassifiable : request.Unclassifiable config world.store case)
    : CaseStep config request world spent caseId
        { world.view caseId with case := some { case with retriesUsed := case.retriesUsed + 1 } }
  /-- In memory, a notice is marked as sent although its retry could not be scheduled. -/
  | noticeLost {case : RecoveryCase} (stored : (world.view caseId).case = some case)
      (pending : case.state = .noticePending)
    : CaseStep config request world spent caseId
        { world.view caseId with case := some { case with state := .noticeSent } }
  | noticed (demo : config.profileName = .demo) {case : RecoveryCase}
      {decision : RetryDecision} {i : Nat} (early : i + 1 < spent)
      (stored : (world.view caseId).case = some case) (pending : case.state = .noticePending)
      (decided : Scheduled config world.clock i case decision)
      (first : decision.attemptNumber ∉ (world.view caseId).decisions.map (·.attemptNumber))
    : CaseStep config request world spent caseId
        { world.view caseId with
          case := some { case with state := .retryScheduled }
          decisions := (world.view caseId).decisions ++ [decision]
          trail := (world.view caseId).trail
            ++ noticeEntries caseId (world.clock.reading i) decision.scheduledAt }
  /-- The decision of a notice is refused where its attempt has one already. -/
  | noticedAgain (demo : config.profileName = .demo) {case : RecoveryCase}
      {decision : RetryDecision} {i : Nat} (early : i + 1 < spent)
      (stored : (world.view caseId).case = some case)
      (pending : case.state = .noticePending)
      (decided : Scheduled config world.clock i case decision)
      (again : decision.attemptNumber ∈ (world.view caseId).decisions.map (·.attemptNumber))
    : CaseStep config request world spent caseId
        { world.view caseId with
          case := some { case with state := .retryScheduled }
          trail := (world.view caseId).trail
            ++ noticeEntries caseId (world.clock.reading i) decision.scheduledAt }
  | resolved {case : RecoveryCase} {note : ResolutionNote} {i : Nat} (early : i < spent)
      (stored : (world.view caseId).case = some case) (escalated : case.state = .escalated)
    : CaseStep config request world spent caseId
        { world.view caseId with
          case := some { case with state := .resolvedByHuman, resolutionNote := some note }
          trail := (world.view caseId).trail
            ++ [Handler.humanResolution caseId (world.clock.reading i)] }

/-- A step seen from a clock that has been read before. -/
theorem CaseStep.after {config : AppConfig} {request : Request} {world : World}
    {earlier spent : Nat} {caseId : String} {view : CaseView}
    (step : CaseStep config request (world.tick earlier) spent caseId view)
    : CaseStep config request world (earlier + spent) caseId view := by
  cases step with
  | same => exact .same
  | opened early absent opened part =>
      rw [World.tick_clock, ServiceClock.reading_skip] at opened
      exact .opened (Nat.add_lt_add_left early _) absent opened part
  | answered early stored answer part flags =>
      rw [World.tick_clock, ServiceClock.reading_skip] at answer
      exact .answered (Nat.add_lt_add_left early _) stored answer part flags
  | counted inMemory stored executed unclassifiable =>
      exact .counted inMemory stored executed unclassifiable
  | noticeLost stored pending => exact .noticeLost stored pending
  | noticed demo early stored pending decided first =>
      rw [World.tick_clock, ServiceClock.reading_skip]
      exact .noticed demo (Nat.add_lt_add_left early _) stored pending decided.after first
  | noticedAgain demo early stored pending decided again =>
      rw [World.tick_clock, ServiceClock.reading_skip]
      exact .noticedAgain demo (Nat.add_lt_add_left early _) stored pending decided.after again
  | resolved early stored escalated =>
      rw [World.tick_clock, ServiceClock.reading_skip]
      exact .resolved (Nat.add_lt_add_left early _) stored escalated

/-- A worker has changed what is stored by one step of one case. -/
def World.Stepped (config : AppConfig) (request : Request) (world world' : World) : Prop :=
  ∃ spent caseId view,
    world.Touched world' spent caseId view
    ∧ CaseStep config request world spent caseId view

namespace World.Stepped

variable {config : AppConfig} {request : Request} {world world' : World}

/-- Readings alone are the step that changes nothing. -/
theorem tick (sound : SoundLog world.log) (spent : Nat)
    : World.Stepped config request world (world.tick spent) :=
  ⟨spent, "", _, World.Touched.tick sound "" spent, .same⟩

theorem refl (sound : SoundLog world.log) : World.Stepped config request world world :=
  tick sound 0

theorem after {earlier : Nat} (stepped : World.Stepped config request (world.tick earlier) world')
    : World.Stepped config request world world' := by
  obtain ⟨spent, caseId, view, touched, step⟩ := stepped
  exact ⟨earlier + spent, caseId, view, touched.after, step.after⟩

end World.Stepped

end RecoveryAgent
