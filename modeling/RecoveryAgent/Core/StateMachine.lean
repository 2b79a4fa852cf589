import RecoveryAgent.Core.Scheduling
import RecoveryAgent.Lib.Sha256

/-! The state machine of one case (`app/core/state_machine.py`).
Every operation mutates the case object it is handed. An operation that can raise is
modelled with the case as it leaves it beside its outcome, so that a change made before
the exception is not lost.
-/

namespace RecoveryAgent

/-- What an operation leaves behind: the case object, mutated in place, and what the call
returned or raised.
-/
structure Mutated (α : Type) where
  case : RecoveryCase
  result : Except PyError α

namespace StateMachine

/-- `int(text, 16)` on lower-case hexadecimal digits. -/
def hexValue (text : String) : Nat :=
  text.toList.foldl
    (fun n c => n * 16 + (if c.isDigit then c.toNat - 48 else c.toNat - 87)) 0

/-- `_sha256_int`. -/
def sha256Int (text : String) : Nat := hexValue (Sha256.hexdigest text)

/-- `is_control_case`: one case in `controlPercent` of a hundred is held for control. -/
def isControlCase (caseId : String) (controlPercent : Nat := 20) : Bool :=
  sha256Int caseId % 100 < controlPercent

/-- `_audit`, with the rule version and the actor every caller here passes. -/
def audit (caseId : String) (fromState toState : CaseState) (ruleFired : String)
    (timestamp : Datetime) (cited : ruleFired ≠ "" := by exact ne_empty _ trivial)
    : AuditEntry where
  caseId := caseId
  fromState := fromState
  toState := toState
  ruleFired := ruleFired
  ruleVersion := ruleVersion
  timestamp := timestamp
  actor := .agent
  ruleFired_ne := cited

section Audit

variable {caseId ruleFired : String} {fromState toState : CaseState} {timestamp : Datetime}
  {cited : ruleFired ≠ ""}

@[simp] theorem audit_caseId
    : (audit caseId fromState toState ruleFired timestamp cited).caseId = caseId := rfl

@[simp] theorem audit_fromState
    : (audit caseId fromState toState ruleFired timestamp cited).fromState = fromState := rfl

@[simp] theorem audit_toState
    : (audit caseId fromState toState ruleFired timestamp cited).toState = toState := rfl

@[simp] theorem audit_ruleFired
    : (audit caseId fromState toState ruleFired timestamp cited).ruleFired = ruleFired := rfl

@[simp] theorem audit_timestamp
    : (audit caseId fromState toState ruleFired timestamp cited).timestamp = timestamp := rfl

end Audit

-----------------------------------------------------------------------------------------
-- Success events
-----------------------------------------------------------------------------------------

/-- The states a late success is accepted from before the agent has fired. -/
def awaitsExecution (state : CaseState) : Bool :=
  state ∈ [.noticePending, .noticeSent, .retryScheduled, .throttled]

theorem awaitsExecution_iff {state : CaseState}
    : awaitsExecution state = true
      ↔ state = .noticePending ∨ state = .noticeSent ∨ state = .retryScheduled
        ∨ state = .throttled := by
  simp [awaitsExecution]

/-- `handle_payment_success`. A wrong amount is noted and changes nothing; it never raises. -/
def handlePaymentSuccess (case : RecoveryCase) (event : PaymentSuccessEvent) (clock : Clock)
    : RecoveryCase × List AuditEntry :=
  let now := clock.now 0
  if event.amount ≠ case.originalAmount then
    (case, [audit case.caseId case.state case.state "amount_mismatch_on_success" now])
  else if case.bucket = some .control then
    if case.state ≠ .controlHeld then
      (case, [audit case.caseId case.state case.state "unexpected_success_event" now])
    else
      ({ case with state := .controlRecovered, controlOutcome := some .recoveredNaturally },
        [audit case.caseId .controlHeld .controlRecovered "natural_recovery" now])
  else if case.state = .retryExecuted then
    ({ case with state := .recovered },
      [audit case.caseId .retryExecuted .recovered "agent_recovered" now])
  else if awaitsExecution case.state then
    ({ case with state := .recoveredNaturally },
      [audit case.caseId case.state .recoveredNaturally "natural_recovery_treatment_bucket" now])
  else if case.state = .escalated ∨ case.state = .afaRequired then
    ({ case with state := .recovered },
      [audit case.caseId case.state .recovered "late_success_reconciled" now])
  else
    (case, [audit case.caseId case.state case.state "unexpected_success_event" now])

-----------------------------------------------------------------------------------------
-- Failure events
-----------------------------------------------------------------------------------------

/-- `(event.notes or {}).get("category", "default")` looked up in the AFA ceilings; both
lookups of the source happen, so the default entry has to exist.
-/
def afaCeiling (config : AppConfig) (notes : Notes) : Except PyError Int := do
  let ceilings := config.npciRules.afaFreeCeiling
  let some fallback := ceilings.lookup "default" | .error (.keyError "default")
  match (notes.lookup "category").getD (.str "default") with
  | .str category => return (ceilings.lookup category).getD fallback
  | .arr _ => .error .typeError
  | .obj _ => .error .typeError
  | _ => return fallback

/-- `_handle_new_failure`: classifies, assigns the bucket and routes a new case. The event
is returned with the decline class it was given. That the deadline of a control case is in the
calendar is left to the webhook (`FailureEvent.checkDeadline`).
-/
def handleNewFailure (event : PaymentFailureEvent) (config : AppConfig) (clock : Clock)
    : Except PyError (RecoveryCase × PaymentFailureEvent × List AuditEntry) := do
  let now := clock.now 0
  let mandate := match event.mandateId with
    | some mandate => if mandate = "" then event.caseId else mandate
    | none => event.caseId
  let case ← RecoveryCase.create event.caseId mandate event.instrumentId event.amount now
  let opened := audit case.caseId .received .classified "create_case" now
  let (declineClass, _) ← classifyFailure config event.reasonCode event.errorReason
  let event := { event with declineClass }
  if isControlCase case.caseId then
    let case ← assignBucket case .control
    let window ← clock.resolveDelay config.selfImposed.controlObservationWindow
    let case := {
      case with
      state := .controlHeld
      controlOutcome := some .unknown
      controlObservationDeadline := some (now + window)
    }
    return (case, event,
      [opened, audit case.caseId .classified .controlHeld "assign_bucket_control" now])
  let case ← assignBucket case .treatment
  let assigned := audit case.caseId .classified .treatment "assign_bucket_treatment" now
  if declineClass = .business then
    return ({ case with state := .escalated }, event,
      [opened, assigned, audit case.caseId .treatment .escalated "hard_decline" now])
  let ceiling ← afaCeiling config (event.notes.getD [])
  if case.originalAmount > ceiling then
    return ({ case with state := .afaRequired }, event,
      [opened, assigned, audit case.caseId .treatment .afaRequired "afa_threshold_exceeded" now])
  return ({ case with state := .noticePending }, event,
    [opened, assigned, audit case.caseId .treatment .noticePending "technical_decline" now])

/-- `_handle_existing_failure`: the control signal or the outcome of a retry. The attempt
is counted before its codes are classified.
-/
def handleExistingFailure (case : RecoveryCase) (event : PaymentFailureEvent)
    (config : AppConfig) (clock : Clock)
    : Mutated (PaymentFailureEvent × List AuditEntry) :=
  let now := clock.now 0
  if case.state = .controlHeld then
    ⟨{ case with state := .controlStillFailed, controlOutcome := some .stillFailed },
      .ok (event,
        [audit case.caseId .controlHeld .controlStillFailed "control_failure_signal" now])⟩
  else if case.state ≠ .retryExecuted then
    ⟨case,
      .ok (event, [audit case.caseId case.state case.state "unexpected_failure_event" now])⟩
  else
    let counted := { case with retriesUsed := case.retriesUsed + 1 }
    match classifyFailure config event.reasonCode event.errorReason with
    | .error raised => ⟨counted, .error raised⟩
    | .ok (declineClass, _) =>
        let event := { event with declineClass }
        let evaluated := audit case.caseId .retryExecuted .retryEval "execution_outcome" now
        if config.npciRules.maxRetries ≤ counted.retriesUsed ∨ declineClass = .business then
          ⟨{ counted with state := .escalated },
            .ok (event, [evaluated,
              audit case.caseId .retryEval .escalated "retry_cap_or_business" now])⟩
        else
          ⟨{ counted with state := .noticePending },
            .ok (event, [evaluated,
              audit case.caseId .retryEval .noticePending "technical_decline_retry_eligible" now])⟩

/-- `handle_payment_failed`: without a case the failure opens one. -/
def handlePaymentFailed (case : Option RecoveryCase) (event : PaymentFailureEvent)
    (config : AppConfig) (clock : Clock)
    : Except PyError (RecoveryCase × PaymentFailureEvent × List AuditEntry) :=
  match case with
  | none => handleNewFailure event config clock
  | some case =>
      let handled := handleExistingFailure case event config clock
      handled.result.map fun (event, entries) => (handled.case, event, entries)

-----------------------------------------------------------------------------------------
-- Explicit triggers
-----------------------------------------------------------------------------------------

/-- `mark_notice_sent`: sends the notice and schedules the retry of the next attempt. The
first clock reading stamps the entries, the second is the scheduler's. -/
def markNoticeSent (case : RecoveryCase) (config : AppConfig) (clock : Clock)
    (reasonCode : Option String) (previousExecutedAt : Option Datetime)
    (bandit : Option Suggest)
    : Mutated (List AuditEntry × RetryDecision) :=
  let now := clock.now 0
  if case.state ≠ .noticePending then
    ⟨case, .error (.valueError ("Cannot send notice from state " ++ case.state.name))⟩
  else
    let noticed := { case with state := .noticeSent }
    let decided := do
      let (scheduledAt, reasoning) ← computeScheduledAt case.retriesUsed reasonCode config
        { clock with now := fun i => clock.now (i + 1) } previousExecutedAt bandit
      RetryDecision.create case.caseId (case.retriesUsed + 1) scheduledAt reasoning
        .postgresOutbox
        ("retry-" ++ case.caseId ++ "-" ++ toString (case.retriesUsed + 1))
    match decided with
    | .error raised => ⟨noticed, .error raised⟩
    | .ok decision =>
        ⟨{ noticed with state := .retryScheduled },
          .ok ([audit case.caseId .noticePending .noticeSent "notice_sent" now,
            { audit case.caseId .noticeSent .retryScheduled "schedule_retry" now with
              scheduledAt := some decision.scheduledAt }], decision)⟩

/-- The change `mark_retry_executed` and `attempt_execution` both make once approved. -/
def executed (case : RecoveryCase) (decision : RetryDecision) (now : Datetime)
    : RecoveryCase × RetryDecision × List AuditEntry :=
  ({ case with state := .retryExecuted }, { decision with executedAt := some now },
    [audit case.caseId .retryScheduled .retryExecuted "commit_approved" now])

/-- `mark_retry_executed`. -/
def markRetryExecuted (case : RecoveryCase) (decision : RetryDecision) (clock : Clock)
    : Except PyError (RecoveryCase × RetryDecision × List AuditEntry) :=
  if case.state ≠ .retryScheduled then
    .error (.valueError ("Cannot execute retry from state " ++ case.state.name))
  else .ok (executed case decision (clock.now 0))

/-- `attempt_execution`: the commit backend is asked first, and a refusal leaves the case
and the decision as they were. `commit` is the backend's `commit` method.
-/
def attemptExecution (case : RecoveryCase) (decision : RetryDecision)
    (commit : RetryDecision → Except PyError Bool) (clock : Clock)
    : Except PyError ((RecoveryCase × RetryDecision × List AuditEntry) × Bool) :=
  if case.state ≠ .retryScheduled then
    .error (.valueError ("Cannot attempt execution from state " ++ case.state.name))
  else do
    let committed ← commit decision
    if committed then return (executed case decision (clock.now 0), true)
    else return ((case, decision, []), false)

/-- A trigger that moves a case from exactly one state, noting the rule that did. -/
def trigger (fromState toState : CaseState) (refusal rule : String) (cited : rule ≠ "")
    (case : RecoveryCase) (clock : Clock)
    : Except PyError (RecoveryCase × List AuditEntry) :=
  if case.state ≠ fromState then .error (.valueError (refusal ++ case.state.name))
  else
    .ok ({ case with state := toState },
      [audit case.caseId fromState toState rule (clock.now 0) cited])

/-- `apply_throttle`. -/
def applyThrottle (case : RecoveryCase) (clock : Clock)
    : Except PyError (RecoveryCase × List AuditEntry) :=
  trigger .retryScheduled .throttled "Cannot throttle from state " "throttle_applied"
    (by decide) case clock

/-- `release_throttle`. -/
def releaseThrottle (case : RecoveryCase) (clock : Clock)
    : Except PyError (RecoveryCase × List AuditEntry) :=
  trigger .throttled .retryScheduled "Cannot release throttle from state " "throttle_released"
    (by decide) case clock

end StateMachine

end RecoveryAgent
