import RecoveryAgent.Core.Payloads
import RecoveryAgent.Service.Operations

/-! The endpoints of `main.py` that write, and the webhook parser they use.
The bearer token of the admin endpoints is taken as checked.
-/

namespace RecoveryAgent

-----------------------------------------------------------------------------------------
-- Webhook payloads
-----------------------------------------------------------------------------------------

/-- The `payload.payment.entity` of a webhook body, by key; none is an absent key. The parsers
take any JSON under `id`, `vpa` and `mandate_id`; the model takes text there.
-/
structure PaymentEntity where
  id : Option String
  amount : Option Int
  currency : Option String
  method : Option String
  vpa : Option String
  errorCode : Option Json
  errorReason : Json
  errorSource : Json
  errorStep : Json
  createdAt : Option Int
  mandateId : Option String
  /-- The notes besides the mandate. -/
  notes : Notes

/-- `payment.get("notes") or {}`, with the mandate under its key. -/
def PaymentEntity.allNotes (entity : PaymentEntity) : Notes :=
  (entity.mandateId.map fun mandateId => ("mandate_id", Json.str mandateId)).toList ++ entity.notes

/-- The case and the attempt a failure is for: the existing case with the number it was
given, or a new case under the payment's id.
-/
def resolveAttempt (paymentId : String)
    : Option RecoveryCase → Option Nat → Except PyError (String × Nat)
  | some case, some attempt => .ok (case.caseId, attempt)
  | some _, none =>
      .error (.valueError "attempt_number must be provided when existing_case is given")
  | none, none => .ok (paymentId, 1)
  | none, some attempt =>
      if attempt = 1 then .ok (paymentId, 1)
      else .error (.valueError "attempt_number must be 1 when no existing_case is provided")

/-- `parse_payment_failed`. -/
def parsePaymentFailed (entity : PaymentEntity) (existingCase : Option RecoveryCase)
    (attemptNumber : Option Nat)
    : Except PyError PaymentFailureEvent := do
  if entity.method ≠ some "upi" then
    throw (.valueErrorOf "parse_payment_failed only handles UPI payments; got method="
      entity.method (". Non-UPI payment.failed events must be filtered before reaching this"
        ++ " parser."))
  if entity.currency ≠ some "INR" then
    throw (.valueErrorOf "expected currency INR, got " entity.currency "")
  let some paymentId := entity.id | throw (.keyError "id")
  let some amount := entity.amount | throw (.keyError "amount")
  if ha : amount ≤ 0 then
    throw (.valueError ("amount_paise must be positive, got " ++ toString amount))
  else
  let vpa := entity.vpa.getD ""
  if vpa = "" then
    throw (.valueError "UPI payment.failed event missing 'vpa' — cannot derive instrument_id")
  let (caseId, attempt) ← resolveAttempt paymentId existingCase attemptNumber
  if hn : attempt < 1 then
    throw (.valueError ("attempt_number must be >= 1, got " ++ toString attempt))
  else
  let some createdAt := entity.createdAt | throw (.keyError "created_at")
  -- `PaymentFailureEvent.__post_init__`
  if hp : paymentId = "" then throw (.valueError "payment_id must not be empty")
  else if hc : caseId = "" then throw (.valueError "case_id must not be empty")
  else
    return {
      caseId, paymentId, amount
      attemptNumber := attempt
      reasonCode := entity.errorCode.getD (.str "")
      declineClass := .unclassified
      receivedAt := seconds createdAt
      mandateId := entity.mandateId
      instrumentId := Sha256.hexdigest vpa
      errorReason := entity.errorReason
      errorSource := entity.errorSource
      errorStep := entity.errorStep
      notes := some entity.allNotes
      attemptNumber_pos := attempt_pos_of_checked hn
      amount_pos := amount_pos_of_checked ha
      paymentId_ne := hp
      caseId_ne := hc
    }

/-- `parse_payment_captured`. -/
def parsePaymentCaptured (entity : PaymentEntity) (case : RecoveryCase)
    : Except PyError PaymentSuccessEvent := do
  let some paymentId := entity.id | throw (.keyError "id")
  let some amount := entity.amount | throw (.keyError "amount")
  if amount ≤ 0 then
    throw (.valueError ("amount_paise must be positive, got " ++ toString amount))
  let some createdAt := entity.createdAt | throw (.keyError "created_at")
  PaymentSuccessEvent.create case.caseId paymentId amount (seconds createdAt)

-----------------------------------------------------------------------------------------
-- Exceptions
-----------------------------------------------------------------------------------------

/-- What a raised exception becomes behind `except (KeyError, ValueError)` with a 400. -/
def malformed (detail : PyError → Detail) (error : PyError) : Raised :=
  if error.isMalformed then .http 400 (detail error) else .exception (.python error)

/-- What a raised exception becomes behind `except ValueError` with a 409. -/
def conflict (error : PyError) : Raised :=
  if error.isValueError then .http 409 (.ofException (.python error))
  else .exception (.python error)

/-- `except CaseStoreError` with a 409, where the name is the in-memory module's class. -/
def storeConflict : Raised → Raised
  | .exception (.store (.inMemory error)) =>
      .http 409 (.ofException (.store (.inMemory error)))
  | raised => raised

-----------------------------------------------------------------------------------------
-- Responses
-----------------------------------------------------------------------------------------

/-- The body of a successful response, as far as it is set. -/
structure Response where
  status : String := "ok"
  caseId : Option String := none
  state : Option CaseState := none
  paymentId : Option String := none
  newNow : Option String := none
  instrumentId : Option String := none
  failureCount : Option Nat := none
  distressed : Option Bool := none

/-- The response naming a case and its state. -/
def Response.ofCase (case : RecoveryCase) : Response :=
  { caseId := some case.caseId, state := some case.state }

namespace Handler

-----------------------------------------------------------------------------------------
-- Failure deliveries
-----------------------------------------------------------------------------------------

/-- The state machine's part of a failure delivery. An exception leaves behind what it did
to the case object.
-/
def handleFailure (config : AppConfig) (existingCase : Option RecoveryCase)
    (event : PaymentFailureEvent)
    : Handler (RecoveryCase × PaymentFailureEvent × List AuditEntry) := do
  let clock ← readClock 1
  match existingCase with
  | none =>
      match StateMachine.handleNewFailure event config clock with
      | .ok handled => return handled
      | .error raised => throw (conflict raised)
  | some case =>
      let handled := StateMachine.handleExistingFailure case event config clock
      match handled.result with
      | .ok (event, entries) => return (handled.case, event, entries)
      | .error raised => do
          mutateCase handled.case
          throw (conflict raised)

/-- The part that `webhook_payment_failed` and `simulate_failure` share, from the parsing of
the payload on; they answer a malformed payload with different details.
-/
def ingestFailure (config : AppConfig) (entity : PaymentEntity)
    (existingCase : Option RecoveryCase) (detail : PyError → Detail)
    : Handler (RecoveryCase × PaymentFailureEvent) := do
  let attemptNumber ← match existingCase with
    | some case => do
        let attempts ← getMaxAttemptNumber case.caseId
        pure (some (attempts + 1))
    | none => pure none
  let event ← match parsePaymentFailed entity existingCase attemptNumber with
    | .ok event => pure event
    | .error raised => throw (malformed detail raised)
  let (case, event, entries) ← handleFailure config existingCase event
  ExceptT.adapt storeConflict do
    match existingCase with
    | none => createCase case
    | some _ => updateCase case
    recordFailure event
    appendAll entries
  if existingCase.isNone then
    recordDistress case.instrumentId (← now)
  return (case, event)

/-- The case a mandate is mapped to; an empty mandate counts as none. -/
def lookupMandate (mandateId : Option String) : Handler (Option RecoveryCase) :=
  match mandateId with
  | none => pure none
  | some mandateId =>
      if mandateId = "" then pure none else findCaseByMandate mandateId

/-- `webhook_payment_failed`. -/
def webhookPaymentFailed (config : AppConfig) (signed : Bool) (entity : PaymentEntity)
    : Handler Response := do
  if !signed then refuse 401 "Invalid webhook signature"
  let paymentId := entity.id.getD ""
  if paymentId = "" then refuse 400 "Missing payment_id"
  if let some (caseId, _) ← findAttemptByPaymentId paymentId then
    return { status := "duplicate", caseId := some caseId, paymentId := some paymentId }
  let existingCase ← lookupMandate entity.mandateId
  let (case, event) ← ingestFailure config entity existingCase
    (fun _ => .text "Malformed webhook payload")
  return { Response.ofCase case with paymentId := some event.paymentId }

/-- The body of `simulate_failure`. `createdAt` is the Unix time at which the handler runs,
which it stamps the payload with.
-/
structure SimulateFailureRequest where
  paymentId : String
  amountPaise : Int
  vpa : String
  errorCode : String := "BAD_REQUEST_ERROR"
  errorReason : Option String := none
  mandateId : Option String := none
  notes : Notes := []
  createdAt : Int
  amountPaise_pos : 0 < amountPaise := by decide

/-- The payload `simulate_failure` builds. -/
def SimulateFailureRequest.entity (request : SimulateFailureRequest) : PaymentEntity where
  id := some request.paymentId
  amount := some request.amountPaise
  currency := some "INR"
  method := some "upi"
  vpa := some request.vpa
  errorCode := some (.str request.errorCode)
  errorReason := (request.errorReason.map Json.str).getD .null
  errorSource := .str "issuer"
  errorStep := .str "payment_authorization"
  createdAt := some request.createdAt
  mandateId := request.mandateId
  notes := request.notes

/-- `simulate_failure`: no check for a payment that is already recorded. -/
def simulateFailure (config : AppConfig) (request : SimulateFailureRequest)
    : Handler Response := do
  if config.profileName ≠ .demo then refuse 403 "Simulation endpoints are demo-only"
  let existingCase ← lookupMandate request.mandateId
  let (case, _) ← ingestFailure config request.entity existingCase
    (fun raised => .ofException (.python raised))
  return .ofCase case

-----------------------------------------------------------------------------------------
-- Success deliveries
-----------------------------------------------------------------------------------------

/-- The case of a mandate that must be there. -/
def openCase (mandateId : String) : Handler RecoveryCase := do
  match ← findCaseByMandate mandateId with
  | some case => return case
  | none => refuse 404 "No open case found for mandate"

/-- The state machine's part of a success delivery, and what is written of it. -/
def settleSuccess (case : RecoveryCase) (event : PaymentSuccessEvent)
    (adapt : Raised → Raised)
    : Handler Response := do
  let clock ← readClock 1
  let (case, entries) := StateMachine.handlePaymentSuccess case event clock
  ExceptT.adapt adapt do
    updateCase case
    appendAll entries
  return .ofCase case

/-- `webhook_payment_succeeded`. -/
def webhookPaymentSucceeded (signed : Bool) (entity : PaymentEntity) : Handler Response := do
  if !signed then refuse 401 "Invalid webhook signature"
  let mandateId := entity.mandateId.getD ""
  if mandateId = "" then refuse 400 "Cannot resolve case: missing mandate_id in notes"
  let case ← openCase mandateId
  match parsePaymentCaptured entity case with
  | .ok event => settleSuccess case event storeConflict
  | .error raised => throw (malformed (fun raised => .ofException (.python raised)) raised)

/-- The body of `simulate_success`. -/
structure SimulateSuccessRequest where
  paymentId : String
  amountPaise : Int
  mandateId : Option String := none
  amountPaise_pos : 0 < amountPaise := by decide

/-- `simulate_success`: neither the event's validation nor the store's errors are caught. -/
def simulateSuccess (config : AppConfig) (request : SimulateSuccessRequest)
    : Handler Response := do
  if config.profileName ≠ .demo then refuse 403 "Simulation endpoints are demo-only"
  let mandateId := request.mandateId.getD ""
  if mandateId = "" then refuse 400 "Missing mandate_id in notes"
  let case ← openCase mandateId
  let capturedAt ← now
  match PaymentSuccessEvent.create case.caseId request.paymentId request.amountPaise
    capturedAt with
  | .ok event => settleSuccess case event id
  | .error raised => throw (.exception (.python raised))

-----------------------------------------------------------------------------------------
-- Notices
-----------------------------------------------------------------------------------------

/-- A path parameter: routes do not match a slash inside it. -/
structure PathSegment where
  text : String
  noSlash : '/' ∉ text.toList := by decide

/-- The bandit of the service. No endpoint records an outcome, so it stays as it starts. -/
def slotBandit : RetrySlotBandit := .new ["immediate", "24h", "72h"]

/-- `send_notice`, with the random draw its bandit makes. -/
def sendNotice (config : AppConfig) (caseId : PathSegment) (draw : Draw)
    : Handler Response := do
  if config.profileName ≠ .demo then refuse 403 "Admin endpoints are demo-only"
  if isDndHour (← now) then
    refuse 409 ("DND hours active (21:00-09:00 IST). Notice deferred; advance clock to after"
      ++ " 09:00 IST.")
  let case ← getCase caseId.text
  if case.state ≠ .noticePending then
    refuse 409 ("Case is not in NOTICE_PENDING, current state=" ++ case.state.name)
  let clock ← readClock 2
  let sent := StateMachine.markNoticeSent case config clock none none
    (some (slotBandit.suggestFrom draw))
  match sent.result with
  | .error raised => do
      mutateCase sent.case
      throw (conflict raised)
  | .ok (entries, decision) => do
      updateCase sent.case
      appendAll entries
      recordRetryDecision decision
      return .ofCase sent.case

-----------------------------------------------------------------------------------------
-- Executions
-----------------------------------------------------------------------------------------

/-- The entry of an applied effect. It names RETRY_SCHEDULED whatever the case was in. -/
def effectApplied (caseId : String) (timestamp : Datetime) : AuditEntry where
  caseId := caseId
  fromState := .retryScheduled
  toState := .retryExecuted
  ruleFired := "commit_effect_applied"
  ruleVersion := 1
  timestamp := timestamp
  actor := .agent
  ruleVersion_pos := firstVersion_pos

/-- `apply_effect`. -/
def applyEffect (case : RecoveryCase) (effect : Effect) : Handler RecoveryCase := do
  if case.state = effect.toState then return case
  else
    let case := { case with state := effect.toState }
    updateCase case
    appendAudit (effectApplied case.caseId (← now))
    return case

/-- The loop of `reconcile_case` over the committed effects. -/
def healFrom (caseId : String) : List Effect → Handler Unit
  | [] => pure ()
  | effect :: rest => do
      let case ← getCase caseId
      let _ ← applyEffect case effect
      healFrom caseId rest

/-- `try: ... except Exception: log`. -/
def swallow (handler : Handler Unit) : Handler Unit :=
  ExceptT.mk (do let _ ← handler.run; return .ok ())

/-- `reconcile_case`: replays every effect committed for the case. -/
def reconcileCase (useEtcd : Bool) (caseId : String) : Handler Unit :=
  if useEtcd then
    swallow do
      healFrom caseId (← getPrefix (EtcdQuorumBackend.commitsPrefix ++ caseId ++ "/"))
  else pure ()

/-- The entry of the distress gate. -/
def distressSignal (caseId : String) (timestamp : Datetime) : AuditEntry where
  caseId := caseId
  fromState := .retryScheduled
  toState := .escalated
  ruleFired := "distress_signal"
  ruleVersion := 1
  timestamp := timestamp
  actor := .agent
  ruleVersion_pos := firstVersion_pos

/-- The distress gate of `execute_retry`: the case is escalated instead of retried. -/
def escalateDistressed (case : RecoveryCase) : Handler Response := do
  let case := { case with state := .escalated }
  updateCase case
  appendAudit (distressSignal case.caseId (← now))
  refuse 409 "Instrument distressed; retry blocked, case escalated"

/-- The effect `execute_retry` commits for a decision. -/
def retryEffect (caseId : String) (decision : RetryDecision) (now : Datetime) : Effect where
  caseId := caseId
  attempt := decision.attemptNumber
  toState := .retryExecuted
  at_ := isoformat now

/-- The commit of `execute_retry` and what follows it. -/
def commitDecision (deployment : Deployment) (case : RecoveryCase) (caseId : String)
    (decision : RetryDecision)
    : Handler Response := do
  let effect := retryEffect caseId decision (← now)
  match ← commitEffect caseId decision.attemptNumber effect with
  | .error raised => throw (.exception (.python raised))
  | .ok false => do
      -- another worker already committed
      reconcileCase deployment.useEtcd caseId
      refuse 409 "Commit backend rejected execution (duplicate?)"
  | .ok true => do
      let case ← applyEffect case effect
      updateRetryDecision decision
      return .ofCase case

/-- `execute_retry`. -/
def executeRetry (deployment : Deployment) (caseId : PathSegment) : Handler Response := do
  if deployment.config.profileName ≠ .demo then refuse 403 "Admin endpoints are demo-only"
  let case ← getCase caseId.text
  if case.state ≠ .retryScheduled then
    refuse 409 ("Case is not in RETRY_SCHEDULED, current state=" ++ case.state.name)
  if ← isDistressed case.instrumentId (← now) then escalateDistressed case
  else
    match (← getPendingRetries).filter (·.caseId = caseId.text) with
    | [] => refuse 409 "No pending retry decision found"
    | decision :: _ => do
        let due ← now
        if due < decision.scheduledAt then
          refuse 409 ("Retry not yet due: scheduled_at=" ++ isoformat decision.scheduledAt
            ++ ", now=" ++ isoformat due)
        commitDecision deployment case caseId.text decision

/-- The loop of `reconcile_all` over the committed effects, with the number healed so far.
A case that cannot be read is skipped; any other exception ends the loop.
-/
def healAllFrom (healed : Nat) : List Effect → Handler Nat
  | [] => pure healed
  | effect :: rest => do
      match ← ExceptT.lift (getCase effect.caseId).run with
      | .error _ => healAllFrom healed rest
      | .ok case =>
          if case.state = effect.toState then healAllFrom healed rest
          else
            match ← ExceptT.lift (applyEffect case effect).run with
            | .ok _ => healAllFrom (healed + 1) rest
            | .error _ => return healed

/-- `reconcile_all`, run when a worker starts. -/
def reconcileAll (useEtcd : Bool) : Handler Nat := do
  if useEtcd then healAllFrom 0 (← getPrefix EtcdQuorumBackend.commitsPrefix)
  else return 0

-----------------------------------------------------------------------------------------
-- Clock, resolutions and distress
-----------------------------------------------------------------------------------------

/-- `advance_clock`. -/
def advanceClock (config : AppConfig) (delta : Timedelta) : Handler Response := do
  if config.profileName ≠ .demo then refuse 403 "Admin endpoints are demo-only"
  if delta ≤ 0 then refuse 400 "Must advance by a positive duration"
  match ← advance delta with
  | .ok () => return { newNow := some (isoformat (← now)) }
  | .error raised => throw (.http 409 (.ofException (.python raised)))

/-- The two notes `resolve_escalation` accepts. -/
def parseResolutionNote (note : String) : Option ResolutionNote :=
  if note = "written_off" then some .writtenOff
  else if note = "recovered_manually" then some .recoveredManually
  else none

/-- The entry of a human resolution. -/
def humanResolution (caseId : String) (timestamp : Datetime) : AuditEntry where
  caseId := caseId
  fromState := .escalated
  toState := .resolvedByHuman
  ruleFired := "human_resolution"
  ruleVersion := 1
  timestamp := timestamp
  actor := .human
  ruleVersion_pos := firstVersion_pos

/-- `resolve_escalation`. -/
def resolveEscalation (config : AppConfig) (caseId : PathSegment) (note : String)
    : Handler Response := do
  if config.profileName ≠ .demo then refuse 403 "Admin endpoints are demo-only"
  let case ← getCase caseId.text
  if case.state ≠ .escalated then
    refuse 409 ("Case is not in ESCALATED, current state=" ++ case.state.name)
  match parseResolutionNote note with
  | none => refuse 400 "resolution_note must be 'written_off' or 'recovered_manually'"
  | some resolution => do
      let case := { case with state := .resolvedByHuman, resolutionNote := some resolution }
      updateCase case
      appendAudit (humanResolution case.caseId (← now))
      return .ofCase case

/-- `record_failure`, the admin endpoint that feeds the distress detector. -/
def recordInstrumentFailure (instrumentId : String) : Handler Response := do
  let now ← now
  recordDistress instrumentId now
  let failureCount ← failureCount instrumentId now
  let distressed ← isDistressed instrumentId now
  return {
    status := ""
    instrumentId := some instrumentId
    failureCount := some failureCount
    distressed := some distressed
  }

end Handler

-----------------------------------------------------------------------------------------
-- Requests
-----------------------------------------------------------------------------------------

/-- The requests a worker serves. -/
inductive Request where
  | paymentFailed (signed : Bool) (entity : PaymentEntity)
  | simulateFailure (request : Handler.SimulateFailureRequest)
  | paymentSucceeded (signed : Bool) (entity : PaymentEntity)
  | simulateSuccess (request : Handler.SimulateSuccessRequest)
  | sendNotice (caseId : Handler.PathSegment) (draw : Draw)
  | executeRetry (caseId : Handler.PathSegment)
  | advanceClock (delta : Timedelta)
  | resolveEscalation (caseId : Handler.PathSegment) (note : String)
  | recordFailure (instrumentId : String)

/-- The handler a request is routed to. -/
def Request.handler (deployment : Deployment) : Request → Handler Response
  | .paymentFailed signed entity =>
      Handler.webhookPaymentFailed deployment.config signed entity
  | .simulateFailure request => Handler.simulateFailure deployment.config request
  | .paymentSucceeded signed entity => Handler.webhookPaymentSucceeded signed entity
  | .simulateSuccess request => Handler.simulateSuccess deployment.config request
  | .sendNotice caseId draw => Handler.sendNotice deployment.config caseId draw
  | .executeRetry caseId => Handler.executeRetry deployment caseId
  | .advanceClock delta => Handler.advanceClock deployment.config delta
  | .resolveEscalation caseId note =>
      Handler.resolveEscalation deployment.config caseId note
  | .recordFailure instrumentId => Handler.recordInstrumentFailure instrumentId

/-- A failure request, through either entry point. -/
inductive FailureDelivery where
  | webhook (signed : Bool) (entity : PaymentEntity)
  | simulated (request : Handler.SimulateFailureRequest)

def FailureDelivery.request : FailureDelivery → Request
  | .webhook signed entity => .paymentFailed signed entity
  | .simulated request => .simulateFailure request

end RecoveryAgent
