import RecoveryAgent.Core.Eligibility
import RecoveryAgent.Service.Handlers

/-! Webhook requests of any shape.
The handlers of `Handlers` take a payment whose fields have the types they are used with. Here a
request carries whatever JSON value its body is and whatever text its signature header is, and the
question is how the handler ends. The store is the in-memory one, through what it answers to the
request.
-/

namespace RecoveryAgent

-----------------------------------------------------------------------------------------
-- Requests
-----------------------------------------------------------------------------------------

/-- A key that a dictionary can be asked for. -/
def Json.hashable : Json → Bool
  | .arr _ => false
  | .obj _ => false
  | _ => true

/-- What `json.loads` makes of a body: a value, a `JSONDecodeError`, or another exception. -/
inductive Body where
  | decoded (payload : Json)
  | notJson
  | failed (raised : PyError)

structure WebhookRequest where
  rawBody : List UInt8
  body : Body
  signature : Option String

/-- What the in-memory store holds for one request: its indexes, under whatever keys earlier
requests stored, and the first error its writes raise.
-/
structure StoreView where
  attempts : Json → Option (String × Nat)
  cases : Json → Option RecoveryCase
  maxAttempt : String → Nat
  refusal : Option CaseStoreError

/-- A lookup in a dictionary of the store. -/
def StoreView.lookup {α : Type} (dictionary : Json → Option α) (key : Json)
    : Except PyError (Option α) :=
  if key.hashable then .ok (dictionary key) else .error .typeError

/-- The state of the process that a webhook is received in. -/
structure Webhooks where
  config : AppConfig
  secret : String
  clock : ServiceClock
  store : StoreView

/-- An exception that the handler does not catch. -/
def uncaught (raised : PyError) : Raised := .exception (.python raised)

namespace Payload

/-- `payload.get("payload", {}).get("payment", {}).get("entity", {})`. -/
def entityOf (payload : Json) : Except PyError Json := do
  let body ← payload.get "payload" (.obj [])
  let payment ← body.get "payment" (.obj [])
  payment.get "entity" (.obj [])

/-- `(entity.get("notes") or {}).get("mandate_id")`. -/
def mandateOf (entity : Json) : Except PyError Json := do
  let notes ← entity.get "notes"
  notes.orEmpty.get "mandate_id"

/-- The event as the state machine reads it. Of the mandate it only asks whether there is one,
and of the payment of an existing case nothing.
-/
def FailureEvent.typed (event : FailureEvent) (caseId : String) (caseId_ne : caseId ≠ "")
    : PaymentFailureEvent where
  caseId := caseId
  paymentId := caseId
  attemptNumber := event.attemptNumber
  reasonCode := event.reasonCode
  declineClass := .unclassified
  amount := event.amount
  receivedAt := event.receivedAt
  mandateId := event.mandateId.text?
  instrumentId := event.instrumentId
  errorReason := event.errorReason
  errorSource := event.errorSource
  errorStep := event.errorStep
  notes := some event.notes
  attemptNumber_pos := event.attemptNumber_pos
  amount_pos := event.amount_pos
  paymentId_ne := caseId_ne
  caseId_ne := caseId_ne

/-- `now + observation_window` of a new case that the hash holds: what ends past the calendar
raises, before anything is stored.
-/
def FailureEvent.checkDeadline (caseId : String) (config : AppConfig) (clock : Clock)
    : Except PyError Unit :=
  if StateMachine.isControlCase caseId then do
    let window ← clock.resolveDelay config.selfImposed.controlObservationWindow
    let _ ← plus (clock.now 0) window
  else .ok ()

/-- `handle_payment_failed`. A new case is classified before its id is hashed, which only text
can be.
-/
def FailureEvent.handle (event : FailureEvent) (existingCase : Option RecoveryCase)
    (config : AppConfig) (clock : Clock)
    : Except PyError RecoveryCase :=
  match existingCase with
  | some case =>
      let handled := StateMachine.handleExistingFailure case
        (event.typed case.caseId case.caseId_ne) config clock
      handled.result.map fun _ => handled.case
  | none =>
      match event.paymentId with
      | .str paymentId =>
          if named : paymentId = "" then .error (.valueError "case_id must not be empty")
          else do
            let opened ← StateMachine.handleNewFailure (event.typed paymentId named) config clock
            checkDeadline paymentId config clock
            return opened.1
      | _ => do
          let _ ← classifyFailure config event.reasonCode event.errorReason
          .error .attributeError

end Payload

namespace Webhooks

/-- The checks that both handlers begin with. -/
def receive (service : Webhooks) (request : WebhookRequest) : Except Raised Json := do
  let verified ← (verifyWebhookSignature request.rawBody request.signature service.secret).mapError
    uncaught
  if verified then
    match request.body with
    | .decoded payload => .ok payload
    | .notJson => .error (.http 400 (.text "Invalid JSON body"))
    | .failed raised => .error (uncaught raised)
  else .error (.http 401 (.text "Invalid webhook signature"))

/-- The writes of a request, behind `except CaseStoreError`. -/
def write (service : Webhooks) : Except Raised Unit :=
  match service.store.refusal with
  | none => .ok ()
  | some error => .error (storeConflict (.exception (.store (.inMemory error))))

/-- The case of a mandate; one that counts as false is not looked up. -/
def findCase (service : Webhooks) (mandateId : Json) : Except PyError (Option RecoveryCase) :=
  if mandateId.truthy then StoreView.lookup service.store.cases mandateId else .ok none

/-- The number of the next attempt of a case that is there. -/
def nextAttempt (service : Webhooks) (existingCase : Option RecoveryCase) : Option Nat :=
  existingCase.map fun case => service.store.maxAttempt case.caseId + 1

/-- `webhook_payment_failed`, once the payment's id is read. -/
def receiveFailure (service : Webhooks) (payload entity paymentId : Json)
    : Except Raised Response :=
  if paymentId.truthy = false then .error (.http 400 (.text "Missing payment_id"))
  else do
    let attempt ← (StoreView.lookup service.store.attempts paymentId).mapError uncaught
    match attempt with
    | some (caseId, _) =>
        return { status := "duplicate", caseId := some caseId, paymentId := paymentId.text? }
    | none => do
        let mandateId ← (Payload.mandateOf entity).mapError uncaught
        let existingCase ← (service.findCase mandateId).mapError uncaught
        let event ← (Payload.parsePaymentFailed payload existingCase
          (service.nextAttempt existingCase)).mapError
            (malformed fun _ => .text "Malformed webhook payload")
        let case ← (event.handle existingCase service.config service.clock.view).mapError conflict
        service.write
        return { Response.ofCase case with paymentId := event.paymentId.text? }

/-- `webhook_payment_failed`. -/
def paymentFailed (service : Webhooks) (request : WebhookRequest) : Except Raised Response := do
  let payload ← service.receive request
  let entity ← (Payload.entityOf payload).mapError uncaught
  let paymentId ← (entity.get "id").mapError uncaught
  service.receiveFailure payload entity paymentId

/-- `webhook_payment_succeeded`, once the mandate is read. The state machine reads only the
amount of the event.
-/
def receiveSuccess (service : Webhooks) (payload mandateId : Json) : Except Raised Response :=
  if mandateId.truthy = false then
    .error (.http 400 (.text "Cannot resolve case: missing mandate_id in notes"))
  else do
    let case ← (StoreView.lookup service.store.cases mandateId).mapError uncaught
    match case with
    | none => .error (.http 404 (.text "No open case found for mandate"))
    | some case => do
        let event ← (Payload.parsePaymentCaptured payload case).mapError
          (malformed fun raised => .ofException (.python raised))
        let handled := StateMachine.handlePaymentSuccess case {
            caseId := case.caseId
            paymentId := case.caseId
            amount := event.amount
            capturedAt := event.capturedAt
            caseId_ne := case.caseId_ne
            paymentId_ne := case.caseId_ne
            amount_pos := event.amount_pos
          } service.clock.view
        service.write
        return .ofCase handled.1

/-- `webhook_payment_succeeded`. -/
def paymentSucceeded (service : Webhooks) (request : WebhookRequest) : Except Raised Response := do
  let payload ← service.receive request
  let entity ← (Payload.entityOf payload).mapError uncaught
  let mandateId ← (Payload.mandateOf entity).mapError uncaught
  service.receiveSuccess payload mandateId

end Webhooks

-----------------------------------------------------------------------------------------
-- What the state machine raises
-----------------------------------------------------------------------------------------

/-- The computation raises nothing but a `ValueError`. -/
def Mild {α : Type} (result : Except PyError α) : Prop :=
  result.RaisesOnly fun raised => raised.isValueError = true

section Raises

variable {α β : Type} {config : AppConfig}

theorem mild_ok {returned : α} : Mild (.ok returned) := trivial

theorem mild_error {raised : PyError}
    : Mild (.error raised : Except PyError α) ↔ raised.isValueError = true := Iff.rfl

theorem mild_bind {first : Except PyError β} {next : β → Except PyError α}
    : Mild (first >>= next) ↔ Mild first ∧ ∀ value, first = .ok value → Mild (next value) :=
  Except.raisesOnly_bind

theorem mild_map {result : Except PyError β} {change : β → α}
    : Mild (result.map change) ↔ Mild result := by
  cases result with
  | ok value => exact Iff.rfl
  | error raised => exact Iff.rfl

theorem mild_normalizeCode {code : Json} : Mild (normalizeCode code) ↔ code.isCode := by
  unfold Json.isCode
  cases normalized : normalizeCode code with
  | ok text => simp [mild_ok]
  | error raised =>
      have textless : raised = .attributeError := by
        unfold normalizeCode at normalized
        repeat' split at normalized
        all_goals cases normalized
        rfl
      simp [textless, mild_error, PyError.isValueError]

/-- Codes are classified where both are text or count as absent. -/
theorem mild_classifyFailure {reasonCode errorReason : Json}
    : Mild (classifyFailure config reasonCode errorReason)
      ↔ reasonCode.isCode ∧ errorReason.isCode := by
  unfold classifyFailure
  rw [mild_bind, mild_normalizeCode]
  refine and_congr_right fun ⟨code, coded⟩ => ?_
  rw [coded]
  simp only [Except.ok.injEq, forall_eq']
  rw [mild_bind, mild_normalizeCode]
  refine and_iff_left fun reason _ => ?_
  repeat' split
  all_goals exact mild_ok

/-- The ceiling of a category: there is a default one, and the category can be looked up. -/
def CeilingShape (config : AppConfig) (notes : Notes) : Prop :=
  (∃ ceiling, config.npciRules.afaFreeCeiling.lookup "default" = some ceiling)
  ∧ ((notes.lookup "category").getD (.str "default")).hashable = true

theorem mild_afaCeiling {notes : Notes}
    : Mild (StateMachine.afaCeiling config notes) ↔ CeilingShape config notes := by
  unfold StateMachine.afaCeiling CeilingShape
  dsimp only
  cases listed : config.npciRules.afaFreeCeiling.lookup "default" with
  | none => simp [mild_error, PyError.isValueError]
  | some fallback =>
      cases (notes.lookup "category").getD (.str "default") with
      | arr items => simp [mild_error, PyError.isValueError, Json.hashable]
      | obj fields => simp [mild_error, PyError.isValueError, Json.hashable]
      | _ => simp [Json.hashable, mild_ok, pure, Except.pure]

theorem mild_resolveDelay (clock : ServiceClock) (delay : Timedelta)
    : Mild (clock.view.resolveDelay delay) := by
  unfold ServiceClock.view ServiceClock.resolveDelay
  cases clock.timeScale with
  | none =>
      dsimp only [RealClock.resolveDelay]
      split
      · exact mild_error.mpr rfl
      · exact mild_ok
  | some scale =>
      dsimp only [AcceleratedClock.resolveDelay]
      split
      · exact mild_error.mpr rfl
      · exact mild_ok

/-- A new failure with an instrument is handled where its codes are classified, and its ceiling
is found if it gets to that.
-/
theorem mild_handleNewFailure {event : PaymentFailureEvent} (clock : ServiceClock)
    (instrument : event.instrumentId ≠ "")
    : Mild (StateMachine.handleNewFailure event config clock.view)
      ↔ (event.reasonCode.isCode ∧ event.errorReason.isCode)
        ∧ (StateMachine.isControlCase event.caseId = false
          → classifyFailure config event.reasonCode event.errorReason = .ok (.technical, true)
          → CeilingShape config (event.notes.getD [])) := by
  rw [StateMachine.handleNewFailure_eq]
  generalize StateMachine.isControlCase event.caseId = inControl
  obtain ⟨fresh, created⟩ := StateMachine.opening_created event instrument (clock.view.now 0)
  have unassigned := (RecoveryCase.create_eq created).2.2.2.2.2
  unfold StateMachine.routeNewFailure
  rw [mild_bind, created, and_iff_right mild_ok]
  simp only [Except.ok.injEq, forall_eq']
  rw [mild_bind, mild_classifyFailure]
  refine and_congr_right fun codes => ?_
  obtain ⟨⟨declineClass, retryable⟩, classified⟩ := classifyFailure_ok config codes.1 codes.2
  rw [classified]
  simp only [Except.ok.injEq, forall_eq']
  have assigned (bucket : Bucket) : Mild (assignBucket fresh bucket) := by
    rw [assignBucket_eq unassigned]
    exact mild_ok
  cases inControl with
  | true =>
      rw [if_pos rfl, mild_bind, and_iff_right (assigned _)]
      refine iff_of_true (fun case _ => ?_) fun treated => absurd treated.symm Bool.false_ne_true
      exact mild_bind.mpr ⟨mild_resolveDelay clock _, fun _ _ => mild_ok⟩
  | false =>
      rw [if_neg Bool.false_ne_true, mild_bind, and_iff_right (assigned _), assignBucket_eq unassigned]
      simp only [Except.ok.injEq, forall_eq', forall_const, Prod.mk.injEq]
      rcases StateMachine.classifyFailure_class classified with same | same
      · cases same
        rw [if_neg (by decide), mild_bind, mild_afaCeiling]
        refine (and_iff_left fun ceiling _ => ?_).trans (by simp)
        split <;> exact mild_ok
      · cases same
        rw [if_pos rfl]
        exact iff_of_true mild_ok (by simp)

/-- A failure with an instrument whose codes are classified is held where the hash says so. -/
theorem handleNewFailure_held {event : PaymentFailureEvent} {clock : Clock} {window : Timedelta}
    (instrument : event.instrumentId ≠ "")
    (codes : event.reasonCode.isCode ∧ event.errorReason.isCode)
    (held : StateMachine.isControlCase event.caseId = true)
    (resolved : clock.resolveDelay config.selfImposed.controlObservationWindow = .ok window)
    : ∃ opened, StateMachine.handleNewFailure event config clock = .ok opened := by
  obtain ⟨fresh, created⟩ := StateMachine.opening_created event instrument (clock.now 0)
  have unassigned := (RecoveryCase.create_eq created).2.2.2.2.2
  obtain ⟨verdict, classified⟩ := classifyFailure_ok config codes.1 codes.2
  rw [StateMachine.handleNewFailure_eq, held]
  simp only [StateMachine.routeNewFailure, created, classified, assignBucket_eq unassigned,
    resolved, if_true, bind, Except.bind]
  exact ⟨_, rfl⟩

/-- The deadline of a case that the hash holds is in the calendar. -/
def DeadlineReached (config : AppConfig) (clock : Clock) : Prop :=
  ∀ window,
    clock.resolveDelay config.selfImposed.controlObservationWindow = .ok window
    → Reaches (clock.now 0) window

theorem mild_checkDeadline {caseId : String} (clock : ServiceClock)
    : Mild (Payload.FailureEvent.checkDeadline caseId config clock.view)
      ↔ (StateMachine.isControlCase caseId = true → DeadlineReached config clock.view) := by
  unfold Payload.FailureEvent.checkDeadline
  split
  · next held =>
      rw [imp_iff_right held, mild_bind, and_iff_right (mild_resolveDelay clock _)]
      refine forall₂_congr fun window _ => ?_
      unfold plus
      split
      · next reached => exact iff_of_true mild_ok reached
      · next passed =>
          refine iff_of_false (fun mild => ?_) passed
          cases mild_error.mp mild
  · next free => exact iff_of_true mild_ok fun held => absurd held free

/-- The outcome of a retry is classified; no other failure of an existing case is. -/
theorem mild_handleExistingFailure {case : RecoveryCase} {event : PaymentFailureEvent}
    {clock : Clock}
    : Mild (StateMachine.handleExistingFailure case event config clock).result
      ↔ (case.state = .retryExecuted → event.reasonCode.isCode ∧ event.errorReason.isCode) := by
  unfold StateMachine.handleExistingFailure
  by_cases executed : case.state = .retryExecuted
  · rw [← @mild_classifyFailure config]
    simp only [executed, reduceCtorEq, if_false, ne_eq, not_true_eq_false, forall_const]
    cases classifyFailure config event.reasonCode event.errorReason with
    | error raised => exact Iff.rfl
    | ok verdict =>
        refine iff_of_true ?_ mild_ok
        dsimp only
        split <;> exact mild_ok
  · refine iff_of_true ?_ fun same => absurd same executed
    dsimp only
    split
    · exact mild_ok
    · exact mild_ok

end Raises

namespace Payload

/-- The fields that the state machine reads of an accepted failure have the shapes with which it
uses them, and a new case that is held has a deadline.
-/
def RoutedShape (config : AppConfig) (clock : Clock) (existingCase : Option RecoveryCase)
    (fields notes : List (String × Json))
    : Prop :=
  let reasonCode := (fields.lookup "error_code").getD (.str "")
  let errorReason := Json.field fields "error_reason"
  match existingCase with
  | some case => case.state = .retryExecuted → reasonCode.isCode ∧ errorReason.isCode
  | none =>
      ∃ paymentId,
        Json.field fields "id" = .str paymentId
        ∧ (reasonCode.isCode ∧ errorReason.isCode)
        ∧ (StateMachine.isControlCase paymentId = false
          → classifyFailure config reasonCode errorReason = .ok (.technical, true)
          → CeilingShape config notes)
        ∧ (StateMachine.isControlCase paymentId = true → DeadlineReached config clock)

/-- What a parsed failure keeps of the payment's fields. -/
structure FailureEvent.Of (event : FailureEvent) (fields notes : List (String × Json)) : Prop where
  paymentId : event.paymentId = Json.field fields "id"
  reasonCode : event.reasonCode = (fields.lookup "error_code").getD (.str "")
  errorReason : event.errorReason = Json.field fields "error_reason"
  notes : event.notes = notes
  instrument : event.instrumentId ≠ ""

theorem failureOf_of {fields notes : List (String × Json)} {existingCase : Option RecoveryCase}
    {attemptNumber : Option Nat} {event : FailureEvent}
    (object : (Json.field fields "notes").orEmpty = .obj notes)
    (parsed : failureOf (.obj fields) existingCase attemptNumber = .ok event)
    : event.Of fields notes := by
  suffices ends : (failureOf (.obj fields) existingCase attemptNumber).Ends
      (fun event => event.Of fields notes) fun _ => True from
    ends.of_ok parsed
  unfold failureOf
  refine Except.bind_returns fun method _ => Except.bind_returns fun _ _ => ?_
  refine Except.bind_returns fun currency _ => Except.bind_returns fun _ _ => ?_
  refine Except.bind_returns fun paymentId item => Except.bind_returns fun _ _ => ?_
  refine Except.bind_returns fun amount _ => Except.bind_returns fun _ _ => ?_
  refine Except.bind_returns fun vpa _ => Except.bind_returns fun _ _ => ?_
  refine Except.bind_returns fun encoded _ => Except.bind_returns fun given got => ?_
  refine Except.bind_returns fun mandateId _ => Except.bind_returns fun notes' noted => ?_
  refine Except.bind_returns fun reasonCode coded =>
    Except.bind_returns fun errorReason reason => ?_
  refine Except.bind_returns fun _ _ => Except.bind_returns fun _ _ => ?_
  refine Except.bind_returns fun resolved _ => Except.bind_returns fun _ _ => ?_
  refine Except.bind_returns fun _ _ => Except.bind_returns fun _ _ => ?_
  cases got
  cases coded
  cases reason
  have identified : paymentId = Json.field fields "id" := by
    unfold Json.item at item
    unfold Json.field
    cases found : fields.lookup "id" with
    | none => simp [found] at item
    | some id => simpa [found, eq_comm] using item
  have kept : notes' = notes := by
    change (Json.field fields "notes").orEmpty.fields = _ at noted
    rw [object] at noted
    cases noted
    rfl
  repeat' split
  all_goals first | exact trivial | exact ⟨identified, rfl, rfl, kept, Sha256.hexdigest_ne_empty _⟩

theorem FailureEvent.Of.handle {event : FailureEvent} {fields notes : List (String × Json)}
    (of : event.Of fields notes) (existingCase : Option RecoveryCase) (config : AppConfig)
    (clock : ServiceClock)
    : Mild (event.handle existingCase config clock.view)
      ↔ RoutedShape config clock.view existingCase fields notes := by
  unfold FailureEvent.handle RoutedShape
  cases existingCase with
  | some case =>
      dsimp only
      rw [mild_map, mild_handleExistingFailure, ← of.reasonCode, ← of.errorReason]
      rfl
  | none =>
      dsimp only
      rw [← of.paymentId, ← of.reasonCode, ← of.errorReason, ← of.notes]
      cases id : event.paymentId with
      | str paymentId =>
          have named : paymentId ≠ "" := by
            rintro rfl
            have truthy := event.paymentId_truthy
            rw [id] at truthy
            exact absurd truthy (by decide)
          dsimp only
          rw [dif_neg named, mild_bind, mild_handleNewFailure clock of.instrument]
          simp only [Json.str.injEq, exists_eq_left', and_assoc]
          refine and_congr_right fun code => and_congr_right fun reason => and_congr_right fun _ => ?_
          have checked (opened : RecoveryCase × PaymentFailureEvent × List AuditEntry)
              : Mild (do checkDeadline paymentId config clock.view; return opened.1)
                ↔ Mild (checkDeadline paymentId config clock.view) :=
            mild_bind.trans (and_iff_left fun _ _ => mild_ok)
          simp only [checked, mild_checkDeadline]
          constructor
          · intro mild held window resolved
            obtain ⟨opened, handled⟩ := @handleNewFailure_held config
              (event.typed paymentId named) clock.view window of.instrument ⟨code, reason⟩ held
              resolved
            exact mild opened handled held window resolved
          · exact fun reached _ _ => reached
      | _ =>
          simp only [mild_bind, reduceCtorEq, false_and, exists_false, iff_false]
          rintro ⟨classified, rest⟩
          obtain ⟨code, reason⟩ := mild_classifyFailure.mp classified
          obtain ⟨verdict, returned⟩ := classifyFailure_ok config code reason
          exact absurd (rest verdict returned) (by simp [mild_error, PyError.isValueError])

end Payload

-----------------------------------------------------------------------------------------
-- How the handlers end
-----------------------------------------------------------------------------------------

/-- An `HTTPException` with a 4xx status. -/
def Raised.IsClientError : Raised → Prop
  | .http status _ => 400 ≤ status ∧ status < 500
  | .exception _ => False

/-- The handler ends with a response or a 4xx. -/
def Finishes {α : Type} (result : Except Raised α) : Prop := result.RaisesOnly Raised.IsClientError

section Ends

variable {α β : Type}

theorem finishes_ok {returned : α} : Finishes (.ok returned) := trivial

theorem finishes_error {raised : Raised}
    : Finishes (.error raised : Except Raised α) ↔ raised.IsClientError := Iff.rfl

theorem finishes_bind {first : Except Raised β} {next : β → Except Raised α}
    : Finishes (first >>= next)
      ↔ Finishes first ∧ ∀ value, first = .ok value → Finishes (next value) :=
  Except.raisesOnly_bind

/-- Where nothing is caught, the first part has to return. -/
theorem finishes_uncaught_bind {first : Except PyError β} {next : β → Except Raised α}
    : Finishes (first.mapError uncaught >>= next)
      ↔ ∃ value, first = .ok value ∧ Finishes (next value) := by
  cases first with
  | ok value =>
      show Finishes (next value) ↔ _
      simp
  | error raised =>
      show Finishes (.error (uncaught raised) : Except Raised α) ↔ _
      simp [finishes_error, uncaught, Raised.IsClientError]

/-- Behind `except (KeyError, ValueError)` the first part has to be tame. -/
theorem finishes_malformed_bind {first : Except PyError β} {next : β → Except Raised α}
    {detail : PyError → Detail}
    : Finishes (first.mapError (malformed detail) >>= next)
      ↔ Tame first ∧ ∀ value, first = .ok value → Finishes (next value) := by
  cases first with
  | ok value =>
      show Finishes (next value) ↔ _
      simp [tame_ok]
  | error raised =>
      show Finishes (.error (malformed detail raised) : Except Raised α) ↔ _
      unfold malformed
      cases caught : raised.isMalformed <;>
        simp [finishes_error, Raised.IsClientError, tame_error, caught]

/-- Behind `except ValueError` it has to raise nothing else. -/
theorem finishes_conflict_bind {first : Except PyError β} {next : β → Except Raised α}
    : Finishes (first.mapError conflict >>= next)
      ↔ Mild first ∧ ∀ value, first = .ok value → Finishes (next value) := by
  cases first with
  | ok value =>
      show Finishes (next value) ↔ _
      simp [mild_ok]
  | error raised =>
      show Finishes (.error (conflict raised) : Except Raised α) ↔ _
      unfold conflict
      cases caught : raised.isValueError <;>
        simp [finishes_error, Raised.IsClientError, mild_error, caught]

end Ends

namespace Webhooks

variable {α : Type}

/-- The errors of the in-memory store become a 409. -/
theorem finishes_write (service : Webhooks) : Finishes service.write := by
  unfold write
  cases service.store.refusal with
  | none => exact finishes_ok
  | some error => exact ⟨by decide, by decide⟩

/-- The signature can be compared, and a signed body is decoded or refused as not JSON. -/
def Admits (service : Webhooks) (request : WebhookRequest) (shape : Json → Prop) : Prop :=
  (service.secret = "" ∨ Ascii (request.signature.getD ""))
  ∧ (verifyWebhookSignature request.rawBody request.signature service.secret = .ok true
    → match request.body with
      | .decoded payload => shape payload
      | .notJson => True
      | .failed _ => False)

/-- The signature is compared unless the secret or the header is missing. -/
theorem verifyWebhookSignature_returns {rawBody : List UInt8} {signatureHeader : Option String}
    {secret : String}
    : (∃ verified, verifyWebhookSignature rawBody signatureHeader secret = .ok verified)
      ↔ secret = "" ∨ Ascii (signatureHeader.getD "") := by
  have expected : Ascii (expectedSignature rawBody secret) := by
    intro c member
    rw [expectedSignature, String.toList_ofList] at member
    exact (Sha256.hexDigits_ascii _ _ c member).2
  unfold verifyWebhookSignature compareDigest
  dsimp only
  by_cases missing : secret = "" ∨ signatureHeader.getD "" = ""
  · rw [if_pos missing]
    refine iff_of_true ⟨false, rfl⟩ (missing.imp_right fun empty => ?_)
    intro c member
    rw [empty] at member
    cases member
  · rw [if_neg missing]
    by_cases ascii : Ascii (signatureHeader.getD "")
    · simp [expected, ascii]
    · simp [ascii, not_or.mp missing]

theorem finishes_admit_bind {service : Webhooks} {request : WebhookRequest}
    {next : Json → Except Raised α}
    : Finishes (service.receive request >>= next)
      ↔ service.Admits request fun payload => Finishes (next payload) := by
  unfold receive Admits
  rw [bind_assoc, finishes_uncaught_bind, ← @verifyWebhookSignature_returns request.rawBody]
  cases verifyWebhookSignature request.rawBody request.signature service.secret with
  | error raised => simp
  | ok verified =>
      simp only [Except.ok.injEq, exists_eq_left', exists_eq', true_and]
      cases verified with
      | false => exact iff_of_true ⟨by decide, by decide⟩ nofun
      | true =>
          rw [if_pos rfl, imp_iff_right rfl]
          cases request.body with
          | decoded payload => exact Iff.rfl
          | notJson => exact iff_of_true ⟨by decide, by decide⟩ trivial
          | failed raised => exact Iff.rfl

theorem Admits.congr {service : Webhooks} {request : WebhookRequest} {shape shape' : Json → Prop}
    (same : ∀ payload, shape payload ↔ shape' payload)
    : service.Admits request shape ↔ service.Admits request shape' := by
  rw [show shape = shape' from funext fun payload => propext (same payload)]

end Webhooks

-----------------------------------------------------------------------------------------
-- Where the keys lead
-----------------------------------------------------------------------------------------

theorem Json.get_returns {value default found : Json} {key : String}
    : value.get key default = .ok found
      ↔ ∃ fields, value = .obj fields ∧ (fields.lookup key).getD default = found := by
  cases value with
  | obj fields => simp [Json.get]
  | _ => simp [Json.get]

theorem Json.get_bind_returns {α : Type} {value default : Json} {key : String}
    {next : Json → Except PyError α} {result : α}
    : (value.get key default >>= next) = .ok result
      ↔ ∃ fields, value = .obj fields ∧ next ((fields.lookup key).getD default) = .ok result := by
  cases value with
  | obj fields => simp [Json.get, bind, Except.bind]
  | _ => simp [Json.get, bind, Except.bind]

/-- A dictionary with a key in it was not the default. -/
theorem Json.item_of_getD {fields found : List (String × Json)} {key : String}
    (nonempty : found ≠ []) (got : (fields.lookup key).getD (.obj []) = .obj found)
    : (Json.obj fields).item key = .ok (.obj found) ∧ fields ≠ [] := by
  cases looked : fields.lookup key with
  | none =>
      rw [looked] at got
      cases got
      exact absurd rfl nonempty
  | some value =>
      rw [looked] at got
      cases got
      refine ⟨by simp [Json.item, looked], ?_⟩
      rintro rfl
      cases looked

namespace Payload

/-- The keys lead through dictionaries to one with the shape; an absent one counts as empty. -/
def Leads (payload : Json) (shape : List (String × Json) → Prop) : Prop :=
  ∃ fields, entityOf payload = .ok (.obj fields) ∧ shape fields

/-- The notes have to be a dictionary, or count as none. -/
theorem mandateOf_returns {entity mandateId : Json}
    : mandateOf entity = .ok mandateId
      ↔ ∃ fields notes,
          entity = .obj fields
          ∧ (Json.field fields "notes").orEmpty = .obj notes
          ∧ Json.field notes "mandate_id" = mandateId := by
  unfold mandateOf
  rw [Json.get_bind_returns]
  simp only [Json.get_returns, exists_and_left]
  rfl

/-- What an absent key counts as is not reached by indexing. -/
theorem paymentEntity_of {payload : Json} {fields : List (String × Json)} (nonempty : fields ≠ [])
    (leads : entityOf payload = .ok (.obj fields))
    : paymentEntity payload = .ok (.obj fields) := by
  unfold entityOf at leads
  rw [Json.get_bind_returns] at leads
  obtain ⟨outer, rfl, leads⟩ := leads
  rw [Json.get_bind_returns] at leads
  obtain ⟨body, looked, leads⟩ := leads
  obtain ⟨payment, looked', looked''⟩ := Json.get_returns.mp leads
  obtain ⟨entity, nonempty⟩ := Json.item_of_getD nonempty looked''
  obtain ⟨inner, nonempty⟩ := Json.item_of_getD nonempty looked'
  obtain ⟨first, _⟩ := Json.item_of_getD nonempty looked
  unfold paymentEntity
  simp only [first, inner, entity, bind, Except.bind]

end Payload

namespace Webhooks

/-- The values that a failure webhook gets to have the shapes with which it uses them. -/
def FailureShape (service : Webhooks) (fields : List (String × Json)) : Prop :=
  let paymentId := Json.field fields "id"
  paymentId.truthy = true
  → paymentId.hashable = true
    ∧ (service.store.attempts paymentId = none
      → ∃ notes,
          (Json.field fields "notes").orEmpty = .obj notes
          ∧ let mandateId := Json.field notes "mandate_id"
            (mandateId.truthy = true → mandateId.hashable = true)
            ∧ let existingCase := if mandateId.truthy then service.store.cases mandateId else none
              let attemptNumber := service.nextAttempt existingCase
              Payload.FailedShape existingCase attemptNumber fields
              ∧ ((∃ event, Payload.failureOf (.obj fields) existingCase attemptNumber = .ok event)
                → Payload.RoutedShape service.config service.clock.view existingCase fields notes))

/-- The values that a success webhook gets to, likewise. -/
def SuccessShape (service : Webhooks) (fields : List (String × Json)) : Prop :=
  ∃ notes,
    (Json.field fields "notes").orEmpty = .obj notes
    ∧ let mandateId := Json.field notes "mandate_id"
      mandateId.truthy = true
      → mandateId.hashable = true
        ∧ ∀ case, service.store.cases mandateId = some case → Payload.CapturedShape fields

theorem finishes_lookup_bind {α β : Type} {dictionary : Json → Option β} {key : Json}
    {next : Option β → Except Raised α}
    : Finishes ((StoreView.lookup dictionary key).mapError uncaught >>= next)
      ↔ key.hashable = true ∧ Finishes (next (dictionary key)) := by
  rw [finishes_uncaught_bind]
  unfold StoreView.lookup
  cases key.hashable <;> simp

theorem finishes_findCase_bind {service : Webhooks} {mandateId : Json}
    {next : Option RecoveryCase → Except Raised α}
    : Finishes ((service.findCase mandateId).mapError uncaught >>= next)
      ↔ (mandateId.truthy = true → mandateId.hashable = true)
        ∧ Finishes (next (if mandateId.truthy then service.store.cases mandateId else none)) := by
  unfold findCase
  cases mandateId.truthy with
  | true => simpa using finishes_lookup_bind
  | false => simp [finishes_uncaught_bind]

theorem finishes_mandateOf_bind {fields : List (String × Json)}
    {next : Json → Except Raised α}
    : Finishes ((Payload.mandateOf (.obj fields)).mapError uncaught >>= next)
      ↔ ∃ notes,
          (Json.field fields "notes").orEmpty = .obj notes
          ∧ Finishes (next (Json.field notes "mandate_id")) := by
  rw [finishes_uncaught_bind]
  constructor
  · rintro ⟨mandateId, read, finishes⟩
    obtain ⟨_, notes, same, object, rfl⟩ := Payload.mandateOf_returns.mp read
    cases same
    exact ⟨notes, object, finishes⟩
  · rintro ⟨notes, object, finishes⟩
    exact ⟨_, Payload.mandateOf_returns.mpr ⟨fields, notes, rfl, object, rfl⟩, finishes⟩

theorem finishes_receiveFailure_iff (service : Webhooks) {payload : Json}
    {fields : List (String × Json)} (led : Payload.entityOf payload = .ok (.obj fields))
    : Finishes (service.receiveFailure payload (.obj fields) (Json.field fields "id"))
      ↔ service.FailureShape fields := by
  unfold receiveFailure FailureShape
  dsimp only
  cases truthy : (Json.field fields "id").truthy with
  | false => exact iff_of_true ⟨by decide, by decide⟩ nofun
  | true =>
      have nonempty : fields ≠ [] := by
        rintro rfl
        cases truthy
      rw [if_neg nofun, imp_iff_right rfl, finishes_lookup_bind]
      refine and_congr_right fun _ => ?_
      cases service.store.attempts (Json.field fields "id") with
      | some attempt => exact iff_of_true finishes_ok nofun
      | none =>
          rw [imp_iff_right rfl]
          dsimp only
          rw [finishes_mandateOf_bind]
          refine exists_congr fun notes => and_congr_right fun object => ?_
          rw [finishes_findCase_bind]
          refine and_congr_right fun _ => ?_
          generalize (if (Json.field notes "mandate_id").truthy
            then service.store.cases (Json.field notes "mandate_id") else none) = existingCase
          have parsed : Payload.parsePaymentFailed payload existingCase
                (service.nextAttempt existingCase)
              = Payload.failureOf (.obj fields) existingCase
                (service.nextAttempt existingCase) := by
            unfold Payload.parsePaymentFailed
            rw [Payload.paymentEntity_of nonempty led]
            rfl
          rw [parsed, finishes_malformed_bind, Payload.tame_failureOf_iff, forall_exists_index]
          refine and_congr_right fun _ => forall₂_congr fun event accepted => ?_
          rw [finishes_conflict_bind,
            (Payload.failureOf_of object accepted).handle existingCase service.config service.clock]
          refine and_iff_left fun case _ => ?_
          exact finishes_bind.mpr ⟨service.finishes_write, fun _ _ => finishes_ok⟩

/-- The failure webhook ends with a response or a 4xx exactly where the signature can be
compared and the values of a signed body have the shapes with which they are used.
-/
theorem finishes_paymentFailed_iff (service : Webhooks) (request : WebhookRequest)
    : Finishes (service.paymentFailed request)
      ↔ service.Admits request fun payload => Payload.Leads payload service.FailureShape := by
  unfold paymentFailed
  rw [finishes_admit_bind]
  refine Admits.congr fun payload => ?_
  rw [finishes_uncaught_bind]
  constructor
  · rintro ⟨entity, led, finishes⟩
    obtain ⟨paymentId, got, finishes⟩ := finishes_uncaught_bind.mp finishes
    obtain ⟨fields, rfl, rfl⟩ := Json.get_returns.mp got
    exact ⟨fields, led, (service.finishes_receiveFailure_iff led).mp finishes⟩
  · rintro ⟨fields, led, shape⟩
    refine ⟨.obj fields, led, finishes_uncaught_bind.mpr ⟨_, rfl, ?_⟩⟩
    exact (service.finishes_receiveFailure_iff led).mpr shape

theorem finishes_receiveSuccess_iff (service : Webhooks) {payload : Json}
    {fields notes : List (String × Json)} (led : Payload.entityOf payload = .ok (.obj fields))
    (object : (Json.field fields "notes").orEmpty = .obj notes)
    : Finishes (service.receiveSuccess payload (Json.field notes "mandate_id"))
      ↔ ((Json.field notes "mandate_id").truthy = true
        → (Json.field notes "mandate_id").hashable = true
          ∧ ∀ case,
              service.store.cases (Json.field notes "mandate_id") = some case
              → Payload.CapturedShape fields) := by
  unfold receiveSuccess
  cases truthy : (Json.field notes "mandate_id").truthy with
  | false => exact iff_of_true ⟨by decide, by decide⟩ nofun
  | true =>
      have nonempty : fields ≠ [] := by
        rintro rfl
        cases object
        cases truthy
      rw [if_neg nofun, imp_iff_right rfl, finishes_lookup_bind]
      refine and_congr_right fun _ => ?_
      cases service.store.cases (Json.field notes "mandate_id") with
      | none =>
          refine iff_of_true (finishes_error.mpr ⟨by decide, by decide⟩) fun case found => ?_
          cases found
      | some case =>
          have parsed : Payload.parsePaymentCaptured payload case
              = Payload.successOf (.obj fields) case := by
            unfold Payload.parsePaymentCaptured
            rw [Payload.paymentEntity_of nonempty led]
            rfl
          dsimp only
          simp only [Option.some.injEq, forall_eq']
          rw [parsed, finishes_malformed_bind, Payload.tame_successOf_iff]
          refine and_iff_left fun event _ => ?_
          exact finishes_bind.mpr ⟨service.finishes_write, fun _ _ => finishes_ok⟩

/-- The success webhook, likewise. -/
theorem finishes_paymentSucceeded_iff (service : Webhooks) (request : WebhookRequest)
    : Finishes (service.paymentSucceeded request)
      ↔ service.Admits request fun payload => Payload.Leads payload service.SuccessShape := by
  unfold paymentSucceeded
  rw [finishes_admit_bind]
  refine Admits.congr fun payload => ?_
  rw [finishes_uncaught_bind]
  constructor
  · rintro ⟨entity, led, finishes⟩
    obtain ⟨mandateId, read, finishes⟩ := finishes_uncaught_bind.mp finishes
    obtain ⟨fields, notes, rfl, object, rfl⟩ := Payload.mandateOf_returns.mp read
    exact ⟨fields, led, notes, object,
      (service.finishes_receiveSuccess_iff led object).mp finishes⟩
  · rintro ⟨fields, led, notes, object, shape⟩
    refine ⟨.obj fields, led, finishes_mandateOf_bind.mpr ⟨notes, object, ?_⟩⟩
    exact (service.finishes_receiveSuccess_iff led object).mpr shape

/-- Whatever its body, a request whose header is not ASCII ends in a `TypeError`. -/
theorem not_finishes_of_header (service : Webhooks) (request : WebhookRequest)
    (secret : service.secret ≠ "") (header : ¬Ascii (request.signature.getD ""))
    : ¬Finishes (service.paymentFailed request) := by
  rw [finishes_paymentFailed_iff]
  rintro ⟨comparable, _⟩
  exact comparable.elim secret header

/-- Both webhooks, and both parsers: a response, a 4xx, or a `KeyError` or `ValueError` of the
parser is what follows exactly on requests and payloads of the shapes.
-/
theorem finish_iff (service : Webhooks) (request : WebhookRequest)
    : (Finishes (service.paymentFailed request)
        ↔ service.Admits request fun payload => Payload.Leads payload service.FailureShape)
      ∧ (Finishes (service.paymentSucceeded request)
        ↔ service.Admits request fun payload => Payload.Leads payload service.SuccessShape)
      ∧ (∀ payload existingCase attemptNumber,
          Tame (Payload.parsePaymentFailed payload existingCase attemptNumber)
          ↔ payload.At
              (fun entity =>
                ∃ fields,
                  entity = .obj fields ∧ Payload.FailedShape existingCase attemptNumber fields)
              Payload.entityPath)
      ∧ ∀ payload case,
          Tame (Payload.parsePaymentCaptured payload case)
          ↔ payload.At (fun entity => ∃ fields, entity = .obj fields ∧ Payload.CapturedShape fields)
              Payload.entityPath :=
  ⟨service.finishes_paymentFailed_iff request, service.finishes_paymentSucceeded_iff request,
    Payload.tame_parsePaymentFailed_iff, Payload.tame_parsePaymentCaptured_iff⟩

/-- A new process with the shipped configuration and a secret. -/
def fresh : Webhooks where
  config := shippedConfig .prod
  secret := "whsec"
  clock := { timeScale := none, wall := fun _ => 0, reads := 0, offset := 0 }
  store := ⟨fun _ => none, fun _ => none, fun _ => 0, none⟩

/-- A request whose signature header is not ASCII. -/
def accented : WebhookRequest := ⟨[], .decoded (.obj []), some "é"⟩

/-- The webhooks do not end with a response or a 4xx on every request. Witness: a signature
header that is not ASCII, which `hmac.compare_digest` refuses with a `TypeError`.
-/
theorem not_finishes
    : ¬∀ (service : Webhooks) (request : WebhookRequest),
        Finishes (service.paymentFailed request) ∧ Finishes (service.paymentSucceeded request) := by
  intro claimed
  -- named, so that nothing evaluates the handler
  obtain ⟨service, secret⟩ : ∃ service : Webhooks, service.secret ≠ "" :=
    ⟨fresh, show "whsec" ≠ "" by decide⟩
  obtain ⟨request, header⟩ : ∃ request : WebhookRequest, ¬Ascii (request.signature.getD "") :=
    ⟨accented, fun ascii =>
      absurd (ascii 'é' (List.mem_singleton_self 'é')) (show ¬ ('é'.val < 128) by decide)⟩
  exact not_finishes_of_header service request secret header (claimed service request).left

end Webhooks

end RecoveryAgent
