import RecoveryAgent.Core.Loader

/-! What a loaded configuration can still make the state machine raise, and overrun.
The state machine indexes the spacing list and looks up the default ceiling without a check, and
it counts an attempt only after it was made.
-/

namespace RecoveryAgent

open StateMachine

-----------------------------------------------------------------------------------------
-- The operations under a loaded configuration
-----------------------------------------------------------------------------------------

/-- `KeyError` or `IndexError`. -/
def PyError.IsLookup : PyError → Prop
  | .keyError _ => True
  | .indexError => True
  | _ => False

/-- The computation raises neither. -/
def Harmless {α : Type} (result : Except PyError α) : Prop :=
  result.Ends (fun _ => True) fun raised => ¬ raised.IsLookup

/-- A failure event with the types its fields declare. -/
structure PaymentFailureEvent.WellTyped (event : PaymentFailureEvent) : Prop where
  reasonCode : ∃ text, event.reasonCode = .str text
  errorReason : event.errorReason = .null ∨ ∃ text, event.errorReason = .str text

namespace LoadedConfig

/-- `handle_payment_failed` under a loaded configuration: where a listed code has no lower case,
the classification of a new failure or of an outcome raises.
-/
def handlePaymentFailed (loaded : LoadedConfig) (case : Option RecoveryCase)
    (event : PaymentFailureEvent) (clock : Clock)
    : Except PyError (RecoveryCase × PaymentFailureEvent × List AuditEntry) :=
  if loaded.readable then StateMachine.handlePaymentFailed case event loaded.config clock
  else
    match case with
    | none => do
        let mandate := match event.mandateId with
          | some mandate => if mandate = "" then event.caseId else mandate
          | none => event.caseId
        let _ ← RecoveryCase.create event.caseId mandate event.instrumentId event.amount
          (clock.now 0)
        .error .attributeError
    | some case =>
        if case.state = .retryExecuted then .error .attributeError
        else StateMachine.handlePaymentFailed (some case) event loaded.config clock

/-- No operation raises a `KeyError` or an `IndexError` of its own, on a clock, a bandit and a
commit backend that raise none. `handle_payment_success` raises nothing at all.
-/
structure LookupsSafe (loaded : LoadedConfig) : Prop where
  paymentFailed
    : ∀ case event clock,
        event.WellTyped
        → (∀ delay, Harmless (clock.resolveDelay delay))
        → Harmless (loaded.handlePaymentFailed case event clock)
  noticeSent
    : ∀ case clock reasonCode previous bandit,
        (∀ delay, Harmless (clock.resolveDelay delay))
        → (∀ suggest : Suggest, bandit = some suggest → ∀ candidates, Harmless (suggest candidates))
        → Harmless (markNoticeSent case loaded.config clock reasonCode previous bandit).result
  retryExecuted : ∀ case decision clock, Harmless (markRetryExecuted case decision clock)
  attempted
    : ∀ case decision commit clock,
        Harmless (commit decision) → Harmless (attemptExecution case decision commit clock)
  throttled : ∀ case clock, Harmless (applyThrottle case clock)
  released : ∀ case clock, Harmless (releaseThrottle case clock)

/-- No case that is opened under the configuration ever executes more retries than its cap; a
negative cap allows none.
-/
def Capped (loaded : LoadedConfig) : Prop :=
  ∀ event clock case event' entries,
    event.WellTyped
    → loaded.handlePaymentFailed none event clock = .ok (case, event', entries)
    → ∀ steps : List (Operation × Clock),
        (∀ step ∈ steps, ∀ event, step.1 = .paymentFailed event → event.WellTyped)
        → Tracked.executions (Tracked.performAll loaded.config ⟨case, entries⟩ steps).trail
          ≤ loaded.config.npciRules.maxRetries.toNat

/-- A failure that the configuration classifies as technical. -/
def Technical (loaded : LoadedConfig) (event : PaymentFailureEvent) : Prop :=
  loaded.readable = true
  ∧ ∃ retryable,
      classifyFailure loaded.config event.reasonCode event.errorReason
        = .ok (.technical, retryable)

/-- What the state machine relies on: a spacing entry; a default ceiling, if any failure is
technical; and a cap that allows an attempt, if any failure is retried.
-/
structure Sufficient (loaded : LoadedConfig) : Prop where
  spacing : loaded.config.selfImposed.retrySpacing ≠ []
  ceiling
    : ∀ event : PaymentFailureEvent,
        event.WellTyped
        → loaded.Technical event
        → ∃ ceiling, loaded.config.npciRules.afaFreeCeiling.lookup "default" = some ceiling
  cap
    : 1 ≤ loaded.config.npciRules.maxRetries
      ∨ ∀ event : PaymentFailureEvent,
          event.WellTyped → loaded.readable = true → ¬ Eligible loaded.config event

end LoadedConfig

section Raises

variable {config : AppConfig} {clock : Clock}

theorem Harmless.bind {α β : Type} {result : Except PyError α} {next : α → Except PyError β}
    (first : Harmless result) (rest : ∀ value, result = .ok value → Harmless (next value))
    : Harmless (result >>= next) :=
  Except.Ends.bind first fun value returned _ => rest value returned

/-- Codes that are not text raise an `AttributeError`. -/
theorem harmless_normalizeCode (code : Json) : Harmless (normalizeCode code) := by
  unfold normalizeCode
  repeat' split
  all_goals first | exact trivial | exact id

theorem harmless_classifyFailure (config : AppConfig) (reasonCode errorReason : Json)
    : Harmless (classifyFailure config reasonCode errorReason) := by
  refine (harmless_normalizeCode reasonCode).bind fun code _ => ?_
  refine (harmless_normalizeCode errorReason).bind fun reason _ => ?_
  dsimp only
  repeat' split
  all_goals exact trivial

theorem harmless_create {caseId mandateId instrumentId : String} {amount : Int}
    {openedAt : Datetime}
    : Harmless (RecoveryCase.create caseId mandateId instrumentId amount openedAt) := by
  unfold RecoveryCase.create
  repeat' split
  all_goals first | exact trivial | exact id

/-- The ceiling of a category needs the default one, whatever the category. -/
theorem harmless_afaCeiling {notes : Notes}
    : Harmless (StateMachine.afaCeiling config notes)
      ↔ ∃ ceiling, config.npciRules.afaFreeCeiling.lookup "default" = some ceiling := by
  unfold StateMachine.afaCeiling
  dsimp only
  cases listed : config.npciRules.afaFreeCeiling.lookup "default" with
  | none => simp [Harmless, Except.Ends, PyError.IsLookup]
  | some fallback =>
      simp only [Option.some.injEq, exists_eq', iff_true]
      split <;> first | exact trivial | exact id

theorem harmless_retryDecision {caseId : String} {attemptNumber : Nat} {scheduledAt : Datetime}
    {reasoning commitRef : String} {commitBackend : CommitBackendName}
    : Harmless (RetryDecision.create caseId attemptNumber scheduledAt reasoning commitBackend
        commitRef) := by
  unfold RetryDecision.create
  repeat' split
  all_goals first | exact trivial | exact id

/-- The scheduler's only lookup is that of the spacing entry. -/
theorem harmless_markNoticeSent (valid : config.Loaded)
    (listed : config.selfImposed.retrySpacing ≠ [])
    (quiet : ∀ delay, Harmless (clock.resolveDelay delay)) {case : RecoveryCase}
    {reasonCode : Option String} {previous : Option Datetime} {bandit : Option Suggest}
    (advised
      : ∀ suggest : Suggest, bandit = some suggest → ∀ candidates, Harmless (suggest candidates))
    : Harmless (markNoticeSent case config clock reasonCode previous bandit).result := by
  obtain ⟨spacing, entry⟩ := config.selfImposed.spacing?_isSome listed case.retriesUsed
  unfold markNoticeSent
  dsimp only
  split
  · exact id
  split
  · next raised decided =>
      have scheduled
          : Harmless (computeScheduledAt case.retriesUsed reasonCode config
              { clock with now := fun i => clock.now (i + 1) } previous bandit) :=
        @computeScheduledAt_raises _ id config { clock with now := fun i => clock.now (i + 1) }
          valid _ spacing entry (fun delay _ => quiet delay) reasonCode previous bandit
          fun suggest given candidates _ =>
            (advised suggest given candidates).mono (fun _ _ => .inr id) fun _ harmless => harmless
      exact (scheduled.bind fun _ _ => harmless_retryDecision).of_error decided
  · exact trivial

/-- A new failure looks up the default ceiling only where it is technical. -/
theorem harmless_handleNewFailure {event : PaymentFailureEvent}
    (quiet : ∀ delay, Harmless (clock.resolveDelay delay))
    (ceiling
      : (∃ retryable,
          classifyFailure config event.reasonCode event.errorReason
            = .ok (.technical, retryable))
        → ∃ ceiling, config.npciRules.afaFreeCeiling.lookup "default" = some ceiling)
    : Harmless (handleNewFailure event config clock) := by
  rw [handleNewFailure_eq]
  generalize isControlCase event.caseId = inControl
  unfold routeNewFailure
  refine Harmless.bind harmless_create fun case created => ?_
  have unassigned := (RecoveryCase.create_eq created).2.2.2.2.2
  refine (harmless_classifyFailure _ _ _).bind fun verdict classified => ?_
  obtain ⟨declineClass, retryable⟩ := verdict
  dsimp only
  have assigned (bucket : Bucket) : Harmless (assignBucket case bucket) := by
    rw [assignBucket_eq unassigned]
    exact trivial
  cases inControl with
  | true =>
      exact Harmless.bind (assigned .control) fun _ _ => Harmless.bind (quiet _) fun _ _ => trivial
  | false =>
  refine Harmless.bind (assigned .treatment) fun case _ => ?_
  split
  · exact trivial
  next treatable =>
  have technical : declineClass = .technical := by
    rcases classifyFailure_class classified with same | same <;> cases same
    · rfl
    · exact absurd rfl treatable
  subst technical
  refine (harmless_afaCeiling.mpr (ceiling ⟨retryable, classified⟩)).bind fun _ _ => ?_
  split <;> exact trivial

theorem harmless_handleExistingFailure {case : RecoveryCase} {event : PaymentFailureEvent}
    : Harmless (handleExistingFailure case event config clock).result := by
  refine Except.ends_of_forall (fun _ _ => trivial) fun raised failed => ?_
  obtain ⟨_, _, classified⟩ := handleExistingFailure_raised case config clock failed
  exact (harmless_classifyFailure _ _ _).of_error classified

theorem harmless_trigger {fromState toState : CaseState} {refusal rule : String}
    {cited : rule ≠ ""} {case : RecoveryCase}
    : Harmless (trigger fromState toState refusal rule cited case clock) := by
  unfold trigger
  split
  · exact id
  · exact trivial

end Raises

namespace LoadedConfig

variable {loaded : LoadedConfig}

/-- Where the lookups can be made, no operation raises one's error. -/
theorem Sufficient.lookupsSafe (sufficient : loaded.Sufficient) (valid : loaded.config.Loaded)
    : loaded.LookupsSafe where
  paymentFailed := by
    intro case event clock typed quiet
    unfold LoadedConfig.handlePaymentFailed
    split
    · next readable =>
        cases case with
        | none =>
            exact harmless_handleNewFailure quiet fun technical =>
              sufficient.ceiling event typed ⟨readable, technical⟩
        | some case =>
            exact Except.Ends.map harmless_handleExistingFailure fun _ _ => trivial
    · cases case with
      | none => exact Harmless.bind harmless_create fun _ _ => id
      | some case =>
          dsimp only
          split
          · exact id
          · exact Except.Ends.map harmless_handleExistingFailure fun _ _ => trivial
  noticeSent := fun _ _ _ _ _ quiet advised =>
    harmless_markNoticeSent valid sufficient.spacing quiet advised
  retryExecuted := by
    intro case decision clock
    unfold markRetryExecuted
    split
    · exact id
    · exact trivial
  attempted := by
    intro case decision commit clock committed
    unfold attemptExecution
    split
    · exact id
    · refine Harmless.bind committed fun approved _ => ?_
      split <;> exact trivial
  throttled := fun _ _ => harmless_trigger
  released := fun _ _ => harmless_trigger

/-- A real clock raises a `ValueError` only. -/
theorem quiet_stopped (now : Datetime) (delay : Timedelta)
    : Harmless ((stoppedClock now).resolveDelay delay) := by
  show Harmless (RealClock.resolveDelay delay)
  unfold RealClock.resolveDelay
  split
  · exact id
  · exact trivial

/-- Without a spacing entry a notice raises an `IndexError`. -/
theorem LookupsSafe.spacing (safe : loaded.LookupsSafe)
    : loaded.config.selfImposed.retrySpacing ≠ [] := by
  intro unlisted
  have sent := safe.noticeSent declined.case (stoppedClock 0) none none none (quiet_stopped 0)
    fun _ given => nomatch given
  have raised
      : (markNoticeSent declined.case loaded.config (stoppedClock 0) none none none).result
        = .error .indexError := by
    simp [markNoticeSent, declined, computeScheduledAt, SelfImposedPolicy.spacing?, unlisted,
      bind, Except.bind]
  exact sent.of_error raised trivial

/-- The failure with a payment of the treatment bucket and an instrument. -/
def treated (event : PaymentFailureEvent) : PaymentFailureEvent :=
  { event with
    caseId := "pay_2"
    instrumentId := "card_1"
    caseId_ne := ne_empty _ trivial }

theorem treated_bucket (event : PaymentFailureEvent)
    : isControlCase (treated event).caseId = false := by
  show isControlCase "pay_2" = false
  decide +kernel

/-- Without a default ceiling a technical failure raises a `KeyError`. -/
theorem LookupsSafe.ceiling (safe : loaded.LookupsSafe) {event : PaymentFailureEvent}
    (typed : event.WellTyped) (technical : loaded.Technical event)
    : ∃ ceiling, loaded.config.npciRules.afaFreeCeiling.lookup "default" = some ceiling := by
  by_contra unlisted
  obtain ⟨readable, retryable, classified⟩ := technical
  have typed' : (treated event).WellTyped := ⟨typed.reasonCode, typed.errorReason⟩
  have failed := safe.paymentFailed none (treated event) (stoppedClock 0) typed' (quiet_stopped 0)
  obtain ⟨fresh, created⟩ := opening_created (treated event) (show "card_1" ≠ "" by decide)
    ((stoppedClock 0).now 0)
  have unassigned := (RecoveryCase.create_eq created).2.2.2.2.2
  have unlisted : loaded.config.npciRules.afaFreeCeiling.lookup "default" = none :=
    Option.eq_none_iff_forall_ne_some.mpr fun ceiling found => unlisted ⟨ceiling, found⟩
  have classified
      : classifyFailure loaded.config (treated event).reasonCode (treated event).errorReason
        = .ok (.technical, retryable) :=
    classified
  have raised
      : loaded.handlePaymentFailed none (treated event) (stoppedClock 0)
        = .error (.keyError "default") := by
    rw [LoadedConfig.handlePaymentFailed, if_pos readable]
    show handleNewFailure _ _ _ = _
    rw [handleNewFailure_eq, treated_bucket]
    simp [routeNewFailure, created, classified, assignBucket_eq unassigned,
      StateMachine.afaCeiling, unlisted, bind, Except.bind]
  exact failed.of_error raised trivial

/-- The case cannot be charged, and its trail shows no execution. -/
def Uncharged (tracked : Tracked) : Prop :=
  ¬ Tracked.chargeable tracked.case.state ∧ Tracked.executions tracked.trail = 0

/-- No call charges such a case. -/
theorem Uncharged.perform {config : AppConfig} {tracked : Tracked} (uncharged : Uncharged tracked)
    (step : Operation × Clock)
    : Uncharged (tracked.perform config step) := by
  obtain ⟨unchargeable, untried⟩ := uncharged
  unfold Tracked.perform
  rcases Tracked.call_cases config tracked.case step.2 step.1 with moved | ⟨executed, _⟩
  · obtain ⟨still, idle⟩ := Tracked.uncharged_step moved unchargeable
    refine ⟨still, ?_⟩
    rw [Tracked.executions_append, untried, zero_add]
    refine List.countP_eq_zero.mpr fun entry member enters => ?_
    have target := (of_decide_eq_true enters).1
    simpa [Verifier.isRetryState, target] using idle entry member
  · rw [executed] at unchargeable
    exact absurd (by decide) unchargeable

/-- A case opened by a failure that is not eligible is not charged. -/
theorem Uncharged.opened {event event' : PaymentFailureEvent} {config : AppConfig} {clock : Clock}
    {case : RecoveryCase} {entries : List AuditEntry} (ineligible : ¬ Eligible config event)
    (handled : handleNewFailure event config clock = .ok (case, event', entries))
    : Uncharged ⟨case, entries⟩ := by
  have opened := handleNewFailure_opened handled
  constructor
  · intro chargeable
    have pending : case.state = .noticePending := by
      have state := opened.state
      simp only [openingState, Tracked.chargeable, List.mem_cons, List.not_mem_nil, or_false]
        at state chargeable
      rcases state with state | state | state | state <;> simp_all
    rw [handleNewFailure_eq] at handled
    obtain ⟨fresh, verdict, created, classified, bucket⟩ := routeNewFailure_ok handled
    cases held : isControlCase event.caseId with
    | true =>
        rw [held, if_pos rfl] at bucket
        cases pending.symm.trans (opened.held bucket)
    | false =>
        rw [held] at handled
        exact ineligible ((routeNewFailure_noticed_iff created classified).mp
          ⟨_, handled, pending⟩)
  · exact List.countP_eq_zero.mpr fun entry member enters =>
      opened.notExecuted entry member (of_decide_eq_true enters).1

/-- Operations whose failures are well typed carry codes that can be classified. -/
theorem stringCodes_of_wellTyped {operation : Operation}
    (typed : ∀ event, operation = .paymentFailed event → event.WellTyped)
    : operation.StringCodes := by
  cases operation with
  | paymentFailed event =>
      obtain ⟨⟨text, code⟩, reason⟩ := typed event rfl
      refine ⟨code ▸ Json.isCode_str text, ?_⟩
      rcases reason with none | ⟨text, reason⟩
      · exact none ▸ Json.isCode_null
      · exact reason ▸ Json.isCode_str text
  | _ => exact trivial

/-- Where the cap allows an attempt, or nothing is retried, no case exceeds it. -/
theorem Sufficient.capped (sufficient : loaded.Sufficient) : loaded.Capped := by
  intro event clock case event' entries typed handled steps typedSteps
  unfold LoadedConfig.handlePaymentFailed at handled
  split at handled
  · next readable =>
      rcases sufficient.cap with capped | ineligible
      · have opened : Tracked.opened event loaded.config clock = .ok ⟨case, entries⟩ := by
          rw [Tracked.opened, handled]
          rfl
        have budget := (Tracked.Budget.opened capped opened).performAll fun step member =>
          stringCodes_of_wellTyped (typedSteps step member)
        have bound := budget.executions_le
        omega
      · have uncharged := Uncharged.opened (ineligible event typed readable) handled
        have still : Uncharged (Tracked.performAll loaded.config ⟨case, entries⟩ steps) :=
          Run.keeps uncharged (fun _ step kept => kept.perform step) steps
        rw [still.2]
        exact Nat.zero_le _
  · dsimp only at handled
    cases created : RecoveryCase.create event.caseId _ event.instrumentId event.amount
        (clock.now 0) with
    | error raised => rw [created] at handled; cases handled
    | ok fresh => rw [created] at handled; cases handled

/-- Where a failure is retried, one execution is reached, so the cap has to allow it. -/
theorem Capped.cap (capped : loaded.Capped) (valid : loaded.config.Loaded)
    (listed : loaded.config.selfImposed.retrySpacing ≠ [])
    (calendar : FitsCalendar loaded.config)
    : 1 ≤ loaded.config.npciRules.maxRetries
      ∨ ∀ event : PaymentFailureEvent,
          event.WellTyped → loaded.readable = true → ¬ Eligible loaded.config event := by
  refine or_iff_not_imp_left.mpr fun refused event typed readable eligible => ?_
  have typed' : (treated event).WellTyped := ⟨typed.reasonCode, typed.errorReason⟩
  have eligible : Eligible loaded.config (treated event) := eligible
  obtain ⟨fresh, created⟩ := opening_created (treated event) (show "card_1" ≠ "" by decide)
    ((stoppedClock 0).now 0)
  obtain ⟨⟨retryable, classified⟩, _⟩ := id eligible
  obtain ⟨⟨case, event', entries⟩, routed, pending⟩
    := (routeNewFailure_noticed_iff created classified).mpr eligible
  rw [← treated_bucket event, ← handleNewFailure_eq] at routed
  have handled : loaded.handlePaymentFailed none (treated event) (stoppedClock 0)
      = .ok (case, event', entries) := by
    rw [LoadedConfig.handlePaymentFailed, if_pos readable]
    exact routed
  obtain ⟨steps, quiet, entry, member, enters⟩ := @Tracked.retry_reachable loaded.config
    ⟨case, entries⟩ valid listed calendar pending
  have bound := capped (treated event) (stoppedClock 0) case event' entries typed' handled steps
    fun step member event same => absurd same (quiet step member event)
  have executed : 0 < Tracked.executions
      (Tracked.performAll loaded.config ⟨case, entries⟩ steps).trail :=
    List.countP_pos_iff.mpr ⟨entry, member, decide_eq_true enters⟩
  omega

/-- Whatever document is accepted, the state machine neither looks up in vain nor exceeds the
cap where the configuration has what it relies on, and nowhere else: only where no first retry
fits the calendar can a cap that allows no attempt go unnoticed.
-/
theorem loadConfig_sufficient_iff {path : String} {profile : ProfileName} {raw : Yaml}
    (accepted : loadConfig path profile raw = .ok loaded)
    : (loaded.Sufficient → loaded.LookupsSafe ∧ loaded.Capped)
      ∧ (FitsCalendar loaded.config
        → ((loaded.LookupsSafe ∧ loaded.Capped) ↔ loaded.Sufficient)) := by
  have valid := loadConfig_loaded accepted
  have enough (sufficient : loaded.Sufficient) : loaded.LookupsSafe ∧ loaded.Capped :=
    ⟨sufficient.lookupsSafe valid, sufficient.capped⟩
  refine ⟨enough, fun calendar => ⟨fun meets => ?_, enough⟩⟩
  obtain ⟨safe, capped⟩ := meets
  exact {
    spacing := safe.spacing
    ceiling := fun _ typed technical => safe.ceiling typed technical
    cap := capped.cap valid safe.spacing calendar
  }

/-- What decides about the shipped document. -/
theorem loadConfig_sufficient_iff_shipped
    : (LookupsSafe ⟨shippedConfig .prod, true⟩ ∧ Capped ⟨shippedConfig .prod, true⟩)
      ↔ Sufficient ⟨shippedConfig .prod, true⟩ :=
  (loadConfig_sufficient_iff (loadConfig_shipped .prod)).2 (shippedConfig_fitsCalendar .prod)

/-- An empty spacing list is accepted, and the first notice raises an `IndexError`. -/
theorem loadConfig_unspaced
    : ∃ loaded,
        loadConfig "config/npci_rules.yaml" .prod (documentWith []) = .ok loaded
        ∧ ¬ (loaded.LookupsSafe ∧ loaded.Capped) := by
  let unspaced : LoadedConfig := {
    config := {
      shippedConfig .prod with
      selfImposed := { (shippedConfig .prod).selfImposed with retrySpacing := [] } }
    readable := true
  }
  refine ⟨unspaced, by decide +kernel, fun ⟨safe, _⟩ => safe.spacing rfl⟩

end LoadedConfig

end RecoveryAgent
