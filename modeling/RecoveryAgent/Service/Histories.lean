import RecoveryAgent.Core.Atomicity
import RecoveryAgent.Core.Eligibility
import RecoveryAgent.Lib.EdgePath
import RecoveryAgent.Service.CaseMoves
import RecoveryAgent.Service.Dashboard

/-! The whole history of one case, with what the endpoints do to it beside the state machine.
The trail of a case is read as a path through the states: each entry is an edge, the
intermediate states of one call included.
-/

namespace RecoveryAgent

namespace StateMachine

-----------------------------------------------------------------------------------------
-- Actions
-----------------------------------------------------------------------------------------

/-- What is done to a case: a call of the state machine, a human resolution, or the distress
gate of `execute_retry`.
-/
inductive Action where
  | called (operation : Operation)
  | resolved (note : ResolutionNote)
  | distressed

namespace Tracked

/-- `resolve_escalation` on the case: only an escalated one is resolved. -/
def resolve (tracked : Tracked) (note : ResolutionNote) (now : Datetime) : Tracked :=
  if tracked.case.state = .escalated then
    { case := { tracked.case with state := .resolvedByHuman, resolutionNote := some note }
      trail := tracked.trail ++ [Handler.humanResolution tracked.case.caseId now] }
  else tracked

/-- The distress gate on the case: only a scheduled retry is blocked. -/
def distress (tracked : Tracked) (now : Datetime) : Tracked :=
  if tracked.case.state = .retryScheduled then
    { case := { tracked.case with state := .escalated }
      trail := tracked.trail ++ [Handler.distressSignal tracked.case.caseId now] }
  else tracked

/-- One action, with the clock readings it sees. What the state refuses changes nothing. -/
def act (config : AppConfig) (tracked : Tracked) : Action × Clock → Tracked
  | (.called operation, clock) => tracked.perform config (operation, clock)
  | (.resolved note, clock) => tracked.resolve note (clock.now 0)
  | (.distressed, clock) => tracked.distress (clock.now 0)

/-- A history of actions. -/
def actAll (config : AppConfig) (start : Tracked) (steps : List (Action × Clock)) : Tracked :=
  steps.foldl (act config) start

/-- The case and the entries an action leaves. -/
inductive Acted (config : AppConfig) (now : Datetime) (case : RecoveryCase)
    : RecoveryCase → List AuditEntry → Prop where
  | moved {case' : RecoveryCase} {entries : List AuditEntry}
      (step : Transition config now case case' entries)
    : Acted config now case case' entries
  /-- A failure whose codes cannot be classified has been counted before it is refused. -/
  | counted (executed : case.state = .retryExecuted)
    : Acted config now case { case with retriesUsed := case.retriesUsed + 1 } []
  | resolved (escalated : case.state = .escalated) (note : ResolutionNote)
    : Acted config now case
        { case with state := .resolvedByHuman, resolutionNote := some note }
        [Handler.humanResolution case.caseId now]
  | distressed (scheduled : case.state = .retryScheduled)
    : Acted config now case { case with state := .escalated }
        [Handler.distressSignal case.caseId now]

/-- Every action leaves the trail extended by its entries. -/
theorem act_acted (config : AppConfig) (tracked : Tracked) (step : Action × Clock)
    : ∃ entries,
        (tracked.act config step).trail = tracked.trail ++ entries
        ∧ Acted config (step.2.now 0) tracked.case (tracked.act config step).case entries := by
  obtain ⟨action, clock⟩ := step
  cases action with
  | called operation =>
      refine ⟨(call config tracked.case clock operation).2, rfl, ?_⟩
      rcases call_cases config tracked.case clock operation with step | ⟨executed, _, counted⟩
      · exact .moved step
      · have kept : (tracked.act config (.called operation, clock)).case
            = { tracked.case with retriesUsed := tracked.case.retriesUsed + 1 } :=
          congrArg Prod.fst counted
        rw [kept, counted]
        exact .counted executed
  | resolved note =>
      dsimp only [act, resolve]
      split
      · next escalated => exact ⟨_, rfl, .resolved escalated note⟩
      · exact ⟨[], by simp, .moved .unchanged⟩
  | distressed =>
      dsimp only [act, distress]
      split
      · next scheduled => exact ⟨_, rfl, .distressed scheduled⟩
      · exact ⟨[], by simp, .moved .unchanged⟩

section Acted

variable {config : AppConfig} {now : Datetime} {case case' : RecoveryCase}
  {entries : List AuditEntry}

theorem Acted.sameCase (acted : Acted config now case case' entries) : SameCase case case' := by
  cases acted with
  | moved step => exact step.sameCase
  | _ => exact ⟨rfl, rfl, rfl, rfl, rfl⟩

/-- A closed case is left as it is, and so is its state by every entry written about it. -/
theorem Acted.closed (acted : Acted config now case case' entries)
    (closed : closedState case.state)
    : case' = case ∧ ∀ entry ∈ entries, entry.toState = case.state := by
  cases acted with
  | moved step =>
      refine ⟨step.closed closed, ?_⟩
      cases step with
      | unchanged => simp
      | answered answer =>
          cases answer with
          | noted rule cited => simp
          | settled settles outcome rule cited =>
              generalize case.state = state at closed settles
              cases settles with
              | naturallyRecovered awaiting =>
                  rcases awaitsExecution_iff.mp awaiting with rfl | rfl | rfl | rfl <;>
                    simp [closedState] at closed
              | _ => simp [closedState] at closed
          | evaluated executed eligible rule cited => simp [executed, closedState] at closed
      | triggered triggers rule cited =>
          generalize case.state = state at closed triggers
          cases triggers <;> simp [closedState] at closed
      | noticeLost pending => simp [pending, closedState] at closed
      | noticed pending scheduledAt => simp [pending, closedState] at closed
  | counted executed => simp [executed, closedState] at closed
  | resolved escalated note => simp [escalated, closedState] at closed
  | distressed scheduled => simp [scheduled, closedState] at closed

/-- The entries of an action are a path from the old state to the new one, unless a notice
was marked and lost. Witness: one case per kind of action, each with its own labels.
-/
theorem Acted.path (acted : Acted config now case case' entries)
    (sent : case.state = .noticePending → case'.state ≠ .noticeSent)
    : EdgePath AuditEntry.fromState AuditEntry.toState case.state entries case'.state := by
  cases acted with
  | moved step =>
      cases step with
      | unchanged => exact .nil _
      | answered answer =>
          cases answer with
          | noted rule cited => exact .single (audit _ case.state case.state rule now cited)
          | @settled next settles outcome rule cited =>
              exact .single (audit _ case.state next rule now cited)
          | @evaluated executed next eligible rule cited =>
              rw [executed]
              exact .cons (audit case.caseId .retryExecuted .retryEval "execution_outcome" now)
                (.single (audit case.caseId .retryEval next rule now cited))
      | @triggered next triggers rule cited =>
          exact .single (audit _ case.state next rule now cited)
      | noticeLost pending => exact absurd rfl (sent pending)
      | noticed pending scheduledAt =>
          rw [pending]
          exact .cons (audit case.caseId .noticePending .noticeSent "notice_sent" now)
            (.single { audit case.caseId .noticeSent .retryScheduled "schedule_retry" now with
              scheduledAt := some scheduledAt })
  | counted executed => exact .nil _
  | resolved escalated note =>
      rw [escalated]
      exact .single (Handler.humanResolution case.caseId now)
  | distressed scheduled =>
      rw [scheduled]
      exact .single (Handler.distressSignal case.caseId now)

/-- An entry from a state to itself is only written where nothing is changed. -/
theorem Acted.loops (acted : Acted config now case case' entries)
    : ∀ entry ∈ entries, entry.fromState = entry.toState → case' = case := by
  cases acted with
  | moved step =>
      cases step with
      | unchanged => simp
      | answered answer =>
          cases answer with
          | noted rule cited => exact fun _ _ _ => rfl
          | settled settles outcome rule cited =>
              intro entry member loop
              rw [List.mem_singleton.mp member] at loop
              generalize case.state = state at loop settles
              cases settles with
              | naturallyRecovered awaiting =>
                  rcases awaitsExecution_iff.mp awaiting with rfl | rfl | rfl | rfl <;>
                    cases loop
              | _ => cases loop
          | evaluated executed eligible rule cited =>
              rcases eligible with rfl | ⟨rfl, _⟩ <;> simp
      | triggered triggers rule cited =>
          intro entry member loop
          rw [List.mem_singleton.mp member] at loop
          generalize case.state = state at loop triggers
          cases triggers <;> cases loop
      | noticeLost pending => simp
      | noticed pending scheduledAt => simp [noticeEntries]
  | counted executed => simp
  | resolved escalated note => simp [Handler.humanResolution]
  | distressed scheduled => simp [Handler.distressSignal]

/-- No entry leaves a closed state. -/
theorem Acted.edges (acted : Acted config now case case' entries)
    : ∀ entry ∈ entries, closedState entry.fromState → closedState entry.toState := by
  by_cases closed : closedState case.state
  · intro entry member _
    rw [(acted.closed closed).2 entry member]
    exact closed
  · intro entry member from_
    have left : entry.fromState = case.state ∨ entry.fromState = .retryEval
        ∨ entry.fromState = .noticeSent := by
      cases acted with
      | moved step =>
          cases step with
          | unchanged => simp at member
          | answered answer =>
              cases answer with
              | noted rule cited => exact .inl (by rw [List.mem_singleton.mp member]; rfl)
              | settled settles outcome rule cited =>
                  exact .inl (by rw [List.mem_singleton.mp member]; rfl)
              | evaluated executed eligible rule cited =>
                  rcases List.mem_pair.mp member with rfl | rfl
                  · exact .inl executed.symm
                  · exact .inr (.inl rfl)
          | triggered triggers rule cited =>
              exact .inl (by rw [List.mem_singleton.mp member]; rfl)
          | noticeLost pending => simp at member
          | noticed pending scheduledAt =>
              rcases List.mem_pair.mp member with rfl | rfl
              · exact .inl pending.symm
              · exact .inr (.inr rfl)
      | counted executed => simp at member
      | resolved escalated note =>
          rw [List.mem_singleton.mp member]
          exact .inl escalated.symm
      | distressed scheduled =>
          rw [List.mem_singleton.mp member]
          exact .inl scheduled.symm
    rcases left with same | eval | sent
    · exact absurd (same ▸ from_) closed
    · rw [eval] at from_
      exact absurd from_ (by decide)
    · rw [sent] at from_
      exact absurd from_ (by decide)

end Acted

-----------------------------------------------------------------------------------------
-- Replaying the trail
-----------------------------------------------------------------------------------------

/-- The action sends a pending notice only where its retry can be scheduled. -/
def Serviceable (config : AppConfig) (tracked : Tracked) (step : Action × Clock) : Prop :=
  ∀ reasonCode previous bandit,
    step.1 = .called (.markNoticeSent reasonCode previous bandit)
    → tracked.case.state = .noticePending
    → Schedulable config tracked.case step.2 reasonCode previous bandit

/-- A serviceable action never leaves a pending notice marked but not scheduled. -/
theorem Serviceable.sent {config : AppConfig} {tracked : Tracked} {step : Action × Clock}
    (serviceable : Serviceable config tracked step) (pending : tracked.case.state = .noticePending)
    : (tracked.act config step).case.state ≠ .noticeSent := by
  obtain ⟨action, clock⟩ := step
  cases action with
  | called operation =>
      change (call config tracked.case clock operation).1.state ≠ .noticeSent
      cases operation with
      | paymentFailed event =>
          simp [call, handlePaymentFailed, handleExistingFailure, pending, kept, Except.map]
      | paymentSucceeded event =>
          simp only [call, handlePaymentSuccess, pending]
          repeat' split
          all_goals simp [pending]
      | markNoticeSent reasonCode previous bandit =>
          obtain ⟨done, sent⟩ := (serviceable reasonCode previous bandit rfl pending).sends pending
          have noticed := markNoticeSent_ok tracked.case config clock sent
          simp [call, sent, kept, Except.map, noticed.case_eq]
      | markRetryExecuted decision =>
          simp [call, StateMachine.markRetryExecuted, pending, kept, Except.map]
      | attemptExecution decision commit =>
          simp [call, StateMachine.attemptExecution, pending, kept, Except.map]
      | applyThrottle => simp [call, StateMachine.applyThrottle, trigger, pending, kept]
      | releaseThrottle => simp [call, StateMachine.releaseThrottle, trigger, pending, kept]
  | resolved note => simp [act, resolve, pending]
  | distressed => simp [act, distress, pending]

/-- The trail is a path from RECEIVED to the state of the case. -/
structure Replays (tracked : Tracked) : Prop where
  path
    : EdgePath AuditEntry.fromState AuditEntry.toState .received tracked.trail tracked.case.state
  edges : ∀ entry ∈ tracked.trail, closedState entry.fromState → closedState entry.toState

/-- What an action does to the case agrees with the entries it leaves. -/
structure Recorded (tracked next : Tracked) (entries : List AuditEntry) : Prop where
  appended : next.trail = tracked.trail ++ entries
  loops : ∀ entry ∈ entries, entry.fromState = entry.toState → next.case = tracked.case
  moves : next.case.state ≠ tracked.case.state → entries ≠ []
  closed : (∃ entry ∈ tracked.trail, closedState entry.toState) → next.case = tracked.case

/-- A serviceable action extends the path and is recorded. Witness: its entries are a path
between the two states, and no entry leaves a closed state.
-/
theorem Replays.act {config : AppConfig} {tracked : Tracked} (replays : Replays tracked)
    {step : Action × Clock} (serviceable : Serviceable config tracked step)
    : Replays (tracked.act config step)
      ∧ ∃ entries, Recorded tracked (tracked.act config step) entries := by
  obtain ⟨entries, appended, acted⟩ := act_acted config tracked step
  have path := acted.path serviceable.sent
  refine ⟨⟨?_, ?_⟩, entries, ?_⟩
  · rw [appended]
    exact replays.path.append path
  · rw [appended]
    exact List.forall_mem_append.mpr ⟨replays.edges, acted.edges⟩
  · exact {
      appended := appended
      loops := acted.loops
      moves := by
        rintro changed rfl
        exact changed path.eq_of_nil.symm
      closed := fun entered => (acted.closed (replays.path.ends replays.edges entered)).1
    }

/-- The three entries of a treatment case are a path, wherever the last one leads. -/
theorem Replays.treatment {case : RecoveryCase} (caseId : String) {toState : CaseState}
    {rule : String} {cited : rule ≠ ""} {now : Datetime} (state : case.state = toState)
    : Replays ⟨case, [
        audit caseId .received .classified "create_case" now,
        audit caseId .classified .treatment "assign_bucket_treatment" now,
        audit caseId .treatment toState rule now cited]⟩ where
  path := by
    rw [state]
    exact .cons (audit caseId .received .classified "create_case" now)
      (.cons (audit caseId .classified .treatment "assign_bucket_treatment" now)
        (.single (audit caseId .treatment toState rule now cited)))
  edges := by simp [closedState]

/-- The entries of the opening are a path to the state the case is opened in. -/
theorem Replays.opened {event : PaymentFailureEvent} {config : AppConfig} {clock : Clock}
    {start : Tracked} (opened : Tracked.opened event config clock = .ok start)
    : Replays start := by
  unfold Tracked.opened handlePaymentFailed at opened
  dsimp only at opened
  cases created : handleNewFailure event config clock with
  | error raised => rw [created] at opened; cases opened
  | ok done =>
      obtain ⟨case, event', entries⟩ := done
      rw [created] at opened
      cases opened
      simp only [handleNewFailure, bind, Except.bind, pure, Except.pure] at created
      split at created
      · cases created
      next fresh made =>
      have unassigned := (RecoveryCase.create_eq made).2.2.2.2.2
      simp only [assignBucket_eq unassigned] at created
      split at created
      · cases created
      split at created
      · split at created
        · cases created
        cases created
        exact {
          path := .cons (audit fresh.caseId .received .classified "create_case" (clock.now 0))
            (.single (audit fresh.caseId .classified .controlHeld "assign_bucket_control"
              (clock.now 0)))
          edges := by simp [closedState]
        }
      split at created
      · cases created
        exact .treatment _ rfl
      split at created
      · cases created
      split at created <;> cases created <;> exact .treatment _ rfl

end Tracked

/-- The trail is a path from RECEIVED to the current state, and every action of the run has been
recorded.
-/
def ReplaysAlong (config : AppConfig) (start : Tracked) (steps : List (Action × Clock)) : Prop :=
  let final := start.actAll config steps
  EdgePath AuditEntry.fromState AuditEntry.toState .received final.trail final.case.state
  ∧ Run.Along (Tracked.act config) start steps fun tracked step =>
      ∃ entries, Tracked.Recorded tracked (tracked.act config step) entries

/-- From the opening on, whatever serviceable actions are taken in whatever order, the trail
replays to the case. Witness: induction over the actions.
-/
theorem trail_replays {event : PaymentFailureEvent} {config : AppConfig} {clock : Clock}
    {start : Tracked} {steps : List (Action × Clock)}
    (opened : Tracked.opened event config clock = .ok start)
    (serviceable
      : Run.Along (Tracked.act config) start steps (Tracked.Serviceable config))
    : ReplaysAlong config start steps := by
  have replays := Tracked.Replays.opened opened
  constructor
  · have kept := serviceable.keeps replays fun _ _ replays serviceable =>
      (replays.act serviceable).1
    exact kept.path
  · exact serviceable.implies replays fun _ _ replays serviceable =>
      (replays.act serviceable).symm

/-- A retry that is executed, fails for good, is resolved by a human, and is paid later. -/
def resolvedSteps : List (Action × Clock) := [
  (.called (.markNoticeSent none none none), stoppedClock 0),
  (.called (.markRetryExecuted firstDecision), stoppedClock (hours 24)),
  (.called (.paymentFailed { technicalDecline with reasonCode := .str "blocked_account" }),
    stoppedClock (hours 25)),
  (.resolved .writtenOff, stoppedClock (hours 26)),
  (.called (.paymentSucceeded (capture 50000 fiveHundredRupees_pos)), stoppedClock (hours 27))]

theorem resolvedSteps_serviceable
    : Run.Along (Tracked.act (shippedConfig .prod)) declined resolvedSteps
        (Tracked.Serviceable (shippedConfig .prod)) := by
  have none_sent (tracked : Tracked) (action : Action) (clock : Clock)
      (other : ∀ code previous bandit, action ≠ .called (.markNoticeSent code previous bandit))
      : Tracked.Serviceable (shippedConfig .prod) tracked (action, clock) :=
    fun code previous bandit same => absurd same (other code previous bandit)
  refine Run.along_cons.mpr ⟨?_, Run.along_of_forall fun step member tracked => ?_⟩
  · rintro code previous bandit same pending
    cases same
    exact schedulable_of_inCalendar (shippedConfig_loaded .prod) (stoppedClock_resolves 0)
      (show _ = some 0 from rfl) none (fun _ given => by cases given) (by decide)
  · simp only [List.mem_cons, List.not_mem_nil, or_false] at member
    rcases member with rfl | rfl | rfl | rfl <;>
      exact none_sent _ _ _ fun _ _ _ same => by cases same

/-- The trail of that history is a path. -/
theorem trail_replays_resolved : ReplaysAlong (shippedConfig .prod) declined resolvedSteps :=
  trail_replays declined_opened resolvedSteps_serviceable

/-- What the action asks for is well formed: a failure has codes that are text, the clock resolves
legal delays, and a bandit picks one of the candidates it is handed.
-/
structure WellAsked (step : Action × Clock) : Prop where
  codes : ∀ operation, step.1 = .called operation → operation.StringCodes
  resolves : Resolves step.2
  picks
    : ∀ reasonCode previous suggest,
        step.1 = .called (.markNoticeSent reasonCode previous (some suggest)) → Picks suggest

/-- Well-formed actions do not always replay: a notice whose schedule leads past the calendar
stays marked as sent, and leaves no entry.
-/
theorem trail_not_replays
    : ¬ ∀ (event : PaymentFailureEvent) (config : AppConfig) (clock : Clock) (start : Tracked)
        (steps : List (Action × Clock)),
        config.Loaded
        → config.selfImposed.retrySpacing ≠ []
        → Tracked.opened event config clock = .ok start
        → (∀ step ∈ steps, WellAsked step)
        → ReplaysAlong config start steps := by
  intro replays
  have opened : Tracked.opened technicalDecline (wideConfig .prod) (stoppedClock 0)
      = .ok declined := by
    decide +kernel
  have asked : WellAsked (.called (.markNoticeSent none none none), stoppedClock 0) := by
    refine ⟨fun operation called => ?_, stoppedClock_resolves 0, fun _ _ _ sent => by cases sent⟩
    cases called
    exact trivial
  have ran := replays technicalDecline (wideConfig .prod) (stoppedClock 0) declined
    [(.called (.markNoticeSent none none none), stoppedClock 0)] (wideConfig_loaded .prod)
    (by decide) opened fun step member => List.mem_singleton.mp member ▸ asked
  have raised
      : (markNoticeSent declined.case (wideConfig .prod) (stoppedClock 0) none none none).result
        = .error .overflowError := by
    decide +kernel
  have final
      : declined.actAll (wideConfig .prod)
          [(.called (.markNoticeSent none none none), stoppedClock 0)]
        = ⟨{ declined.case with state := .noticeSent }, declined.trail⟩ := by
    rcases markNoticeSent_raised declined.case (wideConfig .prod) (stoppedClock 0) raised with
      ⟨elsewhere, _⟩ | ⟨_, noticed⟩
    · exact absurd rfl elsewhere
    · simp [Tracked.actAll, Tracked.act, Tracked.perform, Tracked.call, raised, noticed,
        Tracked.kept, Except.map]
  have path := (Tracked.Replays.opened opened).path
  have path' := ran.1
  rw [final] at path'
  cases path.unique path'

namespace Tracked

/-- The states of an outreach: its notices, its throttles and its retries. -/
def OutreachState (state : CaseState) : Prop :=
  state ∈ [CaseState.noticePending, .noticeSent, .retryScheduled, .throttled, .retryExecuted,
    .retryEval]

/-- A control case as it was opened, or with the outcome it was observed to have. -/
structure Observed (tracked : Tracked) : Prop where
  bucket : tracked.case.bucket = some .control
  retriesUsed : tracked.case.retriesUsed = 0
  outcome
    : (tracked.case.state = .controlHeld ∧ tracked.case.controlOutcome = some .unknown)
      ∨ (tracked.case.state = .controlRecovered
        ∧ tracked.case.controlOutcome = some .recoveredNaturally)
      ∨ (tracked.case.state = .controlStillFailed
        ∧ tracked.case.controlOutcome = some .stillFailed)
  untouched
    : ∀ entry ∈ tracked.trail, ¬ OutreachState entry.fromState ∧ ¬ OutreachState entry.toState

/-- Calls that would act on the case are refused in the states of a control case. -/
theorem act_refused (config : AppConfig) {tracked : Tracked}
    (held : tracked.case.state ∈ controlStates) {action : Action} (clock : Clock)
    (outreach
      : ∀ operation, action = .called operation
          → (∀ event, operation ≠ .paymentFailed event)
            ∧ ∀ event, operation ≠ .paymentSucceeded event)
    : tracked.act config (action, clock) = tracked := by
  have apart {state : CaseState} (other : state ∉ controlStates) : tracked.case.state ≠ state :=
    fun same => other (same ▸ held)
  have unpending : tracked.case.state ≠ .noticePending := apart (by decide)
  have unscheduled : tracked.case.state ≠ .retryScheduled := apart (by decide)
  have unthrottled : tracked.case.state ≠ .throttled := apart (by decide)
  have unescalated : tracked.case.state ≠ .escalated := apart (by decide)
  cases action with
  | called operation =>
      obtain ⟨unfailed, unpaid⟩ := outreach operation rfl
      cases operation with
      | paymentFailed event => exact absurd rfl (unfailed event)
      | paymentSucceeded event => exact absurd rfl (unpaid event)
      | markNoticeSent reasonCode previous bandit =>
          simp [act, perform, call, StateMachine.markNoticeSent, unpending, kept, Except.map]
      | markRetryExecuted decision =>
          simp [act, perform, call, StateMachine.markRetryExecuted, unscheduled, kept, Except.map]
      | attemptExecution decision commit =>
          simp [act, perform, call, StateMachine.attemptExecution, unscheduled, kept, Except.map]
      | applyThrottle =>
          simp [act, perform, call, StateMachine.applyThrottle, trigger, unscheduled, kept]
      | releaseThrottle =>
          simp [act, perform, call, StateMachine.releaseThrottle, trigger, unthrottled, kept]
  | resolved note => simp [act, resolve, unescalated]
  | distressed => simp [act, distress, unscheduled]

/-- A noted event leaves a control case as it is. -/
theorem Observed.noted {tracked : Tracked} (observed : Observed tracked) {rule : String}
    {cited : rule ≠ ""} {now : Datetime}
    : Observed ⟨tracked.case, tracked.trail
        ++ [audit tracked.case.caseId tracked.case.state tracked.case.state rule now cited]⟩ := by
  obtain ⟨bucket, unused, outcome, untouched⟩ := observed
  have idle : ¬ OutreachState tracked.case.state := by
    rcases outcome with ⟨state, _⟩ | ⟨state, _⟩ | ⟨state, _⟩ <;> rw [state] <;>
      simp [OutreachState]
  exact ⟨bucket, unused, outcome, List.forall_mem_append.mpr ⟨untouched, by simpa using idle⟩⟩

/-- The observation that closes a control case. -/
theorem Observed.settled {tracked : Tracked} (observed : Observed tracked) {rule : String}
    {cited : rule ≠ ""} {now : Datetime} {toState : CaseState} {seen : ControlOutcome}
    (outcome
      : (toState = .controlRecovered ∧ seen = .recoveredNaturally)
        ∨ (toState = .controlStillFailed ∧ seen = .stillFailed))
    : Observed ⟨{ tracked.case with state := toState, controlOutcome := some seen },
        tracked.trail ++ [audit tracked.case.caseId .controlHeld toState rule now cited]⟩ := by
  obtain ⟨bucket, unused, _, untouched⟩ := observed
  rcases outcome with ⟨rfl, rfl⟩ | ⟨rfl, rfl⟩
  · exact ⟨bucket, unused, .inr (.inl ⟨rfl, rfl⟩),
      List.forall_mem_append.mpr ⟨untouched, by simp [OutreachState]⟩⟩
  · exact ⟨bucket, unused, .inr (.inr ⟨rfl, rfl⟩),
      List.forall_mem_append.mpr ⟨untouched, by simp [OutreachState]⟩⟩

/-- Every action leaves a control case one: it is refused, noted, or the outcome observed. -/
theorem Observed.act {tracked : Tracked} (observed : Observed tracked) (config : AppConfig)
    (step : Action × Clock)
    : Observed (tracked.act config step) := by
  obtain ⟨action, clock⟩ := step
  have held : tracked.case.state ∈ controlStates := by
    rcases observed.outcome with ⟨state, _⟩ | ⟨state, _⟩ | ⟨state, _⟩ <;> rw [state] <;> decide
  by_cases event : ∃ operation, action = .called operation
      ∧ ((∃ failure, operation = .paymentFailed failure)
        ∨ ∃ success, operation = .paymentSucceeded success)
  · obtain ⟨_, rfl, ⟨failure, rfl⟩ | ⟨success, rfl⟩⟩ := event
    · have unexecuted : tracked.case.state ≠ .retryExecuted :=
        fun same => by simp [same, controlStates] at held
      simp only [Tracked.act, perform, call, handlePaymentFailed, handleExistingFailure]
      split
      · exact observed.settled (.inr ⟨rfl, rfl⟩)
      · exact observed.noted
    · simp only [Tracked.act, perform, call, handlePaymentSuccess]
      split
      · exact observed.noted
      rw [if_pos observed.bucket]
      split
      · exact observed.noted
      · exact observed.settled (.inl ⟨rfl, rfl⟩)
  · rw [act_refused config held]
    · exact observed
    · intro operation called
      exact ⟨fun failure same => event ⟨operation, called, .inl ⟨failure, same⟩⟩,
        fun success same => event ⟨operation, called, .inr ⟨success, same⟩⟩⟩

/-- A case that the hash puts into the control group is opened held, its window open. -/
theorem opened_control {event : PaymentFailureEvent} {config : AppConfig} {clock : Clock}
    {start : Tracked} (opened : Tracked.opened event config clock = .ok start)
    (control : start.case.bucket = some .control)
    : start.case.retriesUsed = 0
      ∧ start.case.state = .controlHeld
      ∧ start.case.controlOutcome = some .unknown
      ∧ (∃ deadline, start.case.controlObservationDeadline = some deadline)
      ∧ ∀ entry ∈ start.trail,
          ¬ OutreachState entry.fromState ∧ ¬ OutreachState entry.toState := by
  unfold Tracked.opened handlePaymentFailed at opened
  dsimp only at opened
  cases created : handleNewFailure event config clock with
  | error raised => rw [created] at opened; cases opened
  | ok done =>
      obtain ⟨case, event', entries⟩ := done
      rw [created] at opened
      cases opened
      have unused := (handleNewFailure_opened created).retriesUsed
      simp only [handleNewFailure, bind, Except.bind, pure, Except.pure] at created
      split at created
      · cases created
      next fresh made =>
      have unassigned := (RecoveryCase.create_eq made).2.2.2.2.2
      simp only [assignBucket_eq unassigned] at created
      split at created
      · cases created
      split at created
      · split at created
        · cases created
        cases created
        exact ⟨unused, rfl, rfl, ⟨_, rfl⟩, by simp [OutreachState]⟩
      -- the other branches open a treatment case
      repeat' split at created
      all_goals cases created
      all_goals cases control

/-- A case that the hash put into the control group is observed from its opening on. -/
theorem Observed.opened {event : PaymentFailureEvent} {config : AppConfig} {clock : Clock}
    {start : Tracked} (opened : Tracked.opened event config clock = .ok start)
    (control : start.case.bucket = some .control)
    : Observed start := by
  obtain ⟨unused, held, unknown, _, untouched⟩ := opened_control opened control
  exact ⟨control, unused, .inl ⟨held, unknown⟩, untouched⟩

/-- A treatment case and its trail stay out of the states of the control group. -/
structure Treated (tracked : Tracked) : Prop where
  bucket : tracked.case.bucket = some .treatment
  apart : tracked.case.state ∉ controlStates
  entered : ∀ entry ∈ tracked.trail, entry.toState ∉ controlStates

/-- The control states are only entered from CONTROL_HELD. -/
theorem Acted.apart {config : AppConfig} {now : Datetime} {case case' : RecoveryCase}
    {entries : List AuditEntry} (acted : Acted config now case case' entries)
    (apart : case.state ∉ controlStates)
    : case'.state ∉ controlStates ∧ ∀ entry ∈ entries, entry.toState ∉ controlStates := by
  cases acted with
  | moved step =>
      cases step with
      | unchanged => exact ⟨apart, by simp⟩
      | answered answer =>
          cases answer with
          | noted rule cited => exact ⟨apart, by simpa using apart⟩
          | settled settles outcome rule cited =>
              generalize case.state = state at apart settles
              cases settles with
              | controlRecovered => exact absurd (by decide) apart
              | controlStillFailed => exact absurd (by decide) apart
              | _ => simp [controlStates]
          | evaluated executed eligible rule cited =>
              rcases eligible with rfl | ⟨rfl, _⟩ <;> simp [controlStates]
      | triggered triggers rule cited =>
          generalize case.state = state at triggers
          cases triggers <;> simp [controlStates]
      | noticeLost pending => simp [controlStates]
      | noticed pending scheduledAt => simp [controlStates, noticeEntries]
  | counted executed => exact ⟨apart, by simp⟩
  | resolved escalated note => simp [controlStates, Handler.humanResolution]
  | distressed scheduled => simp [controlStates, Handler.distressSignal]

/-- Every action keeps a treatment case out of them. -/
theorem Treated.act {tracked : Tracked} (treated : Treated tracked) (config : AppConfig)
    (step : Action × Clock)
    : Treated (tracked.act config step) := by
  obtain ⟨entries, appended, acted⟩ := act_acted config tracked step
  have moved := acted.apart treated.apart
  exact {
    bucket := acted.sameCase.bucket.trans treated.bucket
    apart := moved.1
    entered := by
      rw [appended]
      exact List.forall_mem_append.mpr ⟨treated.entered, moved.2⟩
  }

/-- A case that the hash put into the treatment group starts outside them. -/
theorem Treated.opened {event : PaymentFailureEvent} {config : AppConfig} {clock : Clock}
    {start : Tracked} (opened : Tracked.opened event config clock = .ok start)
    (treatment : start.case.bucket = some .treatment)
    : Treated start := by
  unfold Tracked.opened handlePaymentFailed at opened
  dsimp only at opened
  cases created : handleNewFailure event config clock with
  | error raised => rw [created] at opened; cases opened
  | ok done =>
      obtain ⟨case, event', entries⟩ := done
      rw [created] at opened
      cases opened
      simp only [handleNewFailure, bind, Except.bind, pure, Except.pure] at created
      split at created
      · cases created
      next fresh made =>
      have unassigned := (RecoveryCase.create_eq made).2.2.2.2.2
      simp only [assignBucket_eq unassigned] at created
      repeat' split at created
      all_goals cases created
      · cases treatment
      all_goals exact ⟨rfl, by simp [controlStates], by simp [controlStates]⟩

/-- The action yields no retry decision. -/
def Undecided (config : AppConfig) (tracked : Tracked) (step : Action × Clock) : Prop :=
  ∀ reasonCode previous bandit,
    step.1 = .called (.markNoticeSent reasonCode previous bandit)
    → ∃ raised,
        (StateMachine.markNoticeSent tracked.case config step.2 reasonCode previous bandit).result
        = .error raised

theorem Observed.undecided {tracked : Tracked} (observed : Observed tracked)
    (config : AppConfig) (step : Action × Clock)
    : Undecided config tracked step := by
  intro reasonCode previous bandit _
  have unpending : tracked.case.state ≠ .noticePending := by
    rcases observed.outcome with ⟨state, _⟩ | ⟨state, _⟩ | ⟨state, _⟩ <;> simp [state]
  exact ⟨_, by rw [StateMachine.markNoticeSent, if_pos unpending]⟩

end Tracked

/-- A control case is never acted on: from its opening on, whatever is tried in whatever
order, it stays observed and no retry is decided for it. A treatment case never enters the
states of the control group. Witness: both are kept by every action.
-/
theorem control_group_untouched {event : PaymentFailureEvent} {config : AppConfig}
    {clock : Clock} {start : Tracked} (opened : Tracked.opened event config clock = .ok start)
    (steps : List (Action × Clock))
    : let final := start.actAll config steps
      (start.case.bucket = some .control
        → Tracked.Observed final
          ∧ Run.Along (Tracked.act config) start steps (Tracked.Undecided config))
      ∧ (start.case.bucket = some .treatment → Tracked.Treated final) := by
  intro final
  constructor
  · intro control
    have observed := Tracked.Observed.opened opened control
    have everywhere : Run.Along (Tracked.act config) start steps fun _ _ => True :=
      fun _ _ _ _ => trivial
    refine ⟨Run.keeps observed (fun _ step kept => kept.act config step) steps, ?_⟩
    exact everywhere.implies observed fun _ step kept _ =>
      ⟨kept.undecided config step, kept.act config step⟩
  · intro treatment
    have treated := Tracked.Treated.opened opened treatment
    exact Run.keeps treated (fun _ step kept => kept.act config step) steps

/-- Nothing that is tried on the held case in the history above touches it. -/
theorem control_group_untouched_held
    : let final := heldCase.actAll (shippedConfig .prod) resolvedSteps
      (heldCase.case.bucket = some .control
        → Tracked.Observed final
          ∧ Run.Along (Tracked.act (shippedConfig .prod)) heldCase resolvedSteps
              (Tracked.Undecided (shippedConfig .prod)))
      ∧ (heldCase.case.bucket = some .treatment → Tracked.Treated final) :=
  control_group_untouched heldCase_opened resolvedSteps

end StateMachine

end RecoveryAgent
