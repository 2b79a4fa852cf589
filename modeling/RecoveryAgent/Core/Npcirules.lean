import RecoveryAgent.Core.FalseAlarms
import RecoveryAgent.Lib.Behaviour

/-! The specification in `docs/npcirules.tla`, and the state machine as an implementation of it.
The specification counts a retry when it is executed, the state machine when its outcome arrives,
so it is the trail of a case and not its counter that is read as the specification's state.
-/

namespace RecoveryAgent

namespace Npcirules

/-- CONSTANTS; the sequence `Spacing` is indexed from one. -/
structure Constants where
  maxRetries : Int
  noticeLeadTime : Timedelta
  spacing : Nat → Option Timedelta

/-- VARIABLES; a time of 0 stands for none. -/
structure Vars where
  retriesUsed : Nat
  lastExecutedTime : Datetime
  noticeSentTime : Datetime
  deriving DecidableEq

/-- `Init`. -/
def init : Vars where
  retriesUsed := 0
  lastExecutedTime := 0
  noticeSentTime := 0

variable (constants : Constants) (now : Datetime)

def CanSendNotice (vars : Vars) : Prop := vars.noticeSentTime = 0

def CanExecuteRetry (vars : Vars) : Prop :=
  (vars.retriesUsed : Int) < constants.maxRetries
  ∧ (vars.lastExecutedTime = 0
    ∨ ∃ gap,
        constants.spacing vars.retriesUsed = some gap ∧ gap ≤ now - vars.lastExecutedTime)
  ∧ (vars.noticeSentTime ≠ 0 → constants.noticeLeadTime ≤ now - vars.noticeSentTime)

def incrementRetry (vars : Vars) : Vars where
  retriesUsed := vars.retriesUsed + 1
  lastExecutedTime := now
  noticeSentTime := 0

def Next (vars vars' : Vars) : Prop :=
  CanSendNotice vars ∧ vars' = { vars with noticeSentTime := now }
  ∨ CanExecuteRetry constants now vars ∧ vars' = incrementRetry now vars

/-- The specification's `Invariant`. -/
def Invariant (vars : Vars) : Prop :=
  (vars.retriesUsed : Int) ≤ constants.maxRetries
  ∧ (vars.lastExecutedTime ≠ 0 → 0 ≤ now - vars.lastExecutedTime)

/-- `Init` and `Next`. -/
def spec : Specification Datetime Vars where
  init vars := vars = init
  next := Next constants

variable {constants : Constants} {now later : Datetime} {vars vars' : Vars}

/-- The invariant is inductive, as long as the clock does not go back. -/
theorem Invariant.step (invariant : Invariant constants now vars) (forward : now ≤ later)
    (steps : (spec constants).Steps later vars vars')
    : Invariant constants later vars' := by
  obtain ⟨capped, past⟩ := invariant
  have still : vars.lastExecutedTime ≠ 0 → 0 ≤ later - vars.lastExecutedTime := by
    intro executed
    have before := past executed
    simp only [Datetime] at *
    omega
  rcases steps with (⟨-, rfl⟩ | ⟨⟨below, -, -⟩, rfl⟩) | rfl
  · exact ⟨capped, still⟩
  · refine ⟨?_, fun _ => ?_⟩
    · simp only [incrementRetry]
      push_cast
      omega
    · simp [incrementRetry]
  · exact ⟨capped, still⟩

end Npcirules

namespace StateMachine

open Npcirules

/-- The constants of a configuration. The first entry of `retry_spacing` is for a first retry, which
the specification does not space; the last one stands for all later ones.
-/
def npcirules (config : AppConfig) : Constants where
  maxRetries := config.npciRules.maxRetries
  noticeLeadTime := config.npciRules.noticeLeadTime
  spacing := config.selfImposed.spacing?

/-- What an entry tells the specification. -/
def observe (vars : Vars) (entry : AuditEntry) : Vars :=
  if entry.Enters .noticeSent then { vars with noticeSentTime := entry.timestamp }
  else if entry.Enters .retryExecuted then incrementRetry entry.timestamp vars
  else vars

/-- The state of the specification that a trail stands for. -/
def observed (trail : List AuditEntry) : Vars := trail.foldl observe init

@[simp] theorem observed_append (trail entries : List AuditEntry)
    : observed (trail ++ entries) = entries.foldl observe (observed trail) :=
  List.foldl_append

/-- An entry that neither sends a notice nor executes tells nothing. -/
theorem observe_quiet {vars : Vars} {entries : List AuditEntry}
    (quiet
      : ∀ entry ∈ entries, ¬ entry.Enters .noticeSent ∧ ¬ entry.Enters .retryExecuted)
    : entries.foldl observe vars = vars := by
  induction entries with
  | nil => rfl
  | cons entry rest ih =>
      obtain ⟨here, later⟩ := List.forall_mem_cons.mp quiet
      rw [List.foldl_cons, observe, if_neg here.1, if_neg here.2, ih later]

/-- The specification counts the executions that the trail shows, by induction over the trail. -/
theorem retriesUsed_observed (trail : List AuditEntry)
    : (observed trail).retriesUsed = Tracked.executions trail := by
  induction trail using List.reverseRecOn with
  | nil => rfl
  | append_singleton trail entry ih =>
      rw [observed_append, Tracked.executions_append, ← ih, List.foldl_cons, List.foldl_nil,
        observe]
      split
      · next noticed => simp [AuditEntry.Enters, noticed.1]
      · split
        · next executed => simp [incrementRetry, executed]
        · next unexecuted => simp [unexecuted]

namespace Tracked

/-- The slot a case waits for, when it does, is past what the specification asks for. -/
structure Reached (config : AppConfig) (tracked : Tracked) (slot : Datetime) : Prop where
  current : currentSlot tracked.trail = some slot
  noticed
    : (observed tracked.trail).noticeSentTime ≠ 0
      → (observed tracked.trail).noticeSentTime + config.npciRules.noticeLeadTime ≤ slot
  spaced
    : ∃ gap,
        config.selfImposed.spacing? tracked.case.retriesUsed = some gap
        ∧ ((observed tracked.trail).lastExecutedTime ≠ 0
          → (observed tracked.trail).lastExecutedTime + gap ≤ slot)

/-- What carries the refinement: the invariant of the specification, no notice while one is to be
sent, and a slot that is late enough while one is waited for.
-/
structure Refines (config : AppConfig) (now : Datetime) (tracked : Tracked) : Prop where
  budget : Budget config tracked
  invariant : Invariant (npcirules config) now (observed tracked.trail)
  unannounced
    : tracked.case.state ∈ [CaseState.noticePending, .retryExecuted]
      → CanSendNotice (observed tracked.trail)
  due : Waits tracked.case.state → ∃ slot, Reached config tracked slot

section Step

variable {config : AppConfig} {now now' : Datetime} {case case' : RecoveryCase}
  {trail entries : List AuditEntry}

/-- Entries that tell nothing are a stuttering step. -/
theorem Refines.stutter (refines : Refines config now ⟨case, trail⟩) (later : now ≤ now')
    (budget : Budget config ⟨case', trail ++ entries⟩)
    (quiet
      : ∀ entry ∈ entries, ¬ entry.Enters .noticeSent ∧ ¬ entry.Enters .retryExecuted)
    (unscheduled : ∀ entry ∈ entries, entry.scheduledAt = none)
    (unannounced
      : case'.state ∈ [CaseState.noticePending, .retryExecuted]
        → case.state ∈ [CaseState.noticePending, .retryExecuted])
    (waiting
      : Waits case'.state → Waits case.state ∧ case'.retriesUsed = case.retriesUsed)
    : (spec (npcirules config)).Steps now' (observed trail) (observed (trail ++ entries))
      ∧ Refines config now' ⟨case', trail ++ entries⟩ := by
  have same : observed (trail ++ entries) = observed trail :=
    (observed_append trail entries).trans (observe_quiet quiet)
  refine ⟨.inr same, {
    budget := budget
    invariant := refines.invariant.step later (.inr same)
    unannounced := fun state => same ▸ refines.unannounced (unannounced state)
    due := fun waits => ?_
  }⟩
  obtain ⟨waited, unused⟩ := waiting waits
  obtain ⟨slot, reached⟩ := refines.due waited
  refine ⟨slot, (currentSlot_append unscheduled).trans reached.current, ?_, ?_⟩
  · dsimp only
    rw [same]
    exact reached.noticed
  · dsimp only
    rw [same, unused]
    exact reached.spaced

/-- The execution of a slot that has been reached is a retry of the specification. -/
theorem Refines.execute (refines : Refines config now ⟨case, trail⟩) (later : now ≤ now')
    (waited : case.state = .retryScheduled) (moved : case'.state = .retryExecuted)
    {rule : String} {cited : rule ≠ ""}
    (budget
      : Budget config ⟨case',
          trail ++ [audit case.caseId .retryScheduled .retryExecuted rule now' cited]⟩)
    (onTime : ∀ slot, currentSlot trail = some slot → slot ≤ now')
    : let trail' := trail ++ [audit case.caseId .retryScheduled .retryExecuted rule now' cited]
      (spec (npcirules config)).Steps now' (observed trail) (observed trail')
      ∧ Refines config now' ⟨case', trail'⟩ := by
  intro trail'
  have told : observed trail' = incrementRetry now' (observed trail) := by
    simp [trail', observe, AuditEntry.Enters]
  have idle : ¬ Outstanding ⟨case, trail⟩ := by simp [Outstanding, waited]
  have used : (observed trail).retriesUsed = case.retriesUsed := by
    have count := refines.budget.count
    rw [if_neg idle] at count
    rw [retriesUsed_observed]
    exact count
  have spare := refines.budget.spare (.inl (by simp [chargeable, waited]))
  obtain ⟨slot, reached⟩ := refines.due (.inl waited)
  have passed := onTime slot reached.current
  obtain ⟨gap, listed, spaced⟩ := reached.spaced
  have allowed : CanExecuteRetry (npcirules config) now' (observed trail) := by
    refine ⟨by rw [used]; exact spare, ?_, fun noticed => ?_⟩
    · by_cases first : (observed trail).lastExecutedTime = 0
      · exact .inl first
      · refine .inr ⟨gap, by rw [used]; exact listed, ?_⟩
        have apart := spaced first
        simp only [Datetime, Timedelta] at *
        omega
    · have led := reached.noticed noticed
      simp only [npcirules, Datetime, Timedelta] at *
      omega
  have steps : (spec (npcirules config)).Steps now' (observed trail) (observed trail') :=
    .inl (.inr ⟨allowed, told⟩)
  exact ⟨steps, {
    budget := budget
    invariant := refines.invariant.step later steps
    unannounced := fun _ => by rw [CanSendNotice, told, incrementRetry]
    due := fun waits => by simp [Waits, moved] at waits
  }⟩

/-- A notice is one of the specification, and what it schedules is late enough for a retry. -/
theorem Refines.notice (refines : Refines config now ⟨case, trail⟩) (later : now ≤ now')
    (pending : case.state = .noticePending) {slot : Datetime}
    (budget
      : Budget config ⟨{ case with state := .retryScheduled },
          trail ++ noticeEntries case.caseId now' slot⟩)
    (led : now' + config.npciRules.noticeLeadTime ≤ slot)
    (spaced
      : ∃ gap,
          config.selfImposed.spacing? case.retriesUsed = some gap
          ∧ ((observed trail).lastExecutedTime ≠ 0
            → (observed trail).lastExecutedTime + gap ≤ slot))
    : let trail' := trail ++ noticeEntries case.caseId now' slot
      (spec (npcirules config)).Steps now' (observed trail) (observed trail')
      ∧ Refines config now' ⟨{ case with state := .retryScheduled }, trail'⟩ := by
  intro trail'
  have told : observed trail' = { observed trail with noticeSentTime := now' } := by
    simp [trail', noticeEntries, observe, AuditEntry.Enters]
  have free := refines.unannounced (by simp [pending])
  have steps : (spec (npcirules config)).Steps now' (observed trail) (observed trail') :=
    .inl (.inl ⟨free, told⟩)
  refine ⟨steps, {
    budget := budget
    invariant := refines.invariant.step later steps
    unannounced := by simp
    due := fun _ => ⟨slot, currentSlot_notice, ?_, ?_⟩
  }⟩
  · dsimp only
    rw [told]
    exact fun _ => led
  · dsimp only
    rw [told]
    exact spaced

/-- Every transition is a step of the specification or a stuttering one, where slots are computed
and executions are due.
-/
theorem Refines.step (refines : Refines config now ⟨case, trail⟩) (later : now ≤ now')
    (step : Transition config now' case case' entries)
    (slots
      : ∀ entry ∈ entries, ∀ slot,
          entry.scheduledAt = some slot
          → now' + config.npciRules.noticeLeadTime ≤ slot
            ∧ ∃ gap,
                config.selfImposed.spacing? case.retriesUsed = some gap
                ∧ ((observed trail).lastExecutedTime ≠ 0
                  → (observed trail).lastExecutedTime + gap ≤ slot))
    (due
      : (∃ entry ∈ entries, entry.Enters .retryExecuted)
        → ∀ slot, currentSlot trail = some slot → slot ≤ now')
    : (spec (npcirules config)).Steps now' (observed trail) (observed (trail ++ entries))
      ∧ Refines config now' ⟨case', trail ++ entries⟩ := by
  have budget := refines.budget.step step
  cases step with
  | unchanged => exact refines.stutter later budget (by simp) (by simp) id fun waits => ⟨waits, rfl⟩
  | answered answer =>
      cases answer with
      | noted rule cited =>
          exact refines.stutter later budget (by simp [AuditEntry.Enters]) (by simp [audit]) id
            fun waits => ⟨waits, rfl⟩
      | settled settles outcome rule cited =>
          rcases settles.target with rfl | rfl | rfl | rfl <;>
            exact refines.stutter later budget (by simp [AuditEntry.Enters]) (by simp [audit])
              (by simp) (by simp [Waits])
      | evaluated executed eligible rule cited =>
          rcases eligible with rfl | ⟨rfl, _⟩ <;>
            exact refines.stutter later budget (by simp [AuditEntry.Enters]) (by simp [audit])
              (by simp [executed]) (by simp [Waits])
  | triggered triggers rule cited =>
      generalize from_ : case.state = state at triggers budget due ⊢
      cases triggers with
      | executed =>
          exact refines.execute later from_ rfl budget
            (due ⟨_, List.mem_singleton_self _, by simp [AuditEntry.Enters]⟩)
      | throttled =>
          exact refines.stutter later budget (by simp [AuditEntry.Enters]) (by simp [audit])
            (by simp) (by simp [Waits, from_])
      | released =>
          exact refines.stutter later budget (by simp [AuditEntry.Enters]) (by simp [audit])
            (by simp) (by simp [Waits, from_])
  | noticeLost pending =>
      exact refines.stutter later budget (by simp) (by simp) (by simp) (by simp [Waits])
  | noticed pending slot =>
      obtain ⟨led, spaced⟩ := slots { audit case.caseId .noticeSent .retryScheduled "schedule_retry"
        now' with scheduledAt := some slot } (by simp [noticeEntries]) slot rfl
      exact refines.notice later pending budget led spaced

end Step

-----------------------------------------------------------------------------------------
-- Runs
-----------------------------------------------------------------------------------------

/-- A call that is made on time: the clock passes durations through and does not go back, codes can
be classified, an execution happens when its slot has come, and the time of the last execution,
if it is passed on, is not too early.
-/
structure Timely (config : AppConfig) (tracked : Tracked) (step : Operation × Clock) : Prop where
  codes : step.1.StringCodes
  identity : Identity step.2
  forward : step.2.now 0 ≤ step.2.now 1
  due
    : (∃ entry ∈ (call config tracked.case step.2 step.1).2, entry.Enters .retryExecuted)
      → ∀ slot, currentSlot tracked.trail = some slot → slot ≤ step.2.now 0
  previous
    : ∀ reasonCode previous bandit,
        step.1 = .markNoticeSent reasonCode (some previous) bandit
        → (observed tracked.trail).lastExecutedTime ≠ 0
        → (observed tracked.trail).lastExecutedTime ≤ previous

/-- A slot that a timely call computes is late enough, by the floor of the scheduler. -/
theorem Timely.slot {config : AppConfig} (loaded : config.Loaded) {now : Datetime}
    {tracked : Tracked} {step : Operation × Clock} (timely : Timely config tracked step)
    (invariant : Invariant (npcirules config) now (observed tracked.trail))
    (later : now ≤ step.2.now 0) {slot : Datetime}
    (scheduled : Scheduled config tracked.case step.2 step.1 slot)
    : step.2.now 0 + config.npciRules.noticeLeadTime ≤ slot
      ∧ ∃ gap,
          config.selfImposed.spacing? tracked.case.retriesUsed = some gap
          ∧ ((observed tracked.trail).lastExecutedTime ≠ 0
            → (observed tracked.trail).lastExecutedTime + gap ≤ slot) := by
  obtain ⟨code, anyCode, previous, bandit, reasoning, sent, computed⟩ := scheduled
  have identity : Identity { step.2 with now := fun i => step.2.now (i + 1) } := timely.identity
  obtain ⟨spacing, entry, moved⟩ := computeScheduledAt_moved loaded identity computed
  have floor := moved.floor loaded
  have led : step.2.now 1 + config.npciRules.noticeLeadTime ≤ slot :=
    le_trans (le_max_left _ _) floor
  have gap : previous.getD (step.2.now 1) + spacing ≤ slot := le_trans (le_max_right _ _) floor
  refine ⟨le_trans (Int.add_le_add_right timely.forward _) led, spacing, entry, fun executed => ?_⟩
  have before : (observed tracked.trail).lastExecutedTime ≤ previous.getD (step.2.now 1) := by
    cases previous with
    | some previous => exact timely.previous anyCode previous bandit sent executed
    | none =>
        have past := invariant.2 executed
        have forward := timely.forward
        simp only [Option.getD_none, Datetime] at *
        omega
  exact le_trans (Int.add_le_add_right before spacing) gap

/-- A case is opened in the initial state of the specification. -/
theorem Refines.opened {event : PaymentFailureEvent} {config : AppConfig} {clock : Clock}
    {start : Tracked} (capped : 1 ≤ config.npciRules.maxRetries)
    (opened : Tracked.opened event config clock = .ok start)
    : observed start.trail = init ∧ Refines config (clock.now 0) start := by
  have budget := Budget.opened capped opened
  unfold Tracked.opened handlePaymentFailed at opened
  dsimp only at opened
  cases created : handleNewFailure event config clock with
  | error raised => rw [created] at opened; cases opened
  | ok done =>
      rw [created] at opened
      cases opened
      have fresh := handleNewFailure_opened created
      have untold : observed done.2.2 = init :=
        observe_quiet fun entry member =>
          ⟨fun noticed => fresh.notNoticed entry member noticed.1,
            fun executed => fresh.notExecuted entry member executed.1⟩
      refine ⟨untold, {
        budget := budget
        invariant := ?_
        unannounced := fun _ => ?_
        due := fun waits => ?_
      }⟩
      · dsimp only
        rw [untold]
        exact ⟨le_trans (by simp [init]) capped, by simp [init]⟩
      · dsimp only
        rw [untold, CanSendNotice, init]
      · have state := fresh.state
        dsimp only at waits
        rcases waits with waits | waits <;> simp [openingState, waits] at state

end Tracked

-----------------------------------------------------------------------------------------
-- The refinement
-----------------------------------------------------------------------------------------

/-- A run of a case, as the specification reads it: after each call, the time of the call and the
state that the trail stands for.
-/
def npcirulesTrace (config : AppConfig) (start : Tracked) (steps : List (Operation × Clock))
    : List (Datetime × Vars) :=
  Specification.trace (Tracked.perform config) (·.2.now 0) (fun tracked => observed tracked.trail)
    start steps

/-- Whatever timely calls are made on a case from its opening on, the run is a behaviour of the
specification, and the specification's invariant holds all along it.
-/
theorem refines_npcirules {event : PaymentFailureEvent} {config : AppConfig} {clock : Clock}
    {start : Tracked} {steps : List (Operation × Clock)}
    (capped : 1 ≤ config.npciRules.maxRetries) (loaded : config.Loaded)
    (opened : Tracked.opened event config clock = .ok start)
    (forward : (clock.now 0 :: steps.map (·.2.now 0)).Pairwise (· ≤ ·))
    (timely : Run.Along (Tracked.perform config) start steps (Tracked.Timely config))
    : (spec (npcirules config)).Behaves init (npcirulesTrace config start steps)
      ∧ ∀ moment ∈ npcirulesTrace config start steps,
          Invariant (npcirules config) moment.1 moment.2 := by
  obtain ⟨initial, refines⟩ := Tracked.Refines.opened capped opened
  have behaves
      : (spec (npcirules config)).Behaves (observed start.trail)
          (npcirulesTrace config start steps) := by
    refine Specification.behaves_trace (fun tracked => observed tracked.trail) refines timely
      forward ?_
    intro now tracked step refines later timely
    have written := Tracked.call_written config tracked.case step.2 step.1
    refine refines.step later (Tracked.call_transition config tracked.case step.2 timely.codes)
      (fun entry member slot recorded => ?_) timely.due
    exact timely.slot loaded refines.invariant later ((written entry member).2 slot recorded)
  rw [initial] at behaves
  refine ⟨behaves, behaves.invariant (initial ▸ refines.invariant) ?_ ?_⟩
  · rw [npcirulesTrace, Specification.trace_instants]
    exact forward
  · exact fun now later before after forward invariant steps => invariant.step forward steps

/-- A retry, its failure, and the next retry three days after the first. -/
def spacedSteps : List (Operation × Clock) := [
  (.markNoticeSent none none none, stoppedClock (hours 4)),
  (.markRetryExecuted { firstDecision with scheduledAt := hours 28 }, stoppedClock (hours 28)),
  (.paymentFailed technicalDecline, stoppedClock (hours 30)),
  (.markNoticeSent none (some (hours 28)) none, stoppedClock (hours 31)),
  (.markRetryExecuted { firstDecision with scheduledAt := hours 100 }, stoppedClock (hours 100))]

/-- Only the second notice is given the time of an execution. -/
theorem spacedSteps_timely
    : Run.Along (Tracked.perform (shippedConfig .prod)) declined spacedSteps
        (Tracked.Timely (shippedConfig .prod)) := by
  have plain {tracked : Tracked} {operation : Operation} {t : Datetime}
      (codes : operation.StringCodes)
      (due
        : (∃ entry ∈ (Tracked.call (shippedConfig .prod) tracked.case (stoppedClock t) operation).2,
            entry.Enters .retryExecuted)
          → ∀ slot, Tracked.currentSlot tracked.trail = some slot → slot ≤ t)
      (previous
        : ∀ reasonCode previous bandit,
            operation = .markNoticeSent reasonCode (some previous) bandit
            → (observed tracked.trail).lastExecutedTime ≤ previous)
      : Tracked.Timely (shippedConfig .prod) tracked (operation, stoppedClock t) :=
    ⟨codes, stoppedClock_identity t, le_refl _, due, fun _ _ _ sent _ => previous _ _ _ sent⟩
  unfold spacedSteps
  refine Run.along_cons.mpr ⟨?_, Run.along_cons.mpr ⟨?_, Run.along_cons.mpr ⟨?_,
    Run.along_cons.mpr ⟨?_, Run.along_cons.mpr ⟨?_, Run.along_nil⟩⟩⟩⟩⟩
  · exact plain trivial (fun executes => absurd executes (by decide +kernel))
      (fun _ _ _ sent => by cases sent)
  · refine plain trivial (fun _ => ?_) (fun _ _ _ sent => by cases sent)
    change ∀ slot ∈ Tracked.currentSlot _, slot ≤ _
    decide +kernel
  · exact plain ⟨Json.isCode_str _, Json.isCode_null⟩
      (fun executes => absurd executes (by decide +kernel))
      (fun _ _ _ sent => by cases sent)
  · refine plain trivial (fun executes => absurd executes (by decide +kernel)) ?_
    intro reasonCode previous bandit sent
    cases sent
    decide +kernel
  · refine plain trivial (fun _ => ?_) (fun _ _ _ sent => by cases sent)
    change ∀ slot ∈ Tracked.currentSlot _, slot ≤ _
    decide +kernel

/-- The second retry is read as one of the specification, which counts it and forgets the notice. -/
theorem refines_npcirules_spaced
    : (spec (npcirules (shippedConfig .prod))).Behaves init
        (npcirulesTrace (shippedConfig .prod) declined spacedSteps)
      ∧ ∀ moment ∈ npcirulesTrace (shippedConfig .prod) declined spacedSteps,
          Invariant (npcirules (shippedConfig .prod)) moment.1 moment.2 :=
  refines_npcirules (by decide) (shippedConfig_loaded .prod) declined_opened (by decide)
    spacedSteps_timely

end StateMachine

end RecoveryAgent
