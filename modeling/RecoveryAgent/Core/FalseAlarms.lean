import RecoveryAgent.Core.RetryCap
import RecoveryAgent.Core.Verifier
import RecoveryAgent.Lib.Run

/-! The verifier on the state machine's own runs.
The state machine keeps the rules by construction: the floor of a slot, the push out of the
windows, the routing by amount. The verifier re-reads them from the trail, where entries that
execute nothing carry the same target states. It raises no false alarm where those entries
are out of its way.
-/

namespace RecoveryAgent.StateMachine

open Verifier

-----------------------------------------------------------------------------------------
-- What a call writes
-----------------------------------------------------------------------------------------

@[simp] theorem assignsBucket_audit {caseId ruleFired : String} {fromState toState : CaseState}
    {timestamp : Datetime} {cited : ruleFired ≠ ""}
    : assignsBucket (audit caseId fromState toState ruleFired timestamp cited)
      = decide ("assign_bucket".toList <:+: ruleFired.toList) := rfl

/-- An entry that assigns no bucket and records no slot. -/
def Ordinary (entry : AuditEntry) : Prop :=
  assignsBucket entry = false ∧ entry.scheduledAt = none

section Calls

variable {case : RecoveryCase} {config : AppConfig} {clock : Clock}

theorem handlePaymentSuccess_ordinary (event : PaymentSuccessEvent)
    : ∀ entry ∈ (handlePaymentSuccess case event clock).2, Ordinary entry := by
  unfold handlePaymentSuccess
  dsimp only
  repeat' split
  all_goals
    intro entry member
    rw [List.mem_singleton.mp member]
    exact ⟨by rw [assignsBucket_audit]; decide +kernel, rfl⟩

theorem handleExistingFailure_ordinary {event event' : PaymentFailureEvent}
    {entries : List AuditEntry}
    (handled : (handleExistingFailure case event config clock).result = .ok (event', entries))
    : ∀ entry ∈ entries, Ordinary entry := by
  unfold handleExistingFailure at handled
  dsimp only at handled
  repeat' split at handled
  all_goals cases handled
  all_goals
    simp only [List.forall_mem_cons, List.not_mem_nil, false_implies, implies_true, and_true,
      Ordinary, assignsBucket_audit]
  · exact ⟨by decide +kernel, rfl⟩
  · exact ⟨by decide +kernel, rfl⟩
  · exact ⟨⟨by decide +kernel, rfl⟩, by decide +kernel, rfl⟩
  · exact ⟨⟨by decide +kernel, rfl⟩, by decide +kernel, rfl⟩

theorem trigger_ordinary {fromState toState : CaseState} {refusal rule : String}
    {cited : rule ≠ ""} {case' : RecoveryCase} {entries : List AuditEntry}
    (unassigning : ¬ "assign_bucket".toList <:+: rule.toList)
    (fired : trigger fromState toState refusal rule cited case clock = .ok (case', entries))
    : ∀ entry ∈ entries, Ordinary entry := by
  unfold trigger at fired
  split at fired <;> cases fired
  intro entry member
  rw [List.mem_singleton.mp member]
  exact ⟨by rw [assignsBucket_audit]; exact decide_eq_false unassigning, rfl⟩

theorem executed_ordinary (decision : RetryDecision) (now : Datetime)
    : ∀ entry ∈ (executed case decision now).2.2, Ordinary entry := by
  intro entry member
  rw [List.mem_singleton.mp member]
  exact ⟨by rw [assignsBucket_audit]; decide +kernel, rfl⟩

end Calls

namespace Tracked

/-- The slot that a call of `mark_notice_sent` computed from its second clock reading on, for
whichever reason code.
-/
def Scheduled (config : AppConfig) (case : RecoveryCase) (clock : Clock) (operation : Operation)
    (slot : Datetime)
    : Prop :=
  ∃ reasonCode anyCode previous bandit reasoning,
    operation = .markNoticeSent anyCode previous bandit
    ∧ computeScheduledAt case.retriesUsed reasonCode config
        { clock with now := fun i => clock.now (i + 1) } previous bandit
      = .ok (slot, reasoning)

/-- An entry of a call: it assigns no bucket, and a slot it records has been computed. -/
def Written (config : AppConfig) (case : RecoveryCase) (clock : Clock) (operation : Operation)
    (entry : AuditEntry)
    : Prop :=
  assignsBucket entry = false
  ∧ ∀ slot, entry.scheduledAt = some slot → Scheduled config case clock operation slot

theorem written_of_ordinary {config : AppConfig} {case : RecoveryCase} {clock : Clock}
    {operation : Operation} {entries : List AuditEntry}
    (ordinary : ∀ entry ∈ entries, Ordinary entry)
    : ∀ entry ∈ entries, Written config case clock operation entry := by
  intro entry member
  obtain ⟨unassigning, unscheduled⟩ := ordinary entry member
  refine ⟨unassigning, fun slot recorded => ?_⟩
  rw [unscheduled] at recorded
  cases recorded

/-- What is kept of a call has the property that its returned entries have. -/
theorem forall_kept {property : AuditEntry → Prop} {case : RecoveryCase}
    {result : Except PyError (RecoveryCase × List AuditEntry)}
    (returned : ∀ done, result = .ok done → ∀ entry ∈ done.2, property entry)
    : ∀ entry ∈ (kept case result).2, property entry := by
  cases result with
  | error raised => simp [kept]
  | ok done => exact returned done rfl

/-- Every call writes such entries, one case per operation. -/
theorem call_written (config : AppConfig) (case : RecoveryCase) (clock : Clock)
    (operation : Operation)
    : ∀ entry ∈ (call config case clock operation).2,
        Written config case clock operation entry := by
  cases operation with
  | paymentFailed event =>
      apply forall_kept
      intro done returned
      cases handled : handlePaymentFailed (some case) event config clock with
      | error raised => rw [handled] at returned; cases returned
      | ok answer =>
          rw [handled] at returned
          cases returned
          have answered := (handlePaymentFailed_existing case config clock handled).1
          exact written_of_ordinary (handleExistingFailure_ordinary answered)
  | paymentSucceeded event => exact written_of_ordinary (handlePaymentSuccess_ordinary event)
  | markNoticeSent reasonCode previous bandit =>
      apply forall_kept
      intro done returned
      cases result
        : (StateMachine.markNoticeSent case config clock reasonCode previous bandit).result with
      | error raised => rw [result] at returned; cases returned
      | ok answer =>
          obtain ⟨entries, decision⟩ := answer
          rw [result] at returned
          cases returned
          have sent := markNoticeSent_ok case config clock result
          obtain ⟨code, computed⟩ := sent.computed
          dsimp only
          rw [sent.entries_eq]
          simp only [noticeEntries, List.forall_mem_cons, List.not_mem_nil, false_implies,
            implies_true, and_true]
          refine ⟨⟨by rw [assignsBucket_audit]; decide +kernel, fun _ recorded => by cases recorded⟩,
            ?_, ?_⟩
          · change decide ("assign_bucket".toList <:+: "schedule_retry".toList) = false
            decide +kernel
          · intro slot recorded
            cases recorded
            exact ⟨code, reasonCode, previous, bandit, _, rfl, computed⟩
  | markRetryExecuted decision =>
      apply forall_kept
      intro done returned
      unfold StateMachine.markRetryExecuted at returned
      split at returned <;> cases returned
      exact written_of_ordinary (executed_ordinary decision _)
  | attemptExecution decision commit =>
      apply forall_kept
      intro done returned
      unfold StateMachine.attemptExecution at returned
      split at returned
      · cases returned
      cases committed : commit decision with
      | error raised => rw [committed] at returned; cases returned
      | ok approved =>
          rw [committed] at returned
          cases approved with
          | false =>
              cases returned
              simp
          | true =>
              cases returned
              exact written_of_ordinary (executed_ordinary decision _)
  | applyThrottle =>
      apply forall_kept
      intro done returned
      exact written_of_ordinary (trigger_ordinary (by decide +kernel) returned)
  | releaseThrottle =>
      apply forall_kept
      intro done returned
      exact written_of_ordinary (trigger_ordinary (by decide +kernel) returned)

-----------------------------------------------------------------------------------------
-- How a case is routed
-----------------------------------------------------------------------------------------

/-- The states a control case moves through. -/
def controlStates : List CaseState := [.controlHeld, .controlRecovered, .controlStillFailed]

/-- What the opening decides for the whole history of a case. -/
structure Routed (config : AppConfig) (tracked : Tracked) : Prop where
  written : tracked.trail ≠ []
  segment
    : ∃ segment, ∀ entry ∈ tracked.trail,
        assignsBucket entry → lastSegment entry.ruleFired = segment
  control : tracked.case.bucket = some .control → tracked.case.state ∈ controlStates
  afa
    : tracked.case.bucket = some .treatment
      → defaultCeiling config.npciRules < tracked.case.originalAmount
      → ¬ chargeable tracked.case.state
        ∧ ∀ entry ∈ tracked.trail, isRetryState entry.toState = false

/-- A case that cannot be charged stays so, and no entry about it names a retry. -/
theorem uncharged_step {config : AppConfig} {now : Datetime} {case case' : RecoveryCase}
    {entries : List AuditEntry} (step : Transition config now case case' entries)
    (unchargeable : ¬ chargeable case.state)
    : ¬ chargeable case'.state ∧ ∀ entry ∈ entries, isRetryState entry.toState = false := by
  have idle {state : CaseState} (unchargeable : ¬ chargeable state)
      : isRetryState state = false := by
    cases state <;> simp_all [chargeable, isRetryState]
  cases step with
  | unchanged => exact ⟨unchargeable, by simp⟩
  | answered answer =>
      cases answer with
      | noted rule cited => exact ⟨unchargeable, by simpa using idle unchargeable⟩
      | settled settles outcome rule cited =>
          rcases settles.target with rfl | rfl | rfl | rfl <;>
            exact ⟨by simp [chargeable], by simp [isRetryState]⟩
      | evaluated executed eligible rule cited =>
          rw [executed] at unchargeable
          exact absurd (by decide) unchargeable
  | triggered triggers rule cited =>
      generalize case.state = state at unchargeable triggers
      cases triggers <;> exact absurd (by decide) unchargeable
  | noticeLost pending =>
      rw [pending] at unchargeable
      exact absurd (by decide) unchargeable
  | noticed pending scheduledAt =>
      rw [pending] at unchargeable
      exact absurd (by decide) unchargeable

/-- Every transition keeps the routing, where its entries assign no bucket. -/
theorem Routed.step {config : AppConfig} {now : Datetime} {case case' : RecoveryCase}
    {trail entries : List AuditEntry} (routed : Routed config ⟨case, trail⟩)
    (step : Transition config now case case' entries)
    (unassigning : ∀ entry ∈ entries, assignsBucket entry = false)
    : Routed config ⟨case', trail ++ entries⟩ := by
  have same := step.sameCase
  obtain ⟨written, ⟨segment, named⟩, control, afa⟩ := routed
  dsimp only at written named control afa
  exact {
    written := by simp [written]
    segment := by
      refine ⟨segment, fun entry member assigns => ?_⟩
      rcases List.mem_append.mp member with old | new
      · exact named entry old assigns
      · rw [unassigning entry new] at assigns
        cases assigns
    control := fun held => step.control (control (same.bucket ▸ held))
    afa := by
      intro treated above
      obtain ⟨unchargeable, untried⟩ := afa (same.bucket ▸ treated) (same.originalAmount ▸ above)
      obtain ⟨still, entries_untried⟩ := uncharged_step step unchargeable
      exact ⟨still, List.forall_mem_append.mpr ⟨untried, entries_untried⟩⟩
  }

/-- Without a category the default ceiling decides, and it has to be there. -/
theorem afaCeiling_uncategorized {config : AppConfig} {notes : Notes}
    (uncategorized : notes.lookup "category" = none) {ceiling : Int}
    : StateMachine.afaCeiling config notes = .ok ceiling
      ↔ config.npciRules.afaFreeCeiling.lookup "default" = some ceiling := by
  unfold StateMachine.afaCeiling
  dsimp only
  cases listed : config.npciRules.afaFreeCeiling.lookup "default" with
  | none => simp
  | some fallback => simp [uncategorized, listed, pure, Except.pure]

/-- Without a category the default ceiling applies. -/
theorem afaCeiling_default {config : AppConfig} {notes : Notes} {ceiling : Int}
    (uncategorized : notes.lookup "category" = none)
    (found : StateMachine.afaCeiling config notes = .ok ceiling)
    : ceiling = defaultCeiling config.npciRules := by
  have listed := (afaCeiling_uncategorized uncategorized).mp found
  simp [defaultCeiling, listed]

/-- The three entries of a treatment case name one bucket, whatever the last rule. -/
theorem treatment_segment {caseId rule : String} {toState : CaseState} {now : Datetime}
    {cited : rule ≠ ""} (unassigning : ¬ "assign_bucket".toList <:+: rule.toList)
    : ∃ segment, ∀ entry ∈ [
        audit caseId .received .classified "create_case" now,
        audit caseId .classified .treatment "assign_bucket_treatment" now,
        audit caseId .treatment toState rule now cited],
      assignsBucket entry → lastSegment entry.ruleFired = segment := by
  refine ⟨"treatment", ?_⟩
  simp only [List.forall_mem_cons, List.not_mem_nil, false_implies, implies_true, and_true,
    assignsBucket_audit, audit_ruleFired]
  exact ⟨by decide +kernel, fun _ => by decide +kernel,
    fun assigns => absurd (of_decide_eq_true assigns) unassigning⟩

/-- What the first failure of a case writes, and where it leaves the case. -/
theorem handleNewFailure_routed {event event' : PaymentFailureEvent} {config : AppConfig}
    {clock : Clock} {case : RecoveryCase} {entries : List AuditEntry}
    (uncategorized : (event.notes.getD []).lookup "category" = none)
    (opened : handleNewFailure event config clock = .ok (case, event', entries))
    : Routed config ⟨case, entries⟩ ∧ ∀ entry ∈ entries, entry.scheduledAt = none := by
  have held := (handleNewFailure_opened opened).held
  have control : case.bucket = some .control → case.state ∈ controlStates :=
    fun controlled => by rw [held controlled]; decide
  simp only [handleNewFailure, bind, Except.bind, pure, Except.pure] at opened
  split at opened
  · cases opened
  next fresh created =>
  obtain ⟨_, _, _, _, _, unassigned⟩ := RecoveryCase.create_eq created
  simp only [assignBucket_eq unassigned] at opened
  split at opened
  · cases opened
  split at opened
  · split at opened
    · cases opened
    cases opened
    refine ⟨⟨by simp, ⟨"control", ?_⟩, control, by simp⟩, by simp [audit]⟩
    simp only [List.forall_mem_cons, List.not_mem_nil, false_implies, implies_true, and_true,
      assignsBucket_audit, audit_ruleFired]
    exact ⟨by decide +kernel, fun _ => by decide +kernel⟩
  split at opened
  · cases opened
    refine ⟨⟨by simp, treatment_segment (by decide +kernel), control, ?_⟩, by simp [audit]⟩
    exact fun _ _ => ⟨by simp [chargeable], by simp [isRetryState]⟩
  split at opened
  · cases opened
  next ceiling ceiled =>
  have default := afaCeiling_default uncategorized ceiled
  split at opened
  · cases opened
    refine ⟨⟨by simp, treatment_segment (by decide +kernel), control, ?_⟩, by simp [audit]⟩
    exact fun _ _ => ⟨by simp [chargeable], by simp [isRetryState]⟩
  · next below =>
    cases opened
    refine ⟨⟨by simp, treatment_segment (by decide +kernel), control, ?_⟩, by simp [audit]⟩
    intro _ above
    rw [default] at below
    exact absurd above below

/-- A case opened without a category is routed by the ceiling the verifier uses. -/
theorem Routed.opened {event : PaymentFailureEvent} {config : AppConfig} {clock : Clock}
    {start : Tracked} (uncategorized : (event.notes.getD []).lookup "category" = none)
    (opened : Tracked.opened event config clock = .ok start)
    : Routed config start ∧ ∀ entry ∈ start.trail, entry.scheduledAt = none := by
  unfold Tracked.opened handlePaymentFailed at opened
  dsimp only at opened
  cases created : handleNewFailure event config clock with
  | error raised => rw [created] at opened; cases opened
  | ok done =>
      rw [created] at opened
      cases opened
      exact handleNewFailure_routed uncategorized created

-----------------------------------------------------------------------------------------
-- The pace of a case
-----------------------------------------------------------------------------------------

/-- A state in which a slot waits for its execution. -/
def Waits (state : CaseState) : Prop := state = .retryScheduled ∨ state = .throttled

/-- The `scheduled_at` of the current decision: the slot recorded last. -/
def currentSlot (trail : List AuditEntry) : Option Datetime :=
  (trail.filterMap (·.scheduledAt)).getLast?

theorem currentSlot_append {trail entries : List AuditEntry}
    (unscheduled : ∀ entry ∈ entries, entry.scheduledAt = none)
    : currentSlot (trail ++ entries) = currentSlot trail := by
  have none_new : entries.filterMap (·.scheduledAt) = [] :=
    List.filterMap_eq_nil_iff.mpr unscheduled
  simp [currentSlot, none_new]

theorem currentSlot_notice {trail : List AuditEntry} {caseId : String} {now slot : Datetime}
    : currentSlot (trail ++ noticeEntries caseId now slot) = some slot := by
  have new : (noticeEntries caseId now slot).filterMap (·.scheduledAt) = [slot] := rfl
  simp [currentSlot, new]

/-- What a call means for the pace of a case. -/
inductive Move (now : Datetime) (case case' : RecoveryCase) (entries : List AuditEntry) : Prop
    where
  | passed
      (unexecuted : ∀ entry ∈ entries, entry.toState ≠ .retryExecuted)
      (unscheduled : ∀ entry ∈ entries, entry.scheduledAt = none)
      (waiting
        : Waits case'.state
          → Waits case.state
            ∧ case'.retriesUsed = case.retriesUsed
            ∧ ∀ entry ∈ entries, entry.toState ≠ .noticeSent)
  | noticed (slot : Datetime) (same : case'.retriesUsed = case.retriesUsed)
      (written : entries = noticeEntries case.caseId now slot)
  | executed (waited : case.state = .retryScheduled) (moved : case'.state = .retryExecuted)
      (written
        : ∃ rule cited,
            entries = [audit case.caseId .retryScheduled .retryExecuted rule now cited])

/-- Every transition is such a move, where no entry stays in RETRY_EXECUTED. -/
theorem move_of_transition {config : AppConfig} {now : Datetime} {case case' : RecoveryCase}
    {entries : List AuditEntry} (step : Transition config now case case' entries)
    (once : ∀ entry ∈ entries, entry.toState = .retryExecuted → entry.fromState ≠ .retryExecuted)
    : Move now case case' entries := by
  cases step with
  | unchanged => exact .passed (by simp) (by simp) fun waits => ⟨waits, rfl, by simp⟩
  | answered answer =>
      cases answer with
      | noted rule cited =>
          apply Move.passed
          · intro entry member executed
            have moved := once entry member executed
            rw [List.mem_singleton.mp member] at executed moved
            exact moved executed
          · simp [audit]
          · rintro (waits | waits) <;> simp [Waits, waits]
      | settled settles outcome rule cited =>
          rcases settles.target with rfl | rfl | rfl | rfl <;>
            exact .passed (by simp) (by simp [audit]) (by simp [Waits])
      | evaluated executed eligible rule cited =>
          rcases eligible with rfl | ⟨rfl, _⟩ <;>
            exact .passed (by simp) (by simp [audit]) (by simp [Waits])
  | triggered triggers rule cited =>
      generalize from_ : case.state = state at triggers
      cases triggers with
      | executed => exact .executed from_ rfl ⟨rule, cited, rfl⟩
      | throttled => exact .passed (by simp) (by simp [audit]) (by simp [Waits, from_])
      | released => exact .passed (by simp) (by simp [audit]) (by simp [Waits, from_])
  | noticeLost pending => exact .passed (by simp) (by simp) (by simp [Waits])
  | noticed pending scheduledAt => exact .noticed scheduledAt rfl rfl

/-- The slot a case waits for is the current one, and late enough for what came before. -/
structure Due (config : AppConfig) (tracked : Tracked) (slot : Datetime) : Prop where
  current : currentSlot tracked.trail = some slot
  noticed
    : ∀ entry ∈ tracked.trail, entry.toState = .noticeSent
        → entry.timestamp + config.npciRules.noticeLeadTime ≤ slot
  spaced
    : ∀ t ∈ executedTimes tracked.trail, ∀ required,
        config.selfImposed.spacing? tracked.case.retriesUsed = some required
        → t + required ≤ slot
  listed : config.selfImposed.retrySpacing ≠ []

/-- A history that has kept the rules of time, at an instant not before its last entry. -/
structure Regular (config : AppConfig) (now : Datetime) (tracked : Tracked) : Prop where
  budget : Budget config tracked
  stamped : ∀ entry ∈ tracked.trail, entry.timestamp ≤ now
  once
    : ∀ entry ∈ tracked.trail,
        entry.toState = .retryExecuted → entry.fromState ≠ .retryExecuted
  leads
    : tracked.trail.Pairwise fun earlier later =>
        earlier.toState = .noticeSent → later.toState = .retryExecuted
        → earlier.timestamp + config.npciRules.noticeLeadTime ≤ later.timestamp
  spaced : Spaced config.selfImposed 1 (executedTimes tracked.trail)
  outside
    : ∀ entry ∈ tracked.trail,
        (entry.toState = .retryExecuted → ¬ config.npciRules.inPeak entry.timestamp)
        ∧ ∀ slot, entry.scheduledAt = some slot → ¬ config.npciRules.inPeak slot
  listed : executedTimes tracked.trail ≠ [] → config.selfImposed.retrySpacing ≠ []
  due : Waits tracked.case.state → ∃ slot, Due config tracked slot

theorem executedTimes_of_unexecuted {entries : List AuditEntry}
    (unexecuted : ∀ entry ∈ entries, entry.toState ≠ .retryExecuted)
    : executedTimes entries = [] := by
  simpa [executedTimes] using unexecuted

/-- The verifier's times are the executions, where no entry stays in RETRY_EXECUTED. -/
theorem length_executedTimes {trail : List AuditEntry}
    (once : ∀ entry ∈ trail, entry.toState = .retryExecuted → entry.fromState ≠ .retryExecuted)
    : (executedTimes trail).length = executions trail := by
  rw [executedTimes, List.length_map, ← List.countP_eq_length_filter, executions]
  refine List.countP_congr fun entry member => ?_
  exact ⟨fun executed => decide_eq_true ⟨of_decide_eq_true executed,
    once entry member (of_decide_eq_true executed)⟩,
    fun enters => decide_eq_true (of_decide_eq_true enters).1⟩

section Steps

variable {config : AppConfig} {now now' : Datetime} {case case' : RecoveryCase}
  {trail entries : List AuditEntry}

/-- Entries that execute nothing keep the pace, as long as a slot is waited for. -/
theorem Regular.extend (regular : Regular config now ⟨case, trail⟩) (later : now ≤ now')
    (budget : Budget config ⟨case', trail ++ entries⟩)
    (stamped : ∀ entry ∈ entries, entry.timestamp = now')
    (unexecuted : ∀ entry ∈ entries, entry.toState ≠ .retryExecuted)
    (outside
      : ∀ entry ∈ entries, ∀ slot,
          entry.scheduledAt = some slot → ¬ config.npciRules.inPeak slot)
    (due : Waits case'.state → ∃ slot, Due config ⟨case', trail ++ entries⟩ slot)
    : Regular config now' ⟨case', trail ++ entries⟩ := by
  have times : executedTimes (trail ++ entries) = executedTimes trail := by
    rw [executedTimes_append, executedTimes_of_unexecuted unexecuted, List.append_nil]
  exact {
    budget := budget
    stamped := List.forall_mem_append.mpr
      ⟨fun entry member => le_trans (regular.stamped entry member) later,
        fun entry member => le_of_eq (stamped entry member)⟩
    once := List.forall_mem_append.mpr
      ⟨regular.once, fun entry member executed => absurd executed (unexecuted entry member)⟩
    leads := by
      refine List.pairwise_append.mpr ⟨regular.leads, ?_, ?_⟩
      · refine List.pairwise_of_forall_mem_list fun _ _ entry member _ executed => ?_
        exact absurd executed (unexecuted entry member)
      · intro _ _ entry member _ executed
        exact absurd executed (unexecuted entry member)
    spaced := by
      dsimp only
      rw [times]
      exact regular.spaced
    outside := List.forall_mem_append.mpr
      ⟨regular.outside, fun entry member =>
        ⟨fun executed => absurd executed (unexecuted entry member), outside entry member⟩⟩
    listed := by
      dsimp only
      rw [times]
      exact regular.listed
    due := due
  }

/-- A call that neither schedules nor executes leaves the slot waited for as it is. -/
theorem Due.keep {slot : Datetime} (due : Due config ⟨case, trail⟩ slot)
    (same : case'.retriesUsed = case.retriesUsed)
    (unexecuted : ∀ entry ∈ entries, entry.toState ≠ .retryExecuted)
    (unscheduled : ∀ entry ∈ entries, entry.scheduledAt = none)
    (unnoticed : ∀ entry ∈ entries, entry.toState ≠ .noticeSent)
    : Due config ⟨case', trail ++ entries⟩ slot where
  current := (currentSlot_append unscheduled).trans due.current
  noticed := List.forall_mem_append.mpr
    ⟨due.noticed, fun entry member noticed => absurd noticed (unnoticed entry member)⟩
  spaced := by
    dsimp only
    rw [executedTimes_append, executedTimes_of_unexecuted unexecuted, List.append_nil, same]
    exact due.spaced
  listed := due.listed

/-- The execution of a due slot keeps the pace. Witness: the slot is late enough for every
notice and every execution before, and their number is the position of its spacing entry.
-/
theorem Regular.execute (regular : Regular config now ⟨case, trail⟩) (later : now ≤ now')
    (waited : case.state = .retryScheduled) {rule : String} {cited : rule ≠ ""}
    (budget
      : Budget config ⟨case',
          trail ++ [audit case.caseId .retryScheduled .retryExecuted rule now' cited]⟩)
    (moved : case'.state = .retryExecuted)
    (onTime : ∀ slot, currentSlot trail = some slot → slot ≤ now')
    (outside : ¬ config.npciRules.inPeak now')
    : Regular config now' ⟨case',
        trail ++ [audit case.caseId .retryScheduled .retryExecuted rule now' cited]⟩ := by
  obtain ⟨slot, due⟩ := regular.due (.inl waited)
  have reached := onTime slot due.current
  have position : (executedTimes trail).length = case.retriesUsed := by
    have counted := regular.budget.count
    have idle : ¬ Outstanding ⟨case, trail⟩ := by simp [Outstanding, waited]
    rw [if_neg idle] at counted
    rw [length_executedTimes regular.once]
    exact counted
  exact {
    budget := budget
    stamped := List.forall_mem_append.mpr
      ⟨fun entry member => le_trans (regular.stamped entry member) later, by simp⟩
    once := List.forall_mem_append.mpr ⟨regular.once, by simp⟩
    leads := by
      refine List.pairwise_append.mpr ⟨regular.leads, by simp, ?_⟩
      intro notice member execution new noticed _
      rw [List.mem_singleton.mp new]
      exact le_trans (due.noticed notice member noticed) reached
    spaced := by
      dsimp only
      rw [executedTimes_append]
      apply regular.spaced.snoc
      intro t member required listed
      rw [position, Nat.add_sub_cancel_left] at listed
      exact le_trans (due.spaced t member required listed) reached
    outside := List.forall_mem_append.mpr ⟨regular.outside, by simpa [audit] using outside⟩
    listed := fun _ => due.listed
    due := fun waits => by simp [Waits, moved] at waits
  }

/-- A slot computed now: outside the windows, past the lead time, and spaced from every
execution so far.
-/
structure Slot (config : AppConfig) (now : Datetime) (tracked : Tracked) (slot : Datetime) : Prop
    where
  outside : ¬ config.npciRules.inPeak slot
  led : now + config.npciRules.noticeLeadTime ≤ slot
  spaced
    : ∀ t ∈ executedTimes tracked.trail, ∀ required,
        config.selfImposed.spacing? tracked.case.retriesUsed = some required
        → t + required ≤ slot
  listed : config.selfImposed.retrySpacing ≠ []

/-- Every call keeps the pace whose slots are computed and whose execution is due. -/
theorem Regular.step (regular : Regular config now ⟨case, trail⟩) (later : now ≤ now')
    (step : Transition config now' case case' entries)
    (once : ∀ entry ∈ entries, entry.toState = .retryExecuted → entry.fromState ≠ .retryExecuted)
    (slots
      : ∀ entry ∈ entries, ∀ slot,
          entry.scheduledAt = some slot → Slot config now' ⟨case, trail⟩ slot)
    (executes
      : (∃ entry ∈ entries, entry.Enters .retryExecuted)
        → (∀ slot, currentSlot trail = some slot → slot ≤ now')
          ∧ ¬ config.npciRules.inPeak now')
    : Regular config now' ⟨case', trail ++ entries⟩ := by
  have budget := regular.budget.step step
  have stamped := step.stamped
  have outside : ∀ entry ∈ entries, ∀ slot,
      entry.scheduledAt = some slot → ¬ config.npciRules.inPeak slot :=
    fun entry member slot recorded => (slots entry member slot recorded).outside
  cases move_of_transition step once with
  | passed unexecuted unscheduled waiting =>
      apply regular.extend later budget stamped unexecuted outside
      intro waits
      obtain ⟨waited, same, unnoticed⟩ := waiting waits
      obtain ⟨slot, due⟩ := regular.due waited
      exact ⟨slot, due.keep same unexecuted unscheduled unnoticed⟩
  | noticed slot same written =>
      subst written
      have unexecuted : ∀ entry ∈ noticeEntries case.caseId now' slot,
          entry.toState ≠ .retryExecuted := by
        simp [noticeEntries]
      have computed := slots { audit case.caseId .noticeSent .retryScheduled "schedule_retry" now'
        with scheduledAt := some slot } (by simp [noticeEntries]) slot rfl
      apply regular.extend later budget stamped unexecuted outside
      intro _
      refine ⟨slot, {
        current := currentSlot_notice
        noticed := ?_
        spaced := ?_
        listed := computed.listed
      }⟩
      · intro entry member _
        have early : entry.timestamp ≤ now' := by
          rcases List.mem_append.mp member with old | new
          · exact le_trans (regular.stamped entry old) later
          · exact le_of_eq (stamped entry new)
        have led := computed.led
        simp only [Datetime, Timedelta] at *
        omega
      · dsimp only
        rw [executedTimes_append, executedTimes_of_unexecuted unexecuted, List.append_nil, same]
        exact computed.spaced
  | executed waited moved written =>
      obtain ⟨rule, cited, rfl⟩ := written
      obtain ⟨onTime, quiet⟩ := executes
        ⟨_, List.mem_singleton_self _, by simp [AuditEntry.Enters]⟩
      exact regular.execute later waited budget moved onTime quiet

end Steps

-----------------------------------------------------------------------------------------
-- Runs
-----------------------------------------------------------------------------------------

/-- A call as an orderly run makes it: the clock passes durations through and does not go
back, a notice is sent outside the do-not-disturb hours, and an execution happens when its
slot has come and outside the peak windows.
-/
structure Orderly (config : AppConfig) (tracked : Tracked) (step : Operation × Clock) : Prop
    where
  identity : Identity step.2
  forward : step.2.now 0 ≤ step.2.now 1
  noticed
    : ∀ reasonCode previous bandit,
        step.1 = .markNoticeSent reasonCode previous bandit
        → tracked.case.state = .noticePending
        → isDndHour (step.2.now 0) = false
  executed
    : (∃ entry ∈ (call config tracked.case step.2 step.1).2, entry.Enters .retryExecuted)
      → (∀ slot, currentSlot tracked.trail = some slot → slot ≤ step.2.now 0)
        ∧ ¬ config.npciRules.inPeak (step.2.now 0)

/-- A call that leaves no entry the verifier takes for an execution, and passes on the time
of the last one truthfully.
-/
structure Undisturbed (tracked : Tracked) (step : Operation × Clock) : Prop where
  codes : step.1.StringCodes
  matched
    : ∀ event,
        step.1 = .paymentSucceeded event
        → tracked.case.state = .retryExecuted
        → event.amount = tracked.case.originalAmount
  previous
    : ∀ reasonCode previous bandit,
        step.1 = .markNoticeSent reasonCode (some previous) bandit
        → ∀ t ∈ executedTimes tracked.trail, t ≤ previous

/-- Only an answer to a payment leaves an entry from RETRY_EXECUTED to itself. -/
theorem call_once (config : AppConfig) (case : RecoveryCase) (clock : Clock)
    {operation : Operation}
    (unflagged
      : ∀ event,
          operation = .paymentSucceeded event
          → ∀ entry ∈ (handlePaymentSuccess case event clock).2, entry.toState ≠ .retryExecuted)
    : ∀ entry ∈ (call config case clock operation).2,
        entry.toState = .retryExecuted → entry.fromState ≠ .retryExecuted := by
  cases operation with
  | paymentFailed event =>
      apply forall_kept
      intro done returned
      cases handled : handlePaymentFailed (some case) event config clock with
      | error raised => rw [handled] at returned; cases returned
      | ok answer =>
          rw [handled] at returned
          cases returned
          have answered := (handlePaymentFailed_existing case config clock handled).1
          intro entry member executed
          exact absurd executed
            (handleExistingFailure_unflagged case config clock answered entry member)
  | paymentSucceeded event =>
      intro entry member executed
      exact absurd executed (unflagged event rfl entry member)
  | markNoticeSent reasonCode previous bandit =>
      apply forall_kept
      intro done returned
      cases result
        : (StateMachine.markNoticeSent case config clock reasonCode previous bandit).result with
      | error raised => rw [result] at returned; cases returned
      | ok answer =>
          obtain ⟨entries, decision⟩ := answer
          rw [result] at returned
          cases returned
          have written := (markNoticeSent_ok case config clock result).entries_eq
          dsimp only
          rw [written]
          simp [noticeEntries]
  | markRetryExecuted decision =>
      apply forall_kept
      intro done returned
      unfold StateMachine.markRetryExecuted at returned
      split at returned <;> cases returned
      simp [executed]
  | attemptExecution decision commit =>
      apply forall_kept
      intro done returned
      unfold StateMachine.attemptExecution at returned
      split at returned
      · cases returned
      cases committed : commit decision with
      | error raised => rw [committed] at returned; cases returned
      | ok approved =>
          rw [committed] at returned
          cases approved <;> cases returned <;> simp [executed]
  | applyThrottle =>
      apply forall_kept
      intro done returned
      unfold StateMachine.applyThrottle trigger at returned
      split at returned <;> cases returned
      simp
  | releaseThrottle =>
      apply forall_kept
      intro done returned
      unfold StateMachine.releaseThrottle trigger at returned
      split at returned <;> cases returned
      simp

/-- An undisturbed call leaves no entry from RETRY_EXECUTED to itself: a case in that state
is no control case, and the amount is its own.
-/
theorem Undisturbed.once {config : AppConfig} {tracked : Tracked} {step : Operation × Clock}
    (undisturbed : Undisturbed tracked step) (routed : Routed config tracked)
    : ∀ entry ∈ (call config tracked.case step.2 step.1).2,
        entry.toState = .retryExecuted → entry.fromState ≠ .retryExecuted := by
  apply call_once
  intro event succeeded entry member executed
  have answer := handlePaymentSuccess_answer tracked.case config step.2 event
  have outstanding := answer.executed_of_target member executed
  rcases handlePaymentSuccess_flags tracked.case step.2 event entry member executed with
    other | held
  · exact other (undisturbed.matched event succeeded outstanding)
  · have controlled := routed.control held
    rw [outstanding] at controlled
    simp [controlStates] at controlled

/-- The slot a notice computes is one, by the floor of the scheduler and its push out of the
windows.
-/
theorem Scheduled.slot {config : AppConfig} (loaded : config.Loaded)
    (apart : WindowsApart config) {now : Datetime} {tracked : Tracked}
    {step : Operation × Clock} (regular : Regular config now tracked)
    (later : now ≤ step.2.now 0) (orderly : Orderly config tracked step)
    (undisturbed : Undisturbed tracked step) {slot : Datetime}
    (scheduled : Scheduled config tracked.case step.2 step.1 slot)
    : Slot config (step.2.now 0) tracked slot := by
  obtain ⟨code, anyCode, previous, bandit, reasoning, sent, computed⟩ := scheduled
  have identity : Identity { step.2 with now := fun i => step.2.now (i + 1) } := orderly.identity
  obtain ⟨spacing, entry, moved⟩ := computeScheduledAt_moved loaded identity computed
  have floor := moved.floor loaded
  have led : step.2.now 1 + config.npciRules.noticeLeadTime ≤ slot :=
    le_trans (le_max_left _ _) floor
  have gap : previous.getD (step.2.now 1) + spacing ≤ slot := le_trans (le_max_right _ _) floor
  exact {
    outside := by
      obtain ⟨t, rfl, _⟩ := moved
      exact avoidPeakWindows_outside loaded apart t
    led := le_trans (Int.add_le_add_right orderly.forward _) led
    spaced := by
      intro t member required listed
      cases entry.symm.trans listed
      have before : t ≤ previous.getD (step.2.now 1) := by
        cases previous with
        | some previous => exact undisturbed.previous anyCode previous bandit sent t member
        | none =>
            obtain ⟨execution, written, rfl⟩ := List.mem_map.mp member
            have stamped := regular.stamped execution (List.mem_of_mem_filter written)
            exact le_trans stamped (le_trans later orderly.forward)
      exact le_trans (Int.add_le_add_right before spacing) gap
    listed := by
      intro empty
      simp [SelfImposedPolicy.spacing?, empty] at entry
  }

/-- An orderly and undisturbed run is routed and at pace wherever it ends, by induction over
its calls.
-/
theorem Regular.performAll {config : AppConfig} (loaded : config.Loaded)
    (apart : WindowsApart config) {now : Datetime} {start : Tracked}
    {steps : List (Operation × Clock)} (routed : Routed config start)
    (regular : Regular config now start)
    (forward : (now :: steps.map (·.2.now 0)).Pairwise (· ≤ ·))
    (orderly : Run.Along (perform config) start steps (Orderly config))
    (undisturbed : Run.Along (perform config) start steps Undisturbed)
    : ∃ later, Routed config (start.performAll config steps)
        ∧ Regular config later (start.performAll config steps) := by
  induction steps generalizing now start with
  | nil => exact ⟨now, routed, regular⟩
  | cons step rest ih =>
      obtain ⟨orderlyHere, orderlyRest⟩ := Run.along_cons.mp orderly
      obtain ⟨undisturbedHere, undisturbedRest⟩ := Run.along_cons.mp undisturbed
      obtain ⟨after, forwardRest⟩ := List.pairwise_cons.mp forward
      have later : now ≤ step.2.now 0 := after _ (by simp)
      have moved := call_transition config start.case step.2 undisturbedHere.codes
      have written := call_written config start.case step.2 step.1
      have routed' := routed.step moved fun entry member => (written entry member).1
      have regular' := regular.step later moved (undisturbedHere.once routed)
        (fun entry member slot recorded =>
          ((written entry member).2 slot recorded).slot loaded apart regular later orderlyHere
            undisturbedHere)
        orderlyHere.executed
      exact ih routed' regular' forwardRest orderlyRest undisturbedRest

/-- A case is opened at pace. -/
theorem Regular.opened {event : PaymentFailureEvent} {config : AppConfig} {clock : Clock}
    {start : Tracked} (capped : 1 ≤ config.npciRules.maxRetries)
    (opened : Tracked.opened event config clock = .ok start)
    (unscheduled : ∀ entry ∈ start.trail, entry.scheduledAt = none)
    : Regular config (clock.now 0) start := by
  have budget := Budget.opened capped opened
  unfold Tracked.opened handlePaymentFailed at opened
  dsimp only at opened
  cases created : handleNewFailure event config clock with
  | error raised => rw [created] at opened; cases opened
  | ok done =>
      rw [created] at opened
      cases opened
      have fresh := handleNewFailure_opened created
      have times := executedTimes_of_unexecuted fresh.notExecuted
      exact {
        budget := budget
        stamped := fun entry member => le_of_eq (fresh.stamped entry member)
        once := fun entry member executed => absurd executed (fresh.notExecuted entry member)
        leads := by
          refine List.pairwise_of_forall_mem_list fun _ _ entry member _ executed => ?_
          exact absurd executed (fresh.notExecuted entry member)
        spaced := by
          dsimp only
          rw [times]
          simp [Spaced]
        outside := fun entry member =>
          ⟨fun executed => absurd executed (fresh.notExecuted entry member),
            fun slot recorded => by rw [unscheduled entry member] at recorded; cases recorded⟩
        listed := fun executed => absurd times executed
        due := by
          intro waits
          have state := fresh.state
          dsimp only at waits
          rcases waits with waits | waits <;> simp [openingState, waits] at state
      }

/-- A routed history at pace keeps the verifier's rules exactly where no entry that names
RETRY_SCHEDULED was written inside a peak window.
-/
theorem Regular.rulesKept_iff {config : AppConfig} {now : Datetime} {tracked : Tracked}
    (routed : Routed config tracked) (regular : Regular config now tracked)
    : RulesKept tracked.case tracked.trail config
      ↔ ∀ entry ∈ tracked.trail,
          entry.toState = .retryScheduled → ¬ config.npciRules.inPeak entry.timestamp := by
  constructor
  · intro kept entry member scheduled
    exact kept.peak entry member entry.timestamp (by simp [checkedTimes, scheduled])
  · intro quiet
    obtain ⟨segment, named⟩ := routed.segment
    exact {
      counter := regular.budget.cap
      notices := noticesLead_of_pairwise regular.leads
      spacing := regular.spaced
      peak := by
        intro entry member t checked
        obtain ⟨executed, slots⟩ := regular.outside entry member
        unfold checkedTimes at checked
        split at checked
        · next target =>
            rw [List.mem_singleton.mp checked]
            exact executed target
        split at checked
        · next target =>
            rcases List.mem_cons.mp checked with rfl | recorded
            · exact quiet entry member target
            · exact slots t (Option.mem_toList.mp recorded)
        · cases checked
      afa := fun treated above => (routed.afa treated above).2
      buckets := fun first hf second hs assigns assigns' =>
        (named first hf assigns).trans (named second hs assigns').symm
    }

end Tracked

-----------------------------------------------------------------------------------------
-- No false alarm
-----------------------------------------------------------------------------------------

/-- On an orderly and undisturbed run of a case without a category, every result of the
verifier has passed if and only if no entry that names RETRY_SCHEDULED as its target was
written inside a peak window. Witness: the run is routed and at pace where it ends.
-/
theorem verifier_quiet_iff {event : PaymentFailureEvent} {config : AppConfig} {clock : Clock}
    {start : Tracked} {steps : List (Operation × Clock)}
    (capped : 1 ≤ config.npciRules.maxRetries) (loaded : config.Loaded)
    (apart : WindowsApart config)
    (uncategorized : (event.notes.getD []).lookup "category" = none)
    (opened : Tracked.opened event config clock = .ok start)
    (forward : (clock.now 0 :: steps.map (·.2.now 0)).Pairwise (· ≤ ·))
    (orderly : Run.Along (Tracked.perform config) start steps (Tracked.Orderly config))
    (undisturbed : Run.Along (Tracked.perform config) start steps Tracked.Undisturbed)
    : let final := start.performAll config steps
      AllPassed final.case final.trail config
      ↔ ∀ entry ∈ final.trail,
          entry.toState = .retryScheduled → ¬ config.npciRules.inPeak entry.timestamp := by
  intro final
  obtain ⟨routed, unscheduled⟩ := Tracked.Routed.opened uncategorized opened
  have regular := Tracked.Regular.opened capped opened unscheduled
  obtain ⟨later, routed, regular⟩
    := regular.performAll loaded apart routed forward orderly undisturbed
  rw [allPassed_iff regular.listed routed.written]
  exact regular.rulesKept_iff routed

/-- The windows shipped are apart. -/
theorem shippedConfig_apart (profile : ProfileName) : WindowsApart (shippedConfig profile) := by
  simp only [WindowsApart, shippedConfig, List.pairwise_cons, List.not_mem_nil, false_implies,
    implies_true, List.Pairwise.nil, and_true, List.mem_singleton, forall_eq]
  exact .inl (by decide)

/-- A notice at 09:30 IST and the execution of its retry a day later. -/
def quietSteps : List (Operation × Clock) := [
  (.markNoticeSent none none none, stoppedClock (hours 4)),
  (.markRetryExecuted { firstDecision with scheduledAt := hours 28 }, stoppedClock (hours 28))]

theorem quietSteps_orderly
    : Run.Along (Tracked.perform (shippedConfig .prod)) declined quietSteps
        (Tracked.Orderly (shippedConfig .prod)) := by
  unfold quietSteps
  refine Run.along_cons.mpr ⟨?_, Run.along_cons.mpr ⟨?_, Run.along_nil⟩⟩
  · exact {
      identity := stoppedClock_identity _
      forward := le_refl _
      noticed := fun _ _ _ _ _ => by decide +kernel
      executed := fun executes => absurd executes (by decide +kernel)
    }
  · exact {
      identity := stoppedClock_identity _
      forward := le_refl _
      noticed := fun _ _ _ sent => by cases sent
      executed := by
        intro _
        refine ⟨?_, by decide +kernel⟩
        have current
            : Tracked.currentSlot (Tracked.perform (shippedConfig .prod) declined
                (.markNoticeSent none none none, stoppedClock (hours 4))).trail
              = some (hours 28) := by
          decide +kernel
        intro slot found
        cases current.symm.trans found
        exact le_refl _
    }

theorem quietSteps_undisturbed
    : Run.Along (Tracked.perform (shippedConfig .prod)) declined quietSteps
        Tracked.Undisturbed := by
  refine Run.along_of_forall fun step member tracked => ?_
  simp only [quietSteps, List.mem_cons, List.not_mem_nil, or_false] at member
  rcases member with rfl | rfl
  · exact ⟨trivial, fun _ succeeded => (by cases succeeded), fun _ _ _ sent => (by cases sent)⟩
  · exact ⟨trivial, fun _ succeeded => (by cases succeeded), fun _ _ _ sent => (by cases sent)⟩

/-- The verifier passes that run: its notice is sent before the first window. -/
theorem verifier_quiet_iff_executed
    : let final := declined.performAll (shippedConfig .prod) quietSteps
      AllPassed final.case final.trail (shippedConfig .prod)
      ↔ ∀ entry ∈ final.trail,
          entry.toState = .retryScheduled
          → ¬ (shippedConfig .prod).npciRules.inPeak entry.timestamp :=
  verifier_quiet_iff (by decide) (shippedConfig_loaded .prod) (shippedConfig_apart .prod)
    (by decide) declined_opened (by decide) quietSteps_orderly quietSteps_undisturbed

/-- A notice at 11:00 IST, inside the first window: nothing has been executed. -/
def peakNoticeSteps : List (Operation × Clock) :=
  [(.markNoticeSent none none none, stoppedClock (minutes 330))]

/-- The verifier takes the time of that notice for the time of an execution. -/
theorem verifier_not_quiet
    : ¬ ∀ (event : PaymentFailureEvent) (config : AppConfig) (clock : Clock) (start : Tracked)
        (steps : List (Operation × Clock)),
        1 ≤ config.npciRules.maxRetries
        → config.Loaded
        → WindowsApart config
        → (event.notes.getD []).lookup "category" = none
        → Tracked.opened event config clock = .ok start
        → (clock.now 0 :: steps.map (·.2.now 0)).Pairwise (· ≤ ·)
        → Run.Along (Tracked.perform config) start steps (Tracked.Orderly config)
        → let final := start.performAll config steps
          AllPassed final.case final.trail config := by
  intro claimed
  have orderly : Run.Along (Tracked.perform (shippedConfig .prod)) declined peakNoticeSteps
      (Tracked.Orderly (shippedConfig .prod)) := by
    unfold peakNoticeSteps
    refine Run.along_cons.mpr ⟨?_, Run.along_nil⟩
    exact {
      identity := stoppedClock_identity _
      forward := le_refl _
      noticed := fun _ _ _ _ _ => by decide +kernel
      executed := fun executes => absurd executes (by decide +kernel)
    }
  obtain ⟨results, answered, passed⟩ := claimed technicalDecline (shippedConfig .prod)
    (stoppedClock 0) declined peakNoticeSteps (by decide) (shippedConfig_loaded .prod)
    (shippedConfig_apart .prod) (by decide) declined_opened (by decide) orderly
  have alarmed
      : let final := declined.performAll (shippedConfig .prod) peakNoticeSteps
        (verifyCaseCompliance final.case final.trail (shippedConfig .prod)).map
          (·.all (·.passed)) = .ok false := by
    decide +kernel
  dsimp only at alarmed
  rw [answered] at alarmed
  have all : results.all (·.passed) = true := List.all_eq_true.mpr passed
  rw [Except.map, all] at alarmed
  cases alarmed

end RecoveryAgent.StateMachine
