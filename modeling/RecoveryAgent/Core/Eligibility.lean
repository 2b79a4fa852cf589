import RecoveryAgent.Core.FalseAlarms

/-! Which failures are retried, and who else decides it.
A new failure is retried when its decline is technical and its amount within the ceiling of
its category. The splitter asks neither, and the verifier knows the default ceiling only.
-/

namespace RecoveryAgent.StateMachine

open Verifier

/-- `_handle_new_failure` with the verdict of the hash given. -/
def routeNewFailure (inControl : Bool) (event : PaymentFailureEvent) (config : AppConfig)
    (clock : Clock)
    : Except PyError (RecoveryCase × PaymentFailureEvent × List AuditEntry) := do
  let now := clock.now 0
  let mandate := match event.mandateId with
    | some mandate => if mandate = "" then event.caseId else mandate
    | none => event.caseId
  let case ← RecoveryCase.create event.caseId mandate event.instrumentId event.amount now
  let opened := audit case.caseId .received .classified "create_case" now
  let (declineClass, _) ← classifyFailure config event.reasonCode event.errorReason
  let event := { event with declineClass }
  if inControl then
    let case ← assignBucket case .control
    let window ← clock.resolveDelay config.selfImposed.controlObservationWindow
    let case := {
      case with
      state := .controlHeld
      controlOutcome := some .unknown
      controlObservationDeadline := some (now + window)
    }
    return (case, event,
      [opened, audit case.caseId .classified .controlHeld "assign_bucket_control" now])
  let case ← assignBucket case .treatment
  let assigned := audit case.caseId .classified .treatment "assign_bucket_treatment" now
  if declineClass = .business then
    return ({ case with state := .escalated }, event,
      [opened, assigned, audit case.caseId .treatment .escalated "hard_decline" now])
  let ceiling ← afaCeiling config (event.notes.getD [])
  if case.originalAmount > ceiling then
    return ({ case with state := .afaRequired }, event,
      [opened, assigned, audit case.caseId .treatment .afaRequired "afa_threshold_exceeded" now])
  return ({ case with state := .noticePending }, event,
    [opened, assigned, audit case.caseId .treatment .noticePending "technical_decline" now])

/-- The hash of the case id is the verdict a new failure is routed by. -/
theorem handleNewFailure_eq (event : PaymentFailureEvent) (config : AppConfig) (clock : Clock)
    : handleNewFailure event config clock
      = routeNewFailure (isControlCase event.caseId) event config clock := by
  simp only [handleNewFailure, routeNewFailure, bind, Except.bind]
  generalize made : RecoveryCase.create event.caseId _ _ _ _ = created
  cases created with
  | error raised => rfl
  | ok case =>
      dsimp only
      rw [(RecoveryCase.create_eq made).1]

/-- A failure that is retried: technical, and within the ceiling of its category. -/
def Eligible (config : AppConfig) (event : PaymentFailureEvent) : Prop :=
  (∃ retryable,
    classifyFailure config event.reasonCode event.errorReason = .ok (.technical, retryable))
  ∧ ∃ ceiling,
      afaCeiling config (event.notes.getD []) = .ok ceiling ∧ event.amount ≤ ceiling

/-- A classification is one of the two classes, and says whether it is retryable. -/
theorem classifyFailure_class {config : AppConfig} {reasonCode errorReason : Json}
    {verdict : DeclineClass × Bool}
    (classified : classifyFailure config reasonCode errorReason = .ok verdict)
    : verdict = (.technical, true) ∨ verdict = (.business, false) := by
  simp only [classifyFailure, bind, Except.bind, pure, Except.pure] at classified
  repeat' split at classified
  all_goals cases classified
  all_goals simp

section Routing

variable {event event' : PaymentFailureEvent} {config : AppConfig} {clock : Clock}
  {case : RecoveryCase} {entries : List AuditEntry} {inControl : Bool}

/-- A failure that is routed at all has a valid case and a classification. -/
theorem routeNewFailure_ok
    (routed : routeNewFailure inControl event config clock = .ok (case, event', entries))
    : ∃ fresh verdict,
        RecoveryCase.create event.caseId
            (match event.mandateId with
              | some mandate => if mandate = "" then event.caseId else mandate
              | none => event.caseId)
            event.instrumentId event.amount (clock.now 0)
          = .ok fresh
        ∧ classifyFailure config event.reasonCode event.errorReason = .ok verdict
        ∧ case.bucket = some (if inControl then .control else .treatment) := by
  simp only [routeNewFailure, bind, Except.bind, pure, Except.pure] at routed
  generalize made : RecoveryCase.create event.caseId _ _ _ _ = created at routed
  cases created with
  | error raised => cases routed
  | ok fresh =>
      have unassigned := (RecoveryCase.create_eq made).2.2.2.2.2
      dsimp only at routed
      cases classified : classifyFailure config event.reasonCode event.errorReason with
      | error raised => rw [classified] at routed; cases routed
      | ok verdict =>
          refine ⟨fresh, verdict, rfl, rfl, ?_⟩
          simp only [classified, assignBucket_eq unassigned] at routed
          cases inControl with
          | true =>
              rw [if_pos rfl] at routed
              split at routed <;> cases routed
              rfl
          | false =>
              rw [if_neg Bool.false_ne_true] at routed
              repeat' split at routed
              all_goals cases routed
              all_goals rfl

/-- A failure of an instrument opens a valid case. -/
theorem opening_created (event : PaymentFailureEvent) (instrument : event.instrumentId ≠ "")
    (now : Datetime)
    : ∃ fresh,
        RecoveryCase.create event.caseId
            (match event.mandateId with
              | some mandate => if mandate = "" then event.caseId else mandate
              | none => event.caseId)
            event.instrumentId event.amount now
          = .ok fresh := by
  refine RecoveryCase.create_ok now event.caseId_ne ?_ instrument event.amount_pos
  split
  · split
    · exact event.caseId_ne
    · next filled => exact filled
  · exact event.caseId_ne

/-- In the treatment bucket exactly the eligible failures are left to be noticed. -/
theorem routeNewFailure_noticed_iff {verdict : DeclineClass × Bool}
    {fresh : RecoveryCase}
    (created
      : RecoveryCase.create event.caseId
          (match event.mandateId with
            | some mandate => if mandate = "" then event.caseId else mandate
            | none => event.caseId)
          event.instrumentId event.amount (clock.now 0)
        = .ok fresh)
    (classified : classifyFailure config event.reasonCode event.errorReason = .ok verdict)
    : (∃ routed,
        routeNewFailure false event config clock = .ok routed
        ∧ routed.1.state = .noticePending)
      ↔ Eligible config event := by
  obtain ⟨_, _, _, amount, _, unassigned⟩ := RecoveryCase.create_eq created
  simp only [routeNewFailure, created, classified, assignBucket_eq unassigned, bind, Except.bind,
    pure, Except.pure, Bool.false_eq_true, if_false, Eligible]
  rcases classifyFailure_class classified with rfl | rfl
  · simp only [reduceCtorEq, if_false, Except.ok.injEq, Prod.mk.injEq, true_and, exists_eq',
      true_and]
    cases ceiled : afaCeiling config (event.notes.getD []) with
    | error raised => simp
    | ok ceiling =>
        dsimp only
        by_cases above : ceiling < fresh.originalAmount
        · have refused : ¬ event.amount ≤ ceiling := by omega
          simp [above, refused]
        · have within : event.amount ≤ ceiling := by omega
          simp [above, within]
  · simp

end Routing

/-- The same failure is left to be noticed under the treatment bucket. -/
def NoticedIfTreated (event : PaymentFailureEvent) (config : AppConfig) (clock : Clock) : Prop :=
  ∃ routed,
    routeNewFailure false event config clock = .ok routed
    ∧ routed.1.state = .noticePending

/-- A held failure would have been noticed exactly where the hash only holds eligible ones.
Witness: the bucket is the verdict of the hash, which reads nothing but the case id.
-/
theorem control_eligible_iff {event event' : PaymentFailureEvent} {config : AppConfig}
    {clock : Clock} {case : RecoveryCase} {entries : List AuditEntry}
    (handled : handlePaymentFailed none event config clock = .ok (case, event', entries))
    : (case.bucket = some .control → NoticedIfTreated event config clock)
      ↔ (isControlCase event.caseId = true → Eligible config event) := by
  have routed : routeNewFailure (isControlCase event.caseId) event config clock
      = .ok (case, event', entries) := by
    rw [← handleNewFailure_eq]
    exact handled
  obtain ⟨fresh, verdict, created, classified, bucket⟩ := routeNewFailure_ok routed
  have noticed : NoticedIfTreated event config clock ↔ Eligible config event :=
    routeNewFailure_noticed_iff created classified
  rw [bucket, noticed]
  cases isControlCase event.caseId <;> simp

/-- A business decline of ₹500 whose case the hash holds for control. -/
def heldDecline : PaymentFailureEvent :=
  { technicalDecline with
    caseId := "pay_1"
    paymentId := "pay_1"
    reasonCode := .str "insufficient_funds"
    paymentId_ne := ne_empty _ trivial
    caseId_ne := ne_empty _ trivial }

/-- The case of that decline, held for three days. -/
def heldCase : Tracked where
  case := {
    caseId := "pay_1"
    mandateId := "mandate_1"
    instrumentId := "card_1"
    originalAmount := 50000
    openedAt := 0
    state := .controlHeld
    bucket := some .control
    controlOutcome := some .unknown
    controlObservationDeadline := some (hours 72)
    caseId_ne := ne_empty _ trivial
    mandateId_ne := ne_empty _ trivial
    instrumentId_ne := ne_empty _ trivial
    originalAmount_pos := fiveHundredRupees_pos
  }
  trail := [
    audit "pay_1" .received .classified "create_case" 0,
    audit "pay_1" .classified .controlHeld "assign_bucket_control" 0]

theorem heldCase_opened
    : Tracked.opened heldDecline (shippedConfig .prod) (stoppedClock 0) = .ok heldCase := by
  decide +kernel

/-- The conditions agree on that decline, which is held and could never be retried. -/
theorem control_eligible_iff_held
    : (heldCase.case.bucket = some .control
        → NoticedIfTreated heldDecline (shippedConfig .prod) (stoppedClock 0))
      ↔ (isControlCase heldDecline.caseId = true
        → Eligible (shippedConfig .prod) heldDecline) := by
  have opened := heldCase_opened
  unfold Tracked.opened at opened
  cases handled
    : handlePaymentFailed none heldDecline (shippedConfig .prod) (stoppedClock 0) with
  | error raised => rw [handled] at opened; cases opened
  | ok done =>
      rw [handled] at opened
      have same : done.1 = heldCase.case := congrArg Tracked.case (Except.ok.inj opened)
      rw [← same]
      exact control_eligible_iff handled

/-- A business decline enters the control group. -/
theorem control_ineligible
    : heldCase.case.bucket = some .control
      ∧ Tracked.opened heldDecline (shippedConfig .prod) (stoppedClock 0) = .ok heldCase
      ∧ ¬ NoticedIfTreated heldDecline (shippedConfig .prod) (stoppedClock 0) := by
  refine ⟨rfl, heldCase_opened, ?_⟩
  have escalated
      : (routeNewFailure false heldDecline (shippedConfig .prod) (stoppedClock 0)).map
          (·.1.state)
        = .ok .escalated := by
    decide +kernel
  rintro ⟨routed, answered, noticed⟩
  rw [answered] at escalated
  cases noticed.symm.trans (Except.ok.inj escalated)

section Ceilings

variable {event : PaymentFailureEvent} {config : AppConfig} {clock : Clock} {start : Tracked}

/-- A technical failure of the treatment bucket is routed by the ceiling of its category. -/
theorem opened_treated {retryable : Bool}
    (technical
      : classifyFailure config event.reasonCode event.errorReason = .ok (.technical, retryable))
    (opened : Tracked.opened event config clock = .ok start)
    (treated : start.case.bucket = some .treatment)
    : ∃ ceiling,
        StateMachine.afaCeiling config (event.notes.getD []) = .ok ceiling
        ∧ start.case.originalAmount = event.amount
        ∧ start.case.state
          = if ceiling < event.amount then .afaRequired else .noticePending := by
  unfold Tracked.opened handlePaymentFailed at opened
  dsimp only at opened
  cases routed : handleNewFailure event config clock with
  | error raised => rw [routed] at opened; cases opened
  | ok done =>
      rw [routed] at opened
      cases opened
      have amount := (handleNewFailure_opened routed).originalAmount
      rw [handleNewFailure_eq] at routed
      obtain ⟨fresh, verdict, created, classified, bucket⟩ := routeNewFailure_ok routed
      cases held : isControlCase event.caseId with
      | true =>
          rw [held, if_pos rfl] at bucket
          cases bucket.symm.trans treated
      | false =>
          rw [held] at routed
          obtain ⟨_, _, _, due, _, unassigned⟩ := RecoveryCase.create_eq created
          simp only [routeNewFailure, created, technical, assignBucket_eq unassigned, bind,
            Except.bind, pure, Except.pure, Bool.false_eq_true, if_false, reduceCtorEq] at routed
          cases ceiled : StateMachine.afaCeiling config (event.notes.getD []) with
          | error raised => rw [ceiled] at routed; cases routed
          | ok ceiling =>
              rw [ceiled] at routed
              refine ⟨ceiling, rfl, amount, ?_⟩
              by_cases above : ceiling < fresh.originalAmount
              · rw [if_pos (due ▸ above)]
                simp only [gt_iff_lt, above, if_true] at routed
                cases routed
                rfl
              · rw [if_neg (due ▸ above)]
                simp only [gt_iff_lt, above, if_false] at routed
                cases routed
                rfl

/-- No retry of the case is under way, and its trail shows none that was executed. -/
def Tracked.Untried (tracked : Tracked) : Prop :=
  tracked.case.state ∉ [CaseState.retryScheduled, .throttled, .retryExecuted]
  ∧ ∀ entry ∈ tracked.trail, entry.toState ≠ .retryExecuted

/-- Without a spacing entry no call schedules a retry, so none is ever executed. -/
theorem Tracked.Untried.perform {tracked : Tracked} (untried : tracked.Untried)
    (unlisted : config.selfImposed.retrySpacing = []) (step : Operation × Clock)
    : (tracked.perform config step).Untried := by
  obtain ⟨idle, unexecuted⟩ := untried
  have written := Tracked.call_written config tracked.case step.2 step.1
  have quiet {case' : RecoveryCase} {entries : List AuditEntry}
      (moved : Transition config (step.2.now 0) tracked.case case' entries)
      (written
        : ∀ entry ∈ entries, Tracked.Written config tracked.case step.2 step.1 entry)
      : case'.state ∉ [CaseState.retryScheduled, .throttled, .retryExecuted]
        ∧ ∀ entry ∈ entries, entry.toState ≠ .retryExecuted := by
    cases moved with
    | unchanged => exact ⟨idle, by simp⟩
    | answered answer =>
        cases answer with
        | noted rule cited =>
            refine ⟨idle, ?_⟩
            simp only [List.mem_singleton, forall_eq, audit_toState]
            intro executed
            simp [executed] at idle
        | settled settles outcome rule cited =>
            rcases settles.target with rfl | rfl | rfl | rfl <;> simp
        | evaluated executed eligible rule cited => simp [executed] at idle
    | triggered triggers rule cited =>
        generalize tracked.case.state = state at idle triggers
        cases triggers <;> simp at idle
    | noticeLost pending => simp
    | noticed pending scheduledAt =>
        -- the slot of the second entry was computed, which takes a spacing entry
        obtain ⟨_, _, _, _, _, _, computed⟩ := (written _ (by
          simp only [noticeEntries, List.mem_cons, List.not_mem_nil, or_false]
          exact .inr rfl)).2 scheduledAt rfl
        simp [computeScheduledAt, SelfImposedPolicy.spacing?, unlisted] at computed
  have moved := Tracked.call_cases config tracked.case step.2 step.1
  unfold Tracked.perform
  rcases moved with moved | ⟨executed, _⟩
  · obtain ⟨still, entries_unexecuted⟩ := quiet moved written
    exact ⟨still, List.forall_mem_append.mpr ⟨unexecuted, entries_unexecuted⟩⟩
  · simp [executed] at idle

/-- At some instant a notice has its whole schedule in the calendar, whichever retry it is for. -/
def FitsCalendar (config : AppConfig) : Prop :=
  ∃ now,
    firstInstant ≤ now
    ∧ ∀ spacing ∈ config.selfImposed.retrySpacing,
        InCalendar config (floorAt now config.npciRules.noticeLeadTime spacing none)

/-- From a pending notice a retry can be scheduled and executed, on a real clock. -/
theorem Tracked.retry_reachable (loaded : config.Loaded)
    (listed : config.selfImposed.retrySpacing ≠ []) (calendar : FitsCalendar config)
    (pending : start.case.state = .noticePending)
    : ∃ steps,
        (∀ step ∈ steps, ∀ event, step.1 ≠ .paymentFailed event)
        ∧ ∃ entry ∈ (start.performAll config steps).trail, entry.Enters .retryExecuted := by
  obtain ⟨now, _, fits⟩ := calendar
  obtain ⟨spacing, entry⟩ := config.selfImposed.spacing?_isSome listed start.case.retriesUsed
  obtain ⟨⟨entries, decision⟩, sent⟩ := @markNoticeSent_sends start.case config
    (stoppedClock now) loaded (stoppedClock_resolves now) pending spacing entry none none none
    (fun suggest (given : none = some suggest) => nomatch given)
    (fits spacing (List.mem_of_getElem? entry))
  have scheduled := (markNoticeSent_ok start.case config (stoppedClock now) sent).case_eq
  have noticed
      : start.perform config (.markNoticeSent none none none, stoppedClock now)
        = ⟨{ start.case with state := .retryScheduled }, start.trail ++ entries⟩ := by
    simp only [Tracked.perform, Tracked.call, sent, scheduled, Except.map, Tracked.kept]
  refine ⟨[(.markNoticeSent none none none, stoppedClock now),
    (.markRetryExecuted decision, stoppedClock now)], by simp,
    audit start.case.caseId .retryScheduled .retryExecuted "commit_approved" now, ?_, rfl,
    by simp⟩
  simp only [Tracked.performAll, List.foldl_cons, List.foldl_nil, noticed]
  exact List.mem_append_right _ (List.mem_singleton.mpr rfl)

/-- The verifier and the routing of a case agree about its retries: a case left to be noticed
passes the check after every run that executes one, and a case that needs authentication
fails it on every trail that names one.
-/
structure CeilingsAgree (config : AppConfig) (start : Tracked) : Prop where
  noticed
    : start.case.state = .noticePending
      → ∀ steps : List (Operation × Clock),
          let final := start.performAll config steps
          (∃ entry ∈ final.trail, entry.toState = .retryExecuted)
          → (Verifier.afaCeiling final.case final.trail config.npciRules).passed = true
  refused
    : start.case.state = .afaRequired
      → ∀ case trail,
          SameCase start.case case
          → (∃ entry ∈ trail, isRetryState entry.toState = true)
          → (Verifier.afaCeiling case trail config.npciRules).passed = false

/-- They agree on exactly the amounts that the ceiling of the category and the default ceiling
judge alike, and where no retry can be scheduled. Witness: the check reads nothing of the case
but its bucket and its amount, which no call changes.
-/
theorem ceilingsAgree_iff {retryable : Bool} (loaded : config.Loaded)
    (calendar : FitsCalendar config)
    (technical
      : classifyFailure config event.reasonCode event.errorReason = .ok (.technical, retryable))
    (opened : Tracked.opened event config clock = .ok start)
    (treated : start.case.bucket = some .treatment)
    : ∃ ceiling,
        StateMachine.afaCeiling config (event.notes.getD []) = .ok ceiling
        ∧ (CeilingsAgree config start
          ↔ (event.amount ≤ ceiling
              → event.amount ≤ defaultCeiling config.npciRules
                ∨ config.selfImposed.retrySpacing = [])
            ∧ (event.amount ≤ defaultCeiling config.npciRules → event.amount ≤ ceiling)) := by
  obtain ⟨ceiling, ceiled, amount, state⟩ := opened_treated technical opened treated
  refine ⟨ceiling, ceiled, ?_⟩
  have passes {case : RecoveryCase} {trail : List AuditEntry} (same : SameCase start.case case)
      (retried : ∃ entry ∈ trail, isRetryState entry.toState = true)
      : (Verifier.afaCeiling case trail config.npciRules).passed = true
        ↔ event.amount ≤ defaultCeiling config.npciRules := by
    rw [afaCeiling_passed, same.bucket, treated, same.originalAmount, amount]
    obtain ⟨entry, member, retry⟩ := retried
    constructor
    · intro kept
      by_contra above
      simp [kept rfl (not_le.mp above) entry member] at retry
    · exact fun below _ above => absurd above (not_lt.mpr below)
  have retries {tracked : Tracked}
      : (∃ entry ∈ tracked.trail, entry.toState = .retryExecuted)
        → ∃ entry ∈ tracked.trail, isRetryState entry.toState = true := by
    rintro ⟨entry, member, executed⟩
    exact ⟨entry, member, by simp [isRetryState, executed]⟩
  constructor
  · rintro ⟨noticed, refused⟩
    constructor
    · intro within
      rw [if_neg (not_lt.mpr within)] at state
      by_cases listed : config.selfImposed.retrySpacing = []
      · exact .inr listed
      · obtain ⟨steps, _, entry, member, enters⟩ := Tracked.retry_reachable loaded listed calendar
          state
        have reached : ∃ entry ∈ (start.performAll config steps).trail,
            entry.toState = .retryExecuted :=
          ⟨entry, member, enters.1⟩
        exact .inl ((passes (Tracked.performAll_sameCase config start steps) (retries reached)).mp
          (noticed state steps reached))
    · intro below
      by_contra above
      rw [if_pos (not_le.mp above)] at state
      have retried : ∃ entry ∈ noticeEntries start.case.caseId 0 0,
          isRetryState entry.toState = true := by
        simp [noticeEntries, isRetryState]
      have failed := refused state start.case _ (.refl _) retried
      rw [(passes (.refl _) retried).mpr below] at failed
      cases failed
  · rintro ⟨within, beyond⟩
    constructor
    · intro pending steps final reached
      have below : event.amount ≤ ceiling := by
        by_contra above
        rw [if_pos (not_le.mp above), pending] at state
        cases state
      rcases within below with below | unlisted
      · exact (passes (Tracked.performAll_sameCase config start steps) (retries reached)).mpr below
      · have untried : start.Untried := by
          refine ⟨by simp [pending], ?_⟩
          unfold Tracked.opened handlePaymentFailed at opened
          dsimp only at opened
          cases created : handleNewFailure event config clock with
          | error raised => rw [created] at opened; cases opened
          | ok done =>
              rw [created] at opened
              cases opened
              exact (handleNewFailure_opened created).notExecuted
        have still : final.Untried :=
          Run.keeps untried (fun _ step kept => kept.perform unlisted step) steps
        obtain ⟨entry, member, executed⟩ := reached
        exact absurd executed (still.2 entry member)
    · intro required case trail same retried
      rw [Bool.eq_false_iff, ne_eq, passes same retried]
      intro below
      rw [if_neg (not_lt.mpr (beyond below)), required] at state
      cases state

end Ceilings

theorem shippedConfig_fitsCalendar (profile : ProfileName)
    : FitsCalendar (shippedConfig profile) :=
  ⟨0, by decide, by cases profile <;> decide⟩

/-- A premium of ₹20,000, between the default ceiling and the one of its category. -/
def premiumDecline : PaymentFailureEvent :=
  { technicalDecline with
    amount := 2000000
    notes := some [("category", .str "insurance")]
    amount_pos := by decide }

/-- The case of that premium, left to be noticed. -/
def premiumCase : Tracked where
  case := { declined.case with originalAmount := 2000000, originalAmount_pos := by decide }
  trail := declined.trail

theorem premiumCase_opened
    : Tracked.opened premiumDecline (shippedConfig .prod) (stoppedClock 0) = .ok premiumCase := by
  decide +kernel

/-- The ceilings differ on the premium, and so do the verdicts. -/
theorem ceilingsAgree_iff_premium
    : ∃ ceiling,
        StateMachine.afaCeiling (shippedConfig .prod) (premiumDecline.notes.getD []) = .ok ceiling
        ∧ (CeilingsAgree (shippedConfig .prod) premiumCase
          ↔ (premiumDecline.amount ≤ ceiling
              → premiumDecline.amount ≤ defaultCeiling (shippedConfig .prod).npciRules
                ∨ (shippedConfig .prod).selfImposed.retrySpacing = [])
            ∧ (premiumDecline.amount ≤ defaultCeiling (shippedConfig .prod).npciRules
              → premiumDecline.amount ≤ ceiling)) := by
  have technical
      : classifyFailure (shippedConfig .prod) premiumDecline.reasonCode premiumDecline.errorReason
        = .ok (.technical, true) := by
    decide +kernel
  exact ceilingsAgree_iff (shippedConfig_loaded .prod) (shippedConfig_fitsCalendar .prod) technical
    premiumCase_opened rfl

/-- The verifier flags the retry of a premium that the state machine let through. -/
theorem premium_flagged
    : Tracked.opened premiumDecline (shippedConfig .prod) (stoppedClock 0) = .ok premiumCase
      ∧ ¬ CeilingsAgree (shippedConfig .prod) premiumCase := by
  refine ⟨premiumCase_opened, fun agree => ?_⟩
  have passed := agree.noticed rfl (collectingSteps.take 2) (by decide +kernel)
  exact absurd passed (by decide +kernel)

end RecoveryAgent.StateMachine
