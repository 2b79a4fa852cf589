import RecoveryAgent.Core.Eligibility
import RecoveryAgent.Core.TimeText

/-! The public compliance oracle (`/compliance/check` of `app/main.py`) beside the state machine.
The oracle cites the notice lead time, the spacing, the blackout and the ceiling, and looks at
the first of them only.
-/

namespace RecoveryAgent.StateMachine

-----------------------------------------------------------------------------------------
-- The oracle
-----------------------------------------------------------------------------------------

/-- `ComplianceCheckRequest`. -/
structure ComplianceCheckRequest where
  reasonCode : String
  amountPaise : Int
  errorReason : Option String
  amountPaise_pos : 0 < amountPaise

/-- `error_reason` as the classification sees it. -/
def ComplianceCheckRequest.reason (request : ComplianceCheckRequest) : Json :=
  match request.errorReason with
  | none => .null
  | some text => .str text

/-- The advisory success rates per rail; the loader replaces an empty table by its default. -/
structure Rails where
  rates : List (String × Rat)
  listed : rates ≠ []

/-- `max(config.rails, key=...)`: the first rail of the highest rate. -/
def Rails.best (rails : Rails) : String :=
  (rails.rates.tail.foldl (fun best rail => if best.2 < rail.2 then rail else best)
    (rails.rates.head rails.listed)).1

/-- The answer, less the rendering of the whole configuration in its `reasoning`. -/
structure ComplianceAnswer where
  allowed : Bool
  declineClass : DeclineClass
  advisoryTechnicalProbability : Rat
  ruleCitation : String
  suggestedRail : String
  suggestedRailAdvisory : Bool
  note : String
  nextEligibleAt : Option String

/-- `compliance_check`. -/
def complianceCheck (request : ComplianceCheckRequest) (config : AppConfig) (rails : Rails)
    (clock : Clock)
    : Except PyError ComplianceAnswer := do
  let (declineClass, retryable)
    ← classifyFailure config (.str request.reasonCode) request.reason
  let now := clock.now 0
  let nextEligible
    ← if retryable then (plus now config.npciRules.noticeLeadTime).map some else pure none
  return {
    allowed := retryable
    declineClass
    advisoryTechnicalProbability := if declineClass = .technical then 4 / 5 else 1 / 10
    ruleCitation := "NPCI pre-debit notice lead time, spacing, peak-hour blackout, AFA ceiling "
      ++ "(config/npci_rules.yaml)"
    suggestedRail := rails.best
    suggestedRailAdvisory := true
    note := "suggested_rail is config-driven and has no real multi-rail data behind it"
    nextEligibleAt := nextEligible.map isoformat
  }

-----------------------------------------------------------------------------------------
-- What the oracle is asked about
-----------------------------------------------------------------------------------------

/-- A first failure with the values of a request and no category, which opens a case of the
treatment bucket.
-/
structure Asks (request : ComplianceCheckRequest) (event : PaymentFailureEvent) : Prop where
  reasonCode : event.reasonCode = .str request.reasonCode
  errorReason : event.errorReason = request.reason
  amount : event.amount = request.amountPaise
  uncategorized : (event.notes.getD []).lookup "category" = none
  treated : isControlCase event.caseId = false
  instrument : event.instrumentId ≠ ""

/-- The state machine leaves the case of the failure to be noticed. -/
def LeftToNotice (event : PaymentFailureEvent) (config : AppConfig) (now : Datetime)
    (case : RecoveryCase)
    : Prop :=
  (∃ event' entries,
    handlePaymentFailed none event config (stoppedClock now) = .ok (case, event', entries))
  ∧ case.state = .noticePending

/-- The answer is the one the state machine gives: allowed are the failures that are left to be
noticed, and the retry is eligible when a notice sent at that moment would schedule it.
-/
structure Agrees (answer : ComplianceAnswer) (event : PaymentFailureEvent) (config : AppConfig)
    (now : Datetime)
    : Prop where
  allowed : answer.allowed = true ↔ ∃ case, LeftToNotice event config now case
  nextEligible
    : answer.allowed = true
      → ∀ case,
          LeftToNotice event config now case
          → ∃ entries decision,
              (markNoticeSent case config (stoppedClock now) none none none).result
                = .ok (entries, decision)
              ∧ answer.nextEligibleAt = some (isoformat decision.scheduledAt)

/-- What the oracle leaves out holds of a failure: its amount is within the default ceiling, the
first spacing is within the lead time, and the end of the lead time is in no peak window. The
schedule from there is in the calendar.
-/
structure Unhindered (event : PaymentFailureEvent) (config : AppConfig) (now : Datetime)
    : Prop where
  ceiling
    : ∃ ceiling,
        config.npciRules.afaFreeCeiling.lookup "default" = some ceiling
        ∧ event.amount ≤ ceiling
  spacing
    : ∃ spacing,
        config.selfImposed.spacing? 0 = some spacing
        ∧ spacing ≤ config.npciRules.noticeLeadTime
  peak : ¬ config.npciRules.inPeak (now + config.npciRules.noticeLeadTime)
  notice : Reaches now config.npciRules.noticeLeadTime
  latest : Reaches (now + config.npciRules.noticeLeadTime) config.selfImposed.maxScheduleWindow
  offsets
    : ∀ offset ∈ [0, 12, 24, 48, 72],
        ∃ delay,
          OffsetReached (stoppedClock now) (now + config.npciRules.noticeLeadTime)
            (now + config.npciRules.noticeLeadTime + config.selfImposed.maxScheduleWindow) offset
            delay

section Agreement

variable {request : ComplianceCheckRequest} {event : PaymentFailureEvent} {config : AppConfig}
  {now : Datetime}

/-- A treatment failure is left to be noticed exactly where it is eligible. -/
theorem leftToNotice_iff (asks : Asks request event)
    : (∃ case, LeftToNotice event config now case) ↔ Eligible config event := by
  obtain ⟨fresh, created⟩ := opening_created event asks.instrument ((stoppedClock now).now 0)
  obtain ⟨verdict, classified⟩ := classifyFailure_ok config
    (asks.reasonCode ▸ Json.isCode_str request.reasonCode)
    (show event.errorReason.isCode by
      rw [asks.errorReason, ComplianceCheckRequest.reason]
      split
      · exact Json.isCode_null
      · exact Json.isCode_str _)
  rw [← routeNewFailure_noticed_iff created classified]
  constructor
  · rintro ⟨case, ⟨event', entries, handled⟩, pending⟩
    have routed : handleNewFailure event config (stoppedClock now) = .ok (case, event', entries) :=
      handled
    rw [handleNewFailure_eq, asks.treated] at routed
    exact ⟨_, routed, pending⟩
  · rintro ⟨⟨case, event', entries⟩, routed, pending⟩
    refine ⟨case, ⟨event', entries, ?_⟩, pending⟩
    rw [← asks.treated, ← handleNewFailure_eq] at routed
    exact routed

/-- A first retry is scheduled at the floor, pushed out of the windows, where there is a spacing
entry at all and the schedule is in the calendar.
-/
theorem firstSlot {case : RecoveryCase} {entries : List AuditEntry} {decision : RetryDecision}
    (unused : case.retriesUsed = 0)
    (sent
      : (markNoticeSent case config (stoppedClock now) none none none).result
        = .ok (entries, decision))
    : ∃ spacing floor,
        config.selfImposed.spacing? 0 = some spacing
        ∧ floor = floorAt now config.npciRules.noticeLeadTime spacing none
        ∧ decision.scheduledAt = avoidPeakWindows floor config
        ∧ BoundsReached config now spacing none
        ∧ ∀ offset ∈ [0, 12, 24, 48, 72],
            ∃ delay,
              OffsetReached (stoppedClock now) floor
                (floor + config.selfImposed.maxScheduleWindow) offset delay := by
  have computed := markNoticeSent_computed case config (stoppedClock now) sent
  obtain ⟨spacing, floor, entry, floored, bounds, chosen⟩ :=
    computeScheduledAt_iff.mp ⟨_, computed⟩
  rw [unused] at entry
  refine ⟨spacing, floor, entry, floored, ?_, bounds, chosen.reached⟩
  cases chosen with
  | fallback generated aimed resolved reached moved =>
      have delayed := stoppedClock_identity now _ _ resolved
      cases aimed
      rw [moved, delayed]
      simp only [stoppedClock]
      congr 1
      ring

/-- The notice of a first retry that nothing hinders is sent, for the end of the lead time. -/
theorem Unhindered.sent (unhindered : Unhindered event config now) (loaded : config.Loaded)
    {case : RecoveryCase} (unused : case.retriesUsed = 0) (pending : case.state = .noticePending)
    : ∃ entries decision,
        (markNoticeSent case config (stoppedClock now) none none none).result
          = .ok (entries, decision)
        ∧ decision.scheduledAt = now + config.npciRules.noticeLeadTime := by
  obtain ⟨_, ⟨spacing, entry, spaced⟩, peak, notice, latest, offsets⟩ := unhindered
  have lead := loaded.leadTime
  have gap : 0 ≤ spacing := loaded.spacing spacing (List.mem_of_getElem? entry)
  have within := (reaches_iff lead).mp notice
  have floored : floorAt now config.npciRules.noticeLeadTime spacing none
      = now + config.npciRules.noticeLeadTime :=
    max_eq_left (by simpa using spaced)
  have bounds : BoundsReached config now spacing none := {
    notice := notice
    spaced := (reaches_iff gap).mpr (by simp only [Option.getD_none]; linarith)
    latest := by rwa [floored]
  }
  obtain ⟨candidates, generated⟩ := (generateLegalCandidates_ok_iff (stoppedClock_resolves now)
    (le_add_of_nonneg_right loaded.scheduleWindow)).mpr offsets
  have resolved
      : (stoppedClock now).resolveDelay (now + config.npciRules.noticeLeadTime - now)
        = .ok config.npciRules.noticeLeadTime := by
    rw [add_sub_cancel_left]
    exact if_neg (not_lt.mpr lead)
  have converted : Reaches (now + config.npciRules.noticeLeadTime) istOffset := by
    obtain ⟨delay, start⟩ := offsets 0 (by decide)
    cases stoppedClock_identity now _ _ start.resolved
    have window := loaded.scheduleWindow
    have here := start.converted
    rw [show hours 0 = 0 by decide, add_zero] at here
    exact here (by linarith)
  have chosen : Chosen config (stoppedClock now) none (now + config.npciRules.noticeLeadTime)
      (now + config.npciRules.noticeLeadTime + config.selfImposed.maxScheduleWindow)
      (now + config.npciRules.noticeLeadTime) none :=
    .fallback generated rfl resolved ⟨notice, converted⟩
      ((avoidPeakWindows_eq_iff loaded).mpr peak).symm
  obtain ⟨reasoning, computed⟩ := (@computeScheduledAt_iff config (stoppedClock now) 0 none none
    none _).mpr ⟨spacing, _, entry, floored.symm, bounds, chosen⟩
  exact markNoticeSent_of_computed case config (stoppedClock now) pending (unused ▸ computed)

/-- A case that is left to be noticed has not been retried. -/
theorem LeftToNotice.unused {case : RecoveryCase} (left : LeftToNotice event config now case)
    : case.retriesUsed = 0 := by
  obtain ⟨⟨event', entries, handled⟩, _⟩ := left
  exact (@handleNewFailure_opened event event' config (stoppedClock now) case entries
    handled).retriesUsed

/-- The answer to a question is the classification, with the end of the lead time. -/
theorem complianceCheck_answer {rails : Rails} {declineClass : DeclineClass} {retryable : Bool}
    (classified
      : classifyFailure config (.str request.reasonCode) request.reason
        = .ok (declineClass, retryable))
    : (∃ answer,
        complianceCheck request config rails (stoppedClock now) = .ok answer
        ∧ Agrees answer event config now)
      ↔ (retryable = true → Reaches now config.npciRules.noticeLeadTime)
        ∧ (retryable = true ↔ ∃ case, LeftToNotice event config now case)
        ∧ (retryable = true
          → ∀ case,
              LeftToNotice event config now case
              → ∃ entries decision,
                  (markNoticeSent case config (stoppedClock now) none none none).result
                    = .ok (entries, decision)
                  ∧ decision.scheduledAt = now + config.npciRules.noticeLeadTime) := by
  have rendered (decision : RetryDecision)
      : some (isoformat (now + config.npciRules.noticeLeadTime))
            = some (isoformat decision.scheduledAt)
          ↔ decision.scheduledAt = now + config.npciRules.noticeLeadTime := by
    rw [Option.some.injEq, isoformat_injective.eq_iff, eq_comm]
  cases retryable with
  | false =>
      constructor
      · rintro ⟨answer, answered, agrees⟩
        simp only [complianceCheck, classified, bind, Except.bind] at answered
        cases answered
        exact ⟨by simp, agrees.allowed, by simp⟩
      · rintro ⟨_, allowed, _⟩
        refine ⟨_, by simp only [complianceCheck, classified, bind, Except.bind]; rfl, allowed, ?_⟩
        simp
  | true =>
      have now_eq : (stoppedClock now).now 0 = now := rfl
      by_cases notice : Reaches now config.npciRules.noticeLeadTime
      · constructor
        · rintro ⟨answer, answered, agrees⟩
          simp only [complianceCheck, classified, now_eq, plus_ok notice, bind, Except.bind, if_true,
            Except.map] at answered
          cases answered
          refine ⟨fun _ => notice, agrees.allowed, fun _ case left => ?_⟩
          obtain ⟨entries, decision, sent, same⟩ := agrees.nextEligible rfl case left
          exact ⟨entries, decision, sent, (rendered decision).mp same⟩
        · rintro ⟨_, allowed, sends⟩
          refine ⟨_, by
            simp only [complianceCheck, classified, now_eq, plus_ok notice, bind, Except.bind,
              if_true, Except.map]
            rfl, allowed, fun _ case left => ?_⟩
          obtain ⟨entries, decision, sent, same⟩ := sends rfl case left
          exact ⟨entries, decision, sent, (rendered decision).mpr same⟩
      · refine iff_of_false ?_ fun agrees => notice (agrees.1 rfl)
        rintro ⟨answer, answered, _⟩
        simp only [complianceCheck, classified, now_eq, plus, if_neg notice, bind, Except.bind,
          if_true, Except.map] at answered
        cases answered

/-- The oracle agrees with the state machine about exactly the failures it refuses and those
that nothing it leaves out hinders. Witness: the slot is pushed from the later of the two floors,
and is never before the end of the lead time.
-/
theorem complianceCheck_agrees_iff (loaded : config.Loaded) (rails : Rails)
    (asks : Asks request event)
    : (∃ answer,
        complianceCheck request config rails (stoppedClock now) = .ok answer
        ∧ Agrees answer event config now)
      ↔ (classifyFailure config (.str request.reasonCode) request.reason = .ok (.technical, true)
        → Unhindered event config now) := by
  have left := @leftToNotice_iff request event config now asks
  obtain ⟨verdict, classified⟩ := classifyFailure_ok config (Json.isCode_str request.reasonCode)
    (show request.reason.isCode by
      rw [ComplianceCheckRequest.reason]
      split
      · exact Json.isCode_null
      · exact Json.isCode_str _)
  have eligible : Eligible config event
      ↔ verdict = (.technical, true)
        ∧ ∃ ceiling,
            config.npciRules.afaFreeCeiling.lookup "default" = some ceiling
            ∧ event.amount ≤ ceiling := by
    unfold Eligible
    rw [asks.reasonCode, asks.errorReason, classified]
    simp only [Tracked.afaCeiling_uncategorized asks.uncategorized]
    rcases classifyFailure_class classified with rfl | rfl <;> simp
  rw [complianceCheck_answer classified, classified]
  rcases classifyFailure_class classified with rfl | rfl
  · simp only [forall_const, true_iff]
    constructor
    · rintro ⟨notice, ⟨case, noticed⟩, sends⟩
      obtain ⟨entries, decision, sent, scheduled⟩ := sends case noticed
      obtain ⟨spacing, floor, entry, floored, slot, bounds, reached⟩ :=
        firstSlot noticed.unused sent
      have above := le_avoidPeakWindows loaded floor
      rw [← slot, scheduled] at above
      have spaced : now + spacing ≤ now + config.npciRules.noticeLeadTime :=
        le_trans (floored ▸ le_max_right _ _) above
      have same : floor = now + config.npciRules.noticeLeadTime :=
        floored.trans (max_eq_left spaced)
      have latest := bounds.latest
      rw [← floored, same] at latest
      rw [same] at slot reached
      rw [scheduled] at slot
      exact {
        ceiling := (eligible.mp (left.mp ⟨case, noticed⟩)).2
        spacing := ⟨spacing, entry, by linarith⟩
        peak := (avoidPeakWindows_eq_iff loaded).mp slot.symm
        notice := notice
        latest := latest
        offsets := reached
      }
    · intro unhindered
      exact ⟨unhindered.notice, left.mpr (eligible.mpr ⟨rfl, unhindered.ceiling⟩),
        fun case noticed => unhindered.sent loaded noticed.unused noticed.2⟩
  · simp [left, eligible]

end Agreement

/-- The rails of the shipped configuration. -/
def shippedRails : Rails where
  rates := [("upi", 13 / 20), ("card", 7 / 10), ("nach", 3 / 4)]
  listed := by simp

/-- A question about a timeout of the given amount. -/
def timeoutRequest (amount : Int) (amount_pos : 0 < amount) : ComplianceCheckRequest where
  reasonCode := "upi_timeout"
  amountPaise := amount
  errorReason := none
  amountPaise_pos := amount_pos

/-- A first timeout of the given amount, without a category. -/
def timeoutDecline (amount : Int) (amount_pos : 0 < amount) : PaymentFailureEvent :=
  { technicalDecline with amount := amount, amount_pos := amount_pos }

theorem asks_timeout {amount : Int} (amount_pos : 0 < amount)
    : Asks (timeoutRequest amount amount_pos) (timeoutDecline amount amount_pos) where
  reasonCode := rfl
  errorReason := rfl
  amount := rfl
  uncategorized := rfl
  treated := by
    show isControlCase "pay_2" = false
    decide +kernel
  instrument := by
    show "card_1" ≠ ""
    decide

/-- What decides about a timeout of ₹500, asked for early in the morning. -/
theorem complianceCheck_agrees_iff_small
    : (∃ answer,
        complianceCheck (timeoutRequest 50000 (by decide)) (shippedConfig .prod) shippedRails
            (stoppedClock 0)
          = .ok answer
        ∧ Agrees answer (timeoutDecline 50000 (by decide)) (shippedConfig .prod) 0)
      ↔ (classifyFailure (shippedConfig .prod)
              (.str (timeoutRequest 50000 (by decide)).reasonCode)
              (timeoutRequest 50000 (by decide)).reason
            = .ok (.technical, true)
          → Unhindered (timeoutDecline 50000 (by decide)) (shippedConfig .prod) 0) :=
  complianceCheck_agrees_iff (shippedConfig_loaded .prod) shippedRails (asks_timeout (by decide))

/-- A timeout of ₹20,000 is allowed by the oracle, and needs authentication. -/
theorem complianceCheck_disagrees
    : ∃ answer,
        complianceCheck (timeoutRequest 2000000 (by decide)) (shippedConfig .prod) shippedRails
            (stoppedClock 0)
          = .ok answer
        ∧ answer.allowed = true
        ∧ Asks (timeoutRequest 2000000 (by decide)) (timeoutDecline 2000000 (by decide))
        ∧ ¬ Agrees answer (timeoutDecline 2000000 (by decide)) (shippedConfig .prod) 0 := by
  refine ⟨_, rfl, rfl, asks_timeout (by decide), fun agrees => ?_⟩
  have refused
      : (handlePaymentFailed none (timeoutDecline 2000000 (by decide)) (shippedConfig .prod)
          (stoppedClock 0)).map (·.1.state)
        = .ok .afaRequired := by
    decide +kernel
  obtain ⟨case, ⟨event', entries, handled⟩, pending⟩ := agrees.allowed.mp rfl
  rw [handled] at refused
  cases pending.symm.trans (Except.ok.inj refused)

end RecoveryAgent.StateMachine
