import RecoveryAgent.Service.Histories

/-! The observation window of a control case.
The deadline is set when the case is opened and never read again: a success is credited
whenever it comes while the case is held.
-/

namespace RecoveryAgent

namespace StateMachine

namespace Tracked

/-- The step is a success that is handled within the window of the case. -/
def WithinWindow (tracked : Tracked) (step : Action × Clock) : Prop :=
  (∃ event, step.1 = .called (.paymentSucceeded event))
  ∧ ∃ deadline,
      tracked.case.controlObservationDeadline = some deadline ∧ step.2.now 0 ≤ deadline

/-- If the step credits the case with a natural recovery, it is within the window. -/
structure CreditedInTime (config : AppConfig) (tracked : Tracked) (step : Action × Clock)
    : Prop where
  state
    : tracked.case.state ≠ .controlRecovered
      → (tracked.act config step).case.state = .controlRecovered
      → tracked.WithinWindow step
  outcome
    : tracked.case.controlOutcome ≠ some .recoveredNaturally
      → (tracked.act config step).case.controlOutcome = some .recoveredNaturally
      → tracked.WithinWindow step

/-- A success of the amount of a case that is still held comes by the deadline. -/
def Punctual (tracked : Tracked) (step : Action × Clock) : Prop :=
  ∀ event deadline,
    step.1 = .called (.paymentSucceeded event)
    → event.amount = tracked.case.originalAmount
    → tracked.case.state = .controlHeld
    → tracked.case.controlObservationDeadline = some deadline
    → step.2.now 0 ≤ deadline

section Window

variable {config : AppConfig} {tracked : Tracked}

/-- Every action leaves the deadline as it was set. -/
theorem act_deadline (config : AppConfig) (tracked : Tracked) (step : Action × Clock)
    : (tracked.act config step).case.controlObservationDeadline
      = tracked.case.controlObservationDeadline := by
  obtain ⟨entries, _, acted⟩ := act_acted config tracked step
  generalize (tracked.act config step).case = case' at acted ⊢
  cases acted with
  | moved step =>
      cases step with
      | answered answer => cases answer <;> rfl
      | _ => rfl
  | _ => rfl

/-- A control case counts as naturally recovered exactly in CONTROL_RECOVERED. -/
theorem Observed.recovered_iff (observed : Observed tracked)
    : tracked.case.controlOutcome = some .recoveredNaturally
      ↔ tracked.case.state = .controlRecovered := by
  rcases observed.outcome with ⟨state, outcome⟩ | ⟨state, outcome⟩ | ⟨state, outcome⟩ <;>
    simp [state, outcome]

/-- Only a success of its amount credits a case, and only a held one. -/
theorem Observed.credited (observed : Observed tracked) {step : Action × Clock}
    (uncredited : tracked.case.state ≠ .controlRecovered)
    (credited : (tracked.act config step).case.state = .controlRecovered)
    : ∃ event,
        step.1 = .called (.paymentSucceeded event)
        ∧ event.amount = tracked.case.originalAmount ∧ tracked.case.state = .controlHeld := by
  obtain ⟨action, clock⟩ := step
  have held : tracked.case.state ∈ controlStates := by
    rcases observed.outcome with ⟨state, _⟩ | ⟨state, _⟩ | ⟨state, _⟩ <;> rw [state] <;> decide
  by_cases event : ∃ operation, action = .called operation
      ∧ ((∃ failure, operation = .paymentFailed failure)
        ∨ ∃ success, operation = .paymentSucceeded success)
  · obtain ⟨_, rfl, ⟨failure, rfl⟩ | ⟨success, rfl⟩⟩ := event
    · have unexecuted : tracked.case.state ≠ .retryExecuted :=
        fun same => by simp [same, controlStates] at held
      simp only [Tracked.act, perform, call, handlePaymentFailed, handleExistingFailure, unexecuted,
        ne_eq, not_false_eq_true, if_true] at credited
      split at credited
      · cases credited
      · exact absurd credited uncredited
    · simp only [Tracked.act, perform, call, handlePaymentSuccess] at credited
      split at credited
      · exact absurd credited uncredited
      · next matching =>
          rw [if_pos observed.bucket] at credited
          split at credited
          · exact absurd credited uncredited
          · next held => exact ⟨success, rfl, not_not.mp matching, not_not.mp held⟩
  · rw [act_refused config held] at credited
    · exact absurd credited uncredited
    · intro operation called
      exact ⟨fun failure same => event ⟨operation, called, .inl ⟨failure, same⟩⟩,
        fun success same => event ⟨operation, called, .inr ⟨success, same⟩⟩⟩

/-- A success of its amount credits a held case, whenever it comes. -/
theorem Observed.credits (observed : Observed tracked) {event : PaymentSuccessEvent}
    (matching : event.amount = tracked.case.originalAmount)
    (held : tracked.case.state = .controlHeld) (clock : Clock)
    : (tracked.act config (.called (.paymentSucceeded event), clock)).case.state
      = .controlRecovered := by
  simp [Tracked.act, perform, call, handlePaymentSuccess, matching, observed.bucket, held]

/-- A step on a control case credits it in time exactly if it is punctual. -/
theorem Observed.creditedInTime_iff (observed : Observed tracked) {deadline : Datetime}
    (window : tracked.case.controlObservationDeadline = some deadline) (step : Action × Clock)
    : CreditedInTime config tracked step ↔ Punctual tracked step := by
  constructor
  · intro inTime event deadline' called matching held window'
    obtain ⟨action, clock⟩ := step
    obtain rfl : action = .called (.paymentSucceeded event) := called
    obtain ⟨_, deadline'', window'', within⟩ :=
      inTime.state (by simp [held]) (observed.credits matching held clock)
    cases window'.symm.trans window''
    exact within
  · intro punctual
    have within (uncredited : tracked.case.state ≠ .controlRecovered)
        (credited : (tracked.act config step).case.state = .controlRecovered)
        : tracked.WithinWindow step := by
      obtain ⟨event, called, matching, held⟩ := observed.credited uncredited credited
      exact ⟨⟨event, called⟩, deadline, window,
        punctual event deadline called matching held window⟩
    refine ⟨within, fun uncredited credited => ?_⟩
    rw [(observed.act config step).recovered_iff] at credited
    exact within (observed.recovered_iff.not.mp uncredited) credited

end Window

end Tracked

/-- A control case is credited in time exactly in the runs that are punctual: every success
of its amount that is handled while it is held is handled by its deadline. Witness: the
deadline stays as it was set, and a held case is credited by any such success.
-/
theorem control_window_iff {event : PaymentFailureEvent} {config : AppConfig} {clock : Clock}
    {start : Tracked} (opened : Tracked.opened event config clock = .ok start)
    (control : start.case.bucket = some .control) (steps : List (Action × Clock))
    : Run.Along (Tracked.act config) start steps (Tracked.CreditedInTime config)
      ↔ Run.Along (Tracked.act config) start steps Tracked.Punctual := by
  obtain ⟨_, _, _, ⟨deadline, window⟩, _⟩ := Tracked.opened_control opened control
  let Windowed (tracked : Tracked) : Prop :=
    tracked.Observed ∧ tracked.case.controlObservationDeadline = some deadline
  have windowed : Windowed start := ⟨.opened opened control, window⟩
  have kept (tracked : Tracked) (step : Action × Clock) (windowed : Windowed tracked)
      : Windowed (tracked.act config step) :=
    ⟨windowed.1.act config step, (Tracked.act_deadline config tracked step).trans windowed.2⟩
  constructor
  · intro inTime
    exact inTime.implies windowed fun _ step windowed inTime =>
      ⟨(windowed.1.creditedInTime_iff windowed.2 step).mp inTime, kept _ step windowed⟩
  · intro punctual
    exact punctual.implies windowed fun _ step windowed punctual =>
      ⟨(windowed.1.creditedInTime_iff windowed.2 step).mpr punctual, kept _ step windowed⟩

/-- A success of the held case. -/
def heldCapture : PaymentSuccessEvent :=
  { capture 50000 fiveHundredRupees_pos with
    caseId := "pay_1"
    caseId_ne := ne_empty _ trivial }

/-- The two conditions on the held case, paid two days after it was opened. -/
theorem control_window_iff_held
    : Run.Along (Tracked.act (shippedConfig .prod)) heldCase
          [(.called (.paymentSucceeded heldCapture), stoppedClock (hours 48))]
          (Tracked.CreditedInTime (shippedConfig .prod))
        ↔ Run.Along (Tracked.act (shippedConfig .prod)) heldCase
          [(.called (.paymentSucceeded heldCapture), stoppedClock (hours 48))]
          Tracked.Punctual :=
  control_window_iff heldCase_opened rfl _

/-- No run of a nondecreasing clock credits a control case late: fails for the held case
that is paid a day after its deadline.
-/
theorem not_credited_in_time
    : ¬ ∀ (event : PaymentFailureEvent) (config : AppConfig) (clock : Clock) (start : Tracked)
        (steps : List (Action × Clock)),
        Tracked.opened event config clock = .ok start
        → start.case.bucket = some .control
        → ((clock :: steps.map Prod.snd).map (·.now 0)).Pairwise (· ≤ ·)
        → Run.Along (Tracked.act config) start steps (Tracked.CreditedInTime config) := by
  intro inTime
  have along := inTime heldDecline (shippedConfig .prod) (stoppedClock 0) heldCase
    [(.called (.paymentSucceeded heldCapture), stoppedClock (hours 96))] heldCase_opened rfl
    (by decide)
  obtain ⟨_, deadline, window, within⟩ := (along [] _ [] rfl).state (by decide) (by decide)
  cases window
  exact absurd within (by decide)

end StateMachine

end RecoveryAgent
