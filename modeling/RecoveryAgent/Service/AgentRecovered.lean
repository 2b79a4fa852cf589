import RecoveryAgent.Service.Histories

/-! Whose recoveries the agent's headline counts (`agent_recovered` of `dashboard_metrics`).
RECOVERED is entered from RETRY_EXECUTED, but also by a late payment from ESCALATED and from
AFA_REQUIRED, which a case can be opened in.
-/

namespace RecoveryAgent

open StateMachine

namespace StateMachine.Tracked

/-- The agent has executed a retry for the case. -/
def Executed (tracked : Tracked) : Prop := ∃ entry ∈ tracked.trail, entry.toState = .retryExecuted

/-- A case counted in the headline without an execution. -/
structure Unearned (tracked : Tracked) : Prop where
  counted : agentRecovered tracked.case
  unexecuted : ¬ tracked.Executed

/-- What the headline relies on: an execution leaves its entry, and the bucket of a case
decides its states.
-/
structure Bucketed (tracked : Tracked) : Prop where
  executed : tracked.case.state = .retryExecuted → tracked.Executed
  bucket : tracked.case.bucket ≠ none
  control : tracked.case.bucket = some .control → tracked.case.state ∈ controlStates

theorem Bucketed.opened {event : PaymentFailureEvent} {config : AppConfig} {clock : Clock}
    {start : Tracked} (opened : Tracked.opened event config clock = .ok start)
    : Bucketed start ∧ start.case.state ≠ .recovered := by
  unfold Tracked.opened handlePaymentFailed at opened
  dsimp only at opened
  cases created : handleNewFailure event config clock with
  | error raised => rw [created] at opened; cases opened
  | ok done =>
      rw [created] at opened
      cases opened
      have fresh := handleNewFailure_opened created
      have state := fresh.state
      refine ⟨⟨fun executed => ?_, fresh.bucketed, fun control => ?_⟩, fun recovered => ?_⟩
      · dsimp only at executed
        simp [openingState, executed] at state
      · dsimp only at control ⊢
        rw [fresh.held control]
        decide
      · dsimp only at recovered
        simp [openingState, recovered] at state

section Acted

variable {config : AppConfig} {now : Datetime} {case case' : RecoveryCase}
  {entries : List AuditEntry}

/-- A case is in RETRY_EXECUTED when it was, or when an entry says that it got there. -/
theorem Acted.executed (acted : Acted config now case case' entries)
    (reached : case'.state = .retryExecuted)
    : case.state = .retryExecuted ∨ ∃ entry ∈ entries, entry.toState = .retryExecuted := by
  cases acted with
  | moved step =>
      cases step with
      | unchanged => exact .inl reached
      | answered answer =>
          cases answer with
          | noted rule cited => exact .inl reached
          | settled settles outcome rule cited =>
              rcases settles.target with rfl | rfl | rfl | rfl <;> cases reached
          | evaluated executed eligible rule cited => exact .inl executed
      | triggered triggers rule cited => exact .inr ⟨_, List.mem_singleton_self _, reached⟩
      | noticeLost pending => cases reached
      | noticed pending scheduledAt => cases reached
  | counted executed => exact .inl executed
  | resolved escalated note => cases reached
  | distressed scheduled => cases reached

/-- The states of the control group are not left. -/
theorem Acted.control (acted : Acted config now case case' entries)
    (held : case.state ∈ controlStates)
    : case'.state ∈ controlStates := by
  cases acted with
  | moved step => exact step.control held
  | counted executed => exact held
  | resolved escalated note => simp [escalated, controlStates] at held
  | distressed scheduled => simp [scheduled, controlStates] at held

/-- A case is recovered when it was, from RETRY_EXECUTED, or late. -/
theorem Acted.recovered (acted : Acted config now case case' entries)
    (reached : case'.state = .recovered)
    : case.state = .recovered ∨ case.state = .retryExecuted
      ∨ case.state = .escalated ∨ case.state = .afaRequired := by
  cases acted with
  | moved step =>
      cases step with
      | unchanged => exact .inl reached
      | answered answer =>
          cases answer with
          | noted rule cited => exact .inl reached
          | settled settles outcome rule cited =>
              dsimp only at reached
              generalize case.state = state at settles ⊢
              cases settles <;> simp_all
          | evaluated executed eligible rule cited => exact .inr (.inl executed)
      | triggered triggers rule cited =>
          dsimp only at reached
          generalize case.state = state at triggers
          cases triggers <;> cases reached
      | noticeLost pending => cases reached
      | noticed pending scheduledAt => cases reached
  | counted executed => exact .inr (.inl executed)
  | resolved escalated note => cases reached
  | distressed scheduled => cases reached

end Acted

theorem Executed.act {tracked : Tracked} (executed : tracked.Executed) (config : AppConfig)
    (step : Action × Clock)
    : (tracked.act config step).Executed := by
  obtain ⟨entry, member, target⟩ := executed
  obtain ⟨entries, appended, _⟩ := act_acted config tracked step
  exact ⟨entry, by rw [appended]; exact List.mem_append_left _ member, target⟩

/-- Every action keeps what the headline relies on. -/
theorem Bucketed.act {tracked : Tracked} (bucketed : Bucketed tracked) (config : AppConfig)
    (step : Action × Clock)
    : Bucketed (tracked.act config step) := by
  obtain ⟨entries, appended, acted⟩ := act_acted config tracked step
  have same := acted.sameCase.bucket
  refine ⟨fun reached => ?_, same ▸ bucketed.bucket, fun control => ?_⟩
  · rcases acted.executed reached with before | ⟨entry, member, target⟩
    · exact (bucketed.executed before).act config step
    · exact ⟨entry, by rw [appended]; exact List.mem_append_right _ member, target⟩
  · exact acted.control (bucketed.control (same ▸ control))

/-- Only a success of the whole amount recovers an escalated case, or one held by its
amount.
-/
theorem act_late {tracked : Tracked} {config : AppConfig} {step : Action × Clock}
    (late : tracked.case.state = .escalated ∨ tracked.case.state = .afaRequired)
    (recovered : (tracked.act config step).case.state = .recovered)
    : ∃ capture,
        step.1 = .called (.paymentSucceeded capture)
        ∧ capture.amount = tracked.case.originalAmount := by
  obtain ⟨action, clock⟩ := step
  cases action with
  | called operation =>
      change (call config tracked.case clock operation).1.state = .recovered at recovered
      cases operation with
      | paymentSucceeded capture =>
          refine ⟨capture, rfl, ?_⟩
          by_contra partly
          have same := @handlePaymentSuccess_paid clock tracked.case capture partly
          rw [call, same] at recovered
          rcases late with state | state <;> simp [state] at recovered
      | paymentFailed event =>
          rcases late with state | state <;>
            simp [call, handlePaymentFailed, handleExistingFailure, state, kept, Except.map]
              at recovered
      | markNoticeSent reasonCode previous bandit =>
          rcases late with state | state <;>
            simp [call, StateMachine.markNoticeSent, state, kept, Except.map] at recovered
      | markRetryExecuted decision =>
          rcases late with state | state <;>
            simp [call, StateMachine.markRetryExecuted, state, kept, Except.map] at recovered
      | attemptExecution decision commit =>
          rcases late with state | state <;>
            simp [call, StateMachine.attemptExecution, state, kept, Except.map] at recovered
      | applyThrottle =>
          rcases late with state | state <;>
            simp [call, StateMachine.applyThrottle, trigger, state, kept] at recovered
      | releaseThrottle =>
          rcases late with state | state <;>
            simp [call, StateMachine.releaseThrottle, trigger, state, kept] at recovered
  | resolved note => rcases late with state | state <;> simp [act, resolve, state] at recovered
  | distressed => rcases late with state | state <;> simp [act, distress, state] at recovered

/-- A late payment for a case the agent never executed a retry for. -/
structure LateUnexecuted (tracked : Tracked) (action : Action) : Prop where
  paid
    : ∃ capture,
        action = .called (.paymentSucceeded capture)
        ∧ capture.amount = tracked.case.originalAmount
  late : tracked.case.state = .escalated ∨ tracked.case.state = .afaRequired
  unexecuted : ¬ tracked.Executed

/-- A case enters the headline unearned by such a payment only. -/
theorem unearned_act {tracked : Tracked} (bucketed : Bucketed tracked) {config : AppConfig}
    {step : Action × Clock} (unearned : Unearned (tracked.act config step))
    : Unearned tracked ∨ LateUnexecuted tracked step.1 := by
  obtain ⟨entries, appended, acted⟩ := act_acted config tracked step
  have counted := unearned.counted
  simp only [agentRecovered, decide_eq_true_eq] at counted
  have unexecuted : ¬ tracked.Executed := fun executed =>
    unearned.unexecuted (executed.act config step)
  rcases acted.recovered counted.2 with before | executed | late
  · refine .inl ⟨?_, unexecuted⟩
    simp only [agentRecovered, decide_eq_true_eq]
    exact ⟨acted.sameCase.bucket ▸ counted.1, before⟩
  · exact absurd (bucketed.executed executed) unexecuted
  · exact .inr ⟨act_late late counted.2, late, unexecuted⟩

/-- An unearned case stays one: nothing more happens to a recovered case. -/
theorem Unearned.act {tracked : Tracked} (unearned : Unearned tracked) (config : AppConfig)
    (step : Action × Clock)
    : Unearned (tracked.act config step) := by
  obtain ⟨entries, appended, acted⟩ := act_acted config tracked step
  have counted := unearned.counted
  simp only [agentRecovered, decide_eq_true_eq] at counted
  have closed : closedState tracked.case.state := by rw [counted.2]; decide
  obtain ⟨same, still⟩ := acted.closed closed
  refine ⟨same ▸ unearned.counted, ?_⟩
  rintro ⟨entry, member, target⟩
  rw [appended] at member
  rcases List.mem_append.mp member with old | new
  · exact unearned.unexecuted ⟨entry, old, target⟩
  · rw [still entry new, counted.2] at target
    cases target

/-- Such a payment makes the case an unearned one. -/
theorem LateUnexecuted.unearned {tracked : Tracked} (bucketed : Bucketed tracked)
    {action : Action} (late : LateUnexecuted tracked action) (config : AppConfig)
    (clock : Clock)
    : Unearned (tracked.act config (action, clock)) := by
  obtain ⟨⟨capture, rfl, whole⟩, late, unexecuted⟩ := late
  have treated : tracked.case.bucket = some .treatment := by
    cases bucket : tracked.case.bucket with
    | none => exact absurd bucket bucketed.bucket
    | some assigned =>
        cases assigned with
        | treatment => rfl
        | control =>
            have held := bucketed.control bucket
            rcases late with state | state <;> simp [state, controlStates] at held
  have paid : tracked.act config (.called (.paymentSucceeded capture), clock)
      = ⟨{ tracked.case with state := .recovered },
          tracked.trail ++ [audit tracked.case.caseId tracked.case.state .recovered
            "late_success_reconciled" (clock.now 0)]⟩ := by
    rcases late with state | state <;>
      simp [act, perform, call, handlePaymentSuccess, whole, treated, state, awaitsExecution]
  rw [paid]
  refine ⟨by simp [agentRecovered, treated], ?_⟩
  rintro ⟨entry, member, target⟩
  rcases List.mem_append.mp member with old | new
  · exact unexecuted ⟨entry, old, target⟩
  · rw [List.mem_singleton.mp new] at target
    cases target

end StateMachine.Tracked

/-- The cases under recovery with their trails, by their id. -/
abbrev CaseBook := Table fun tracked : Tracked => tracked.case.caseId

/-- A first failure opens a case, or something is done to one. -/
inductive CaseBook.Event where
  | opened (event : PaymentFailureEvent)
  | acted (caseId : String) (action : Action)

namespace CaseBook

theorem find?_caseId {book : CaseBook} {caseId : String} {tracked : Tracked}
    (stored : book.find? caseId = some tracked)
    : tracked.case.caseId = caseId :=
  @Table.find?_key _ _ (fun tracked : Tracked => tracked.case.caseId) _ book caseId tracked stored

/-- One event, with the clock readings it sees. A case is opened once. -/
def step (config : AppConfig) (book : CaseBook) : Event × Clock → CaseBook
  | (.opened event, clock) =>
      match Tracked.opened event config clock with
      | .ok tracked => (book.insert? tracked).getD book
      | .error _ => book
  | (.acted caseId action, clock) =>
      match book.find? caseId with
      | some tracked => book.update (tracked.act config (action, clock))
      | none => book

/-- What one event does to the case of a given id. -/
inductive Steps (config : AppConfig) (event : Event × Clock) (caseId : String)
    : Option Tracked → Option Tracked → Prop where
  | same (row : Option Tracked) : Steps config event caseId row row
  | opened {first : PaymentFailureEvent} {tracked : Tracked}
      (opened : Tracked.opened first config event.2 = .ok tracked)
    : Steps config event caseId none (some tracked)
  | acted {action : Action} (acts : event.1 = .acted caseId action) (tracked : Tracked)
    : Steps config event caseId (some tracked) (some (tracked.act config (action, event.2)))

theorem step_steps (config : AppConfig) (book : CaseBook) (event : Event × Clock)
    (caseId : String)
    : Steps config event caseId (book.find? caseId) ((book.step config event).find? caseId) := by
  obtain ⟨event, clock⟩ := event
  cases event with
  | opened first =>
      dsimp only [CaseBook.step]
      cases opened : Tracked.opened first config clock with
      | error raised => exact .same _
      | ok tracked =>
          dsimp only
          cases inserted : book.insert? tracked with
          | none => exact .same _
          | some book' =>
              rw [Option.getD_some, Table.find?_insert inserted]
              split
              · next same =>
                  rw [same, (Table.insert?_some inserted).1]
                  exact .opened opened
              · exact .same _
  | acted other action =>
      dsimp only [CaseBook.step]
      cases stored : book.find? other with
      | none => exact .same _
      | some tracked =>
          obtain ⟨_, _, acted⟩ := Tracked.act_acted config tracked (action, clock)
          have id_eq := find?_caseId stored
          have named : (tracked.act config (action, clock)).case.caseId = other :=
            acted.sameCase.caseId.trans id_eq
          rw [Table.find?_update, named]
          split
          · next same =>
              rw [same, stored]
              exact .acted rfl tracked
          · exact .same _

/-- The cases under recovery are what the headline relies on. -/
def Bucketed (book : CaseBook) : Prop :=
  ∀ caseId tracked, book.find? caseId = some tracked → tracked.Bucketed

/-- No case is counted unearned. -/
def Earned (book : CaseBook) : Prop :=
  ∀ caseId tracked, book.find? caseId = some tracked → ¬ tracked.Unearned

/-- A late payment for a case the agent never executed a retry for. -/
def LateUnexecuted (book : CaseBook) (event : Event × Clock) : Prop :=
  ∃ caseId action tracked,
    event.1 = .acted caseId action
    ∧ book.find? caseId = some tracked
    ∧ tracked.LateUnexecuted action

variable {config : AppConfig} {book : CaseBook} {event : Event × Clock}

theorem Bucketed.step (bucketed : book.Bucketed) : Bucketed (book.step config event) := by
  intro caseId found stored
  have steps := step_steps config book event caseId
  generalize before : book.find? caseId = row at steps
  rw [stored] at steps
  cases steps with
  | same => exact bucketed caseId found before
  | opened opened => exact (Tracked.Bucketed.opened opened).1
  | acted acts tracked => exact (bucketed caseId tracked before).act config _

/-- Without a late payment for an unexecuted case, no case becomes counted unearned. -/
theorem Earned.step (earned : book.Earned) (bucketed : book.Bucketed)
    (timely : ¬ book.LateUnexecuted event)
    : Earned (book.step config event) := by
  intro caseId found stored unearned
  have steps := step_steps config book event caseId
  generalize before : book.find? caseId = row at steps
  rw [stored] at steps
  cases steps with
  | same => exact earned caseId found before unearned
  | opened opened =>
      have counted := unearned.counted
      simp only [agentRecovered, decide_eq_true_eq] at counted
      exact (Tracked.Bucketed.opened opened).2 counted.2
  | @acted action acts tracked =>
      rcases Tracked.unearned_act (bucketed caseId tracked before) unearned with old | late
      · exact earned caseId tracked before old
      · exact timely ⟨caseId, action, tracked, acts, before, late⟩

/-- An unearned case stays among the counted ones. -/
theorem not_earned_step (unearned : ¬ book.Earned) : ¬ Earned (book.step config event) := by
  intro earned
  apply unearned
  intro caseId tracked stored counted
  have steps := step_steps config book event caseId
  generalize after : (book.step config event).find? caseId = row at steps
  rw [stored] at steps
  cases steps with
  | same => exact earned caseId tracked after counted
  | acted acts => exact earned caseId _ after (counted.act config _)

/-- A late payment for an unexecuted case makes it a counted one. -/
theorem LateUnexecuted.step (bucketed : book.Bucketed) (late : book.LateUnexecuted event)
    : ¬ Earned (book.step config event) := by
  intro earned
  obtain ⟨event, clock⟩ := event
  obtain ⟨caseId, action, tracked, acts, stored, late⟩ := late
  dsimp only at acts
  subst acts
  have unearned := late.unearned (bucketed caseId tracked stored) config clock
  refine earned caseId (tracked.act config (action, clock)) ?_ unearned
  have id_eq := find?_caseId stored
  obtain ⟨_, _, acted⟩ := Tracked.act_acted config tracked (action, clock)
  have named : (tracked.act config (action, clock)).case.caseId = caseId :=
    acted.sameCase.caseId.trans id_eq
  simp only [CaseBook.step, stored, Table.find?_update, named, if_true, Option.map_some]

end CaseBook

/-- After every run, each case counted in the headline has an execution in its trail if and
only if no payment of the run came late for a case without one. Witness: a case is counted
unearned by such a payment only, and stays so.
-/
theorem agentRecovered_executed_iff (config : AppConfig)
    (events : List (CaseBook.Event × Clock))
    : (∀ tracked ∈ (events.foldl (CaseBook.step config) .empty).rows,
        agentRecovered tracked.case → tracked.Executed)
      ↔ Run.Along (CaseBook.step config) .empty events
          fun book event => ¬ book.LateUnexecuted event := by
  have start : CaseBook.Bucketed .empty := fun _ _ stored => nomatch stored
  have counted (book : CaseBook)
      : (∀ tracked ∈ book.rows, agentRecovered tracked.case → tracked.Executed)
        ↔ book.Earned := by
    constructor
    · intro earned caseId tracked stored unearned
      exact unearned.unexecuted
        (earned tracked (Table.mem_of_find? stored) unearned.counted)
    · intro earned tracked member recovered
      by_contra unexecuted
      exact earned _ tracked (Table.find?_of_mem member) ⟨recovered, unexecuted⟩
  rw [counted]
  constructor
  · rintro earned before event after rfl late
    have bucketed : CaseBook.Bucketed (before.foldl (CaseBook.step config) .empty) :=
      Run.keeps start (fun _ _ kept => kept.step) before
    have spoilt : ¬ CaseBook.Earned (after.foldl (CaseBook.step config)
        (CaseBook.step config (before.foldl (CaseBook.step config) .empty) event)) := by
      apply @Run.keeps _ _ (CaseBook.step config) _ (fun book => ¬ book.Earned)
      · exact late.step bucketed
      · exact fun _ _ unearned => CaseBook.not_earned_step unearned
    rw [List.foldl_append, List.foldl_cons] at earned
    exact spoilt earned
  · intro timely
    apply And.right (a := CaseBook.Bucketed _)
    apply @Run.Along.keeps _ _ (CaseBook.step config) _ _ _ timely
      (fun book => book.Bucketed ∧ book.Earned)
    · exact ⟨start, fun _ _ stored => nomatch stored⟩
    · exact fun _ _ both met => ⟨both.1.step, both.2.step both.1 met⟩

/-- A hard decline whose case is paid late. -/
def lateEvents : List (CaseBook.Event × Clock) := [
  (.opened { technicalDecline with reasonCode := .str "blocked_account" }, stoppedClock 0),
  (.acted "pay_2" (.called (.paymentSucceeded (capture 50000 fiveHundredRupees_pos))),
    stoppedClock (hours 1))]

/-- The headline counts a case for which nothing was executed. -/
theorem agentRecovered_not_executed
    : ¬ ∀ (config : AppConfig) (events : List (CaseBook.Event × Clock)),
        ∀ tracked ∈ (events.foldl (CaseBook.step config) .empty).rows,
          agentRecovered tracked.case → tracked.Executed := by
  intro claimed
  have reached
      : ∃ tracked ∈ (lateEvents.foldl (CaseBook.step (shippedConfig .prod)) .empty).rows,
          agentRecovered tracked.case = true
          ∧ ∀ entry ∈ tracked.trail, entry.toState ≠ .retryExecuted := by
    decide +kernel
  obtain ⟨tracked, member, counted, unexecuted⟩ := reached
  obtain ⟨entry, written, target⟩ := claimed _ _ tracked member counted
  exact unexecuted entry written target

end RecoveryAgent
