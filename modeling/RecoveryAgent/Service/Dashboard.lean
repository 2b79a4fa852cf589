import RecoveryAgent.Lib.Run
import RecoveryAgent.Core.RetryCap
import RecoveryAgent.Service.Serving

/-! What the dashboard reports as recovered (`dashboard_metrics` of `main.py`).
The three totals are over different cases because the bucket, the state, the control outcome
and the resolution note of a case always fit together.
-/

namespace RecoveryAgent

open StateMachine

-----------------------------------------------------------------------------------------
-- The metrics
-----------------------------------------------------------------------------------------

/-- A case the agent recovered. -/
def agentRecovered (case : RecoveryCase) : Bool :=
  case.bucket = some .treatment ∧ case.state = .recovered

/-- A case a human recovered after its escalation. -/
def humanRecovered (case : RecoveryCase) : Bool :=
  case.resolutionNote = some .recoveredManually

/-- A case of the control bucket with the given outcome. -/
def controlEnded (outcome : ControlOutcome) (case : RecoveryCase) : Bool :=
  case.bucket = some .control ∧ case.controlOutcome = some outcome

/-- A control case that recovered on its own. -/
def controlRecovered : RecoveryCase → Bool := controlEnded .recoveredNaturally

/-- A case the agent still works on. -/
def atRisk (case : RecoveryCase) : Bool :=
  case.state ∈ [.noticePending, .retryScheduled, .throttled]

/-- The amounts of the cases that are counted. -/
def paise (counted : RecoveryCase → Bool) (cases : List RecoveryCase) : Int :=
  ((cases.filter counted).map (·.originalAmount)).sum

/-- A share of all cases, zero where there are none. The source has it as a float. -/
def rate (recovered total : Nat) : Rat :=
  if total = 0 then 0 else recovered / total

structure DashboardMetrics where
  agentRecoveredCount : Nat
  agentRecoveredPaise : Int
  humanRecoveredCount : Nat
  humanRecoveredPaise : Int
  controlRecoveredCount : Nat
  controlRecoveredPaise : Int
  controlStillFailedCount : Nat
  atRiskCount : Nat
  escalatedCount : Nat
  treatmentRecoveryRate : Rat
  controlRecoveryRate : Rat
  incrementalRecoveryRate : Rat
  complianceScore : Rat

/-- `dashboard_metrics` over the listed cases. -/
def dashboardMetrics (cases : List RecoveryCase) : DashboardMetrics :=
  let totalTreatment := cases.countP (·.bucket = some .treatment)
  let totalControl := cases.countP (·.bucket = some .control)
  let treatmentRate := rate (cases.countP agentRecovered) totalTreatment
  let controlRate := rate (cases.countP controlRecovered) totalControl
  {
    agentRecoveredCount := cases.countP agentRecovered
    agentRecoveredPaise := paise agentRecovered cases
    humanRecoveredCount := cases.countP humanRecovered
    humanRecoveredPaise := paise humanRecovered cases
    controlRecoveredCount := cases.countP controlRecovered
    controlRecoveredPaise := paise controlRecovered cases
    controlStillFailedCount := cases.countP (controlEnded .stillFailed)
    atRiskCount := cases.countP atRisk
    escalatedCount := cases.countP (·.state = .escalated)
    treatmentRecoveryRate := treatmentRate
    controlRecoveryRate := controlRate
    incrementalRecoveryRate := treatmentRate - controlRate
    complianceScore := 100
  }

@[simp] theorem paise_cons (counted : RecoveryCase → Bool) (case : RecoveryCase)
    (cases : List RecoveryCase)
    : paise counted (case :: cases)
      = (if counted case then case.originalAmount else 0) + paise counted cases := by
  unfold paise
  cases counts : counted case <;> simp [counts]

/-- No case is counted by two of the three totals. -/
def CountedOnce (case : RecoveryCase) : Prop :=
  ¬ (agentRecovered case ∧ humanRecovered case)
  ∧ ¬ (agentRecovered case ∧ controlRecovered case)
  ∧ ¬ (humanRecovered case ∧ controlRecovered case)

/-- Totals over different cases stay within the total of all, by induction over the cases. -/
theorem paise_le {cases : List RecoveryCase} (once : ∀ case ∈ cases, CountedOnce case)
    : paise agentRecovered cases + paise humanRecovered cases + paise controlRecovered cases
      ≤ (cases.map (·.originalAmount)).sum := by
  induction cases with
  | nil => exact le_refl 0
  | cons case rest ih =>
      obtain ⟨first, later⟩ := List.forall_mem_cons.mp once
      have within := ih later
      have positive := case.originalAmount_pos
      obtain ⟨agentHuman, agentControl, humanControl⟩ := first
      simp only [paise_cons, List.map_cons, List.sum_cons]
      cases agent : agentRecovered case <;> cases human : humanRecovered case <;>
        cases control : controlRecovered case <;> simp_all <;> omega

namespace StateMachine

section Call

variable {config : AppConfig} {clock : Clock} {case case' : RecoveryCase}
  {entries : List AuditEntry}

/-- A case is opened without a resolution and without a recovery. -/
theorem handleNewFailure_unsettled {event event' : PaymentFailureEvent}
    (opened : handleNewFailure event config clock = .ok (case, event', entries))
    : case.resolutionNote = none ∧ case.controlOutcome ≠ some .recoveredNaturally := by
  simp only [handleNewFailure, bind, Except.bind, pure, Except.pure] at opened
  split at opened
  · cases opened
  next fresh created =>
  have unassigned := (RecoveryCase.create_eq created).2.2.2.2.2
  obtain ⟨unresolved, unobserved⟩ := RecoveryCase.create_unsettled created
  simp only [assignBucket_eq unassigned] at opened
  repeat' split at opened
  all_goals cases opened
  all_goals simp [unresolved, unobserved]

/-- A failure is no payment: it recovers no case. -/
theorem handleExistingFailure_unpaid (event : PaymentFailureEvent)
    (closed
      : (handleExistingFailure case event config clock).case.state = .recovered
        ∨ (handleExistingFailure case event config clock).case.controlOutcome
          = some .recoveredNaturally)
    : case.state = .recovered ∨ case.controlOutcome = some .recoveredNaturally := by
  unfold handleExistingFailure at closed
  dsimp only at closed
  split at closed
  · simp at closed
  split at closed
  · exact closed
  split at closed
  · exact closed
  split at closed <;> simpa using Or.inr (by simpa using closed)

/-- A success closes a case as recovered for the whole amount only. -/
theorem handlePaymentSuccess_paid (event : PaymentSuccessEvent)
    (partly : event.amount ≠ case.originalAmount)
    : (handlePaymentSuccess case event clock).1 = case := by
  unfold handlePaymentSuccess
  rw [if_pos partly]

end Call

namespace Tracked

/-- A call that recovers a case has handled a capture of its whole amount. -/
theorem call_paid (config : AppConfig) (case : RecoveryCase) (clock : Clock)
    (operation : Operation)
    (closed
      : (call config case clock operation).1.state = .recovered
        ∨ (call config case clock operation).1.controlOutcome = some .recoveredNaturally)
    : (case.state = .recovered ∨ case.controlOutcome = some .recoveredNaturally)
      ∨ ∃ capture,
          operation = .paymentSucceeded capture ∧ capture.amount = case.originalAmount := by
  cases operation with
  | paymentFailed event =>
      refine .inl (@handleExistingFailure_unpaid config clock case event ?_)
      simp only [call, handlePaymentFailed] at closed
      cases handled : (handleExistingFailure case event config clock).result with
      | error raised => rwa [handled] at closed
      | ok done => rwa [handled] at closed
  | paymentSucceeded capture =>
      by_cases whole : capture.amount = case.originalAmount
      · exact .inr ⟨capture, rfl, whole⟩
      · have same := @handlePaymentSuccess_paid clock case capture whole
        simp only [call, same] at closed
        exact .inl closed
  | markNoticeSent reasonCode previous bandit =>
      simp only [call] at closed
      cases result
        : (StateMachine.markNoticeSent case config clock reasonCode previous bandit).result with
      | error raised =>
          rw [result] at closed
          simp only [kept, Except.map] at closed
          rcases markNoticeSent_raised case config clock result with
            ⟨_, same⟩ | ⟨_, noticed⟩
          · exact .inl (same ▸ closed)
          · rw [noticed] at closed
            exact .inl (.inr (by simpa using closed))
      | ok done =>
          rw [result] at closed
          simp only [kept, Except.map] at closed
          rw [(markNoticeSent_ok case config clock result).case_eq] at closed
          exact .inl (.inr (by simpa using closed))
  | markRetryExecuted decision =>
      simp only [call, StateMachine.markRetryExecuted] at closed
      split at closed
      · exact .inl closed
      · exact .inl (.inr (by simpa [kept, Except.map, executed] using closed))
  | attemptExecution decision commit =>
      simp only [call, StateMachine.attemptExecution] at closed
      split at closed
      · exact .inl closed
      · simp only [bind, Except.bind] at closed
        split at closed
        · exact .inl closed
        · split at closed
          · exact .inl
              (.inr (by simpa [kept, Except.map, executed, pure, Except.pure] using closed))
          · exact .inl closed
  | applyThrottle =>
      simp only [call, StateMachine.applyThrottle, trigger] at closed
      split at closed
      · exact .inl closed
      · exact .inl (.inr (by simpa [kept] using closed))
  | releaseThrottle =>
      simp only [call, StateMachine.releaseThrottle, trigger] at closed
      split at closed
      · exact .inl closed
      · exact .inl (.inr (by simpa [kept] using closed))

end Tracked

end StateMachine

-----------------------------------------------------------------------------------------
-- Cases and their captures
-----------------------------------------------------------------------------------------

/-- What a human resolution makes of a case; only an escalated one is resolved. -/
def resolved (case : RecoveryCase) (note : ResolutionNote) : RecoveryCase :=
  if case.state = .escalated then
    { case with state := .resolvedByHuman, resolutionNote := some note }
  else case

/-- `resolve_escalation` stores the case it resolves. -/
theorem exec_resolveEscalation_resolved (deployment : Deployment) {config : AppConfig}
    (demo : config.profileName = .demo) (caseId : Handler.PathSegment) {text : String}
    {note : ResolutionNote} (parsed : Handler.parseResolutionNote text = some note)
    {world : World} {case : RecoveryCase}
    (stored : (world.store.view caseId.text).case = some case)
    : ((Handler.exec deployment (Handler.resolveEscalation config caseId text) world).2.store.view
          caseId.text).case
      = some (resolved case note) := by
  unfold Handler.resolveEscalation resolved
  rw [if_neg (not_not.mpr demo)]
  simp only [Handler.exec_bind]
  rcases Handler.exec_getCase deployment world caseId.text with
    ⟨found, same, got⟩ | ⟨absent, _⟩
  swap
  · rw [stored] at absent
    cases absent
  cases stored.symm.trans same
  rw [got]
  by_cases escalated : case.state = .escalated
  · rw [if_pos escalated]
    have id_eq := CaseStore.view_caseId stored
    rw [← id_eq] at stored ⊢
    obtain ⟨first, updated, overwrote⟩ := @Handler.exec_updateCase deployment world
      { case with state := .resolvedByHuman, resolutionNote := some note } case stored
    obtain ⟨last, logged, appended, bare, added⟩ :=
      Handler.exec_appendAudit deployment (first.tick 1)
        (show (Handler.humanResolution case.caseId (first.clock.reading 0)).Fresh from rfl)
    have before : first.store.view case.caseId = _ := overwrote.view_eq
    have after : last.store.view case.caseId = _ := added.view_eq
    simp only [Handler.exec_bind, if_neg (not_not.mpr escalated), Handler.exec_pure, parsed,
      updated, Handler.exec_now, appended, after, World.tick_store]
    exact congrArg CaseStore.View.case before
  · simp only [if_pos escalated, if_neg escalated, Handler.exec_bind, Handler.exec_refuse, stored]

/-- The capture a call handles. -/
def StateMachine.Operation.capture? : Operation → Option PaymentSuccessEvent
  | .paymentSucceeded event => some event
  | _ => none

/-- A case with the amount it was opened for and the captures it was handed. -/
structure Account where
  case : RecoveryCase
  openedAmount : Int
  captures : List PaymentSuccessEvent

namespace Account

/-- A call of the state machine on the case. -/
def call (config : AppConfig) (account : Account) (clock : Clock) (operation : Operation)
    : Account where
  case := (Tracked.call config account.case clock operation).1
  openedAmount := account.openedAmount
  captures := account.captures ++ operation.capture?.toList

/-- A capture of the whole amount was handled. -/
def Paid (account : Account) : Prop :=
  ∃ capture ∈ account.captures, capture.amount = account.case.originalAmount

/-- The fields of a case that the dashboard reads fit together. -/
structure Consistent (account : Account) : Prop where
  amount : account.case.originalAmount = account.openedAmount
  control
    : account.case.bucket = some .control
      → account.case.state
        ∈ [CaseState.controlHeld, .controlRecovered, .controlStillFailed]
  resolved : account.case.resolutionNote ≠ none → account.case.state = .resolvedByHuman
  paid
    : account.case.state = .recovered
        ∨ account.case.controlOutcome = some .recoveredNaturally
      → account.Paid

variable {account : Account}

/-- A case that was just opened is consistent: nothing has closed it. -/
theorem Consistent.opened {event : PaymentFailureEvent} {config : AppConfig} {clock : Clock}
    {tracked : Tracked} (opened : Tracked.opened event config clock = .ok tracked)
    : Consistent ⟨tracked.case, tracked.case.originalAmount, []⟩ := by
  unfold Tracked.opened handlePaymentFailed at opened
  dsimp only at opened
  cases created : handleNewFailure event config clock with
  | error raised => rw [created] at opened; cases opened
  | ok done =>
      rw [created] at opened
      cases opened
      have fresh := handleNewFailure_opened created
      obtain ⟨unresolved, unpaid⟩ := handleNewFailure_unsettled created
      refine ⟨rfl, fun control => ?_, fun resolved => absurd unresolved resolved, ?_⟩
      · rw [fresh.held control]
        simp
      · intro closed
        rcases closed with recovered | natural
        · have state := fresh.state
          rw [show done.1.state = .recovered from recovered] at state
          simp [openingState] at state
        · exact absurd natural unpaid

/-- Every call keeps a case consistent. -/
theorem Consistent.call (consistent : account.Consistent) (config : AppConfig) (clock : Clock)
    (operation : Operation)
    : (account.call config clock operation).Consistent := by
  have same : (Tracked.call config account.case clock operation).1.originalAmount
      = account.case.originalAmount := by
    rcases Tracked.call_cases config account.case clock operation with step | ⟨_, _, counted⟩
    · exact step.sameCase.originalAmount
    · rw [counted]
  refine ⟨same.trans consistent.amount, fun control => ?_, fun noted => ?_, fun closed => ?_⟩
  · dsimp only [Account.call] at control ⊢
    rcases Tracked.call_cases config account.case clock operation with step | ⟨_, _, counted⟩
    · rw [step.sameCase.bucket] at control
      exact step.control (consistent.control control)
    · rw [counted] at control ⊢
      exact consistent.control control
  · dsimp only [Account.call] at noted ⊢
    rcases Tracked.call_cases config account.case clock operation with step | ⟨_, _, counted⟩
    · obtain ⟨note, still⟩ := step.resolution
      rw [note] at noted
      have closed := consistent.resolved noted
      rw [still closed, closed]
    · rw [counted] at noted ⊢
      exact consistent.resolved noted
  · have amount : (account.call config clock operation).case.originalAmount
        = account.case.originalAmount := same
    unfold Paid
    rw [amount]
    rcases Tracked.call_paid config account.case clock operation closed with
      before | ⟨capture, rfl, whole⟩
    · obtain ⟨capture, handled, whole⟩ := consistent.paid before
      exact ⟨capture, List.mem_append_left _ handled, whole⟩
    · exact ⟨capture, List.mem_append_right _ (by simp [Operation.capture?]), whole⟩

/-- A human resolution keeps a case consistent: no control case is escalated. -/
theorem Consistent.resolve (consistent : account.Consistent) (note : ResolutionNote)
    : ({ account with case := RecoveryAgent.resolved account.case note } : Account).Consistent := by
  unfold RecoveryAgent.resolved
  split
  · next escalated =>
      refine ⟨consistent.amount, fun control => ?_, fun _ => rfl, fun closed => ?_⟩
      · have held := consistent.control control
        rw [escalated] at held
        simp at held
      · rcases closed with recovered | natural
        · cases recovered
        · exact consistent.paid (.inr natural)
  · exact consistent

/-- A consistent case is counted at most once. -/
theorem Consistent.countedOnce (consistent : account.Consistent) : CountedOnce account.case := by
  simp only [CountedOnce, agentRecovered, humanRecovered, controlRecovered, controlEnded,
    decide_eq_true_eq]
  refine ⟨fun both => ?_, fun both => ?_, fun both => ?_⟩
  · have closed := consistent.resolved (by simp [both.2])
    rw [both.1.2] at closed
    cases closed
  · have bucket := both.1.1
    rw [both.2.1] at bucket
    cases bucket
  · have closed := consistent.resolved (by simp [both.1])
    have held := consistent.control both.2.1
    rw [closed] at held
    simp at held

end Account

-----------------------------------------------------------------------------------------
-- All cases
-----------------------------------------------------------------------------------------

/-- The cases under recovery, by their id. -/
abbrev Portfolio := Table fun account : Account => account.case.caseId

/-- A first failure opens a case, the state machine is called on one, or a human resolves
one.
-/
inductive Portfolio.Event where
  | opened (event : PaymentFailureEvent)
  | called (caseId : String) (operation : Operation)
  | resolved (caseId : String) (note : ResolutionNote)

namespace Portfolio

/-- One event, with the clock readings it sees. A case is opened once. -/
def step (config : AppConfig) (portfolio : Portfolio) : Event × Clock → Portfolio
  | (.opened event, clock) =>
      match Tracked.opened event config clock with
      | .ok tracked =>
          (portfolio.insert? ⟨tracked.case, tracked.case.originalAmount, []⟩).getD portfolio
      | .error _ => portfolio
  | (.called caseId operation, clock) =>
      match portfolio.find? caseId with
      | some account => portfolio.update (account.call config clock operation)
      | none => portfolio
  | (.resolved caseId note, _) =>
      match portfolio.find? caseId with
      | some account => portfolio.update { account with case := resolved account.case note }
      | none => portfolio

def Consistent (portfolio : Portfolio) : Prop :=
  ∀ caseId account, portfolio.find? caseId = some account → account.Consistent

/-- An updated case that is consistent leaves all of them so. -/
theorem Consistent.update {portfolio : Portfolio} (consistent : portfolio.Consistent)
    {account : Account} (kept : account.Consistent)
    : Consistent (portfolio.update account) := by
  intro caseId found stored
  rw [Table.find?_update] at stored
  split at stored
  · cases hit : portfolio.find? caseId with
    | none => rw [hit] at stored; cases stored
    | some old =>
        rw [hit] at stored
        cases stored
        exact kept
  · exact consistent caseId found stored

/-- Every event keeps the cases consistent. -/
theorem Consistent.step {config : AppConfig} {portfolio : Portfolio}
    (consistent : portfolio.Consistent) (event : Event × Clock)
    : Consistent (portfolio.step config event) := by
  obtain ⟨event, clock⟩ := event
  cases event with
  | opened event =>
      dsimp only [Portfolio.step]
      cases opened : Tracked.opened event config clock with
      | error raised => exact consistent
      | ok tracked =>
          dsimp only
          cases inserted
            : portfolio.insert? ⟨tracked.case, tracked.case.originalAmount, []⟩ with
          | none => exact consistent
          | some portfolio' =>
              intro caseId found stored
              rw [Option.getD_some, Table.find?_insert inserted] at stored
              split at stored
              · cases stored
                exact .opened opened
              · exact consistent caseId found stored
  | called caseId operation =>
      dsimp only [Portfolio.step]
      cases stored : portfolio.find? caseId with
      | none => exact consistent
      | some account =>
          exact consistent.update ((consistent caseId account stored).call config clock operation)
  | resolved caseId note =>
      dsimp only [Portfolio.step]
      cases stored : portfolio.find? caseId with
      | none => exact consistent
      | some account =>
          exact consistent.update ((consistent caseId account stored).resolve note)

/-- The cases are consistent after every run. -/
theorem consistent_run (config : AppConfig) (events : List (Event × Clock))
    : Consistent (events.foldl (step config) .empty) := by
  have start : Consistent (.empty : Portfolio) := by
    intro caseId account stored
    cases stored
  exact Run.keeps start (fun _ event consistent => Consistent.step consistent event) events

/-- The listed cases. -/
def cases (portfolio : Portfolio) : List RecoveryCase := portfolio.rows.map (·.case)

end Portfolio

/-- After every run the dashboard's three groups are disjoint, the recovered cases of the
first and the last were paid in full, no amount has changed, each reported total is the sum
over its group, and the three add up to at most the amount of all cases.
-/
theorem dashboardMetrics_exact (config : AppConfig) (events : List (Portfolio.Event × Clock))
    : let portfolio := events.foldl (Portfolio.step config) .empty
      let metrics := dashboardMetrics portfolio.cases
      (∀ case ∈ portfolio.cases, CountedOnce case)
      ∧ (∀ account ∈ portfolio.rows,
          agentRecovered account.case ∨ controlRecovered account.case → account.Paid)
      ∧ (∀ account ∈ portfolio.rows, account.case.originalAmount = account.openedAmount)
      ∧ metrics.agentRecoveredPaise
        = ((portfolio.cases.filter agentRecovered).map (·.originalAmount)).sum
      ∧ metrics.humanRecoveredPaise
        = ((portfolio.cases.filter humanRecovered).map (·.originalAmount)).sum
      ∧ metrics.controlRecoveredPaise
        = ((portfolio.cases.filter controlRecovered).map (·.originalAmount)).sum
      ∧ metrics.agentRecoveredPaise + metrics.humanRecoveredPaise
          + metrics.controlRecoveredPaise
        ≤ (portfolio.cases.map (·.originalAmount)).sum := by
  intro portfolio metrics
  have run : portfolio.Consistent := Portfolio.consistent_run config events
  have consistent : ∀ account ∈ portfolio.rows, account.Consistent :=
    fun account member => run _ account (Table.find?_of_mem member)
  have once : ∀ case ∈ portfolio.cases, CountedOnce case := by
    intro case member
    obtain ⟨account, listed, rfl⟩ := List.mem_map.mp member
    exact (consistent account listed).countedOnce
  refine ⟨once, fun account listed recovered => ?_, fun account listed => ?_, rfl, rfl, rfl,
    paise_le once⟩
  · apply (consistent account listed).paid
    simp only [agentRecovered, controlRecovered, controlEnded, decide_eq_true_eq] at recovered
    exact recovered.imp And.right And.right
  · exact (consistent account listed).amount

end RecoveryAgent
