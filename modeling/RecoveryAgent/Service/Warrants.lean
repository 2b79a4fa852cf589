import RecoveryAgent.Service.Budget

/-! Nothing comes about unasked, whichever way the tasks of a service interleave.
All that is stored goes back to requests that were begun: a recovery to a success of the full
amount, a case to the failure that opened it, a resolution, a notice and a commit to the admin
request for the case.
-/

namespace RecoveryAgent

open StateMachine Handler

-----------------------------------------------------------------------------------------
-- Recoveries
-----------------------------------------------------------------------------------------

/-- The states of a case whose payment succeeded. -/
def recoveredStates : List CaseState := [.recovered, .recoveredNaturally, .controlRecovered]

/-- A success moves a case into one of them only if it is of the full amount. -/
theorem StateMachine.handlePaymentSuccess_recovers {case : RecoveryCase}
    {event : PaymentSuccessEvent} {clock : Clock}
    (recovered : (handlePaymentSuccess case event clock).1.state ∈ recoveredStates)
    : case.state ∈ recoveredStates ∨ event.amount = case.originalAmount := by
  by_cases same : event.amount = case.originalAmount
  · exact .inr same
  · unfold handlePaymentSuccess at recovered
    rw [if_pos same] at recovered
    exact .inl recovered

/-- A failure moves no case into one of them. -/
theorem StateMachine.handleExistingFailure_recovers {case : RecoveryCase} {config : AppConfig}
    {event : PaymentFailureEvent} {clock : Clock}
    (recovered : (handleExistingFailure case event config clock).case.state ∈ recoveredStates)
    : case.state ∈ recoveredStates := by
  unfold handleExistingFailure at recovered
  dsimp only at recovered
  repeat' split at recovered
  all_goals first
    | exact recovered
    | simp [recoveredStates] at recovered

namespace Derived

variable {config : AppConfig} {setting : Setting} {archive : Set Item}

/-- If the case is recovered, a request reports the success of the full amount for its mandate. -/
def Paid (setting : Setting) (case : RecoveryCase) : Prop :=
  case.state ∈ recoveredStates
  → ∃ request ∈ setting.served,
      request.captured? = some (some case.mandateId, some case.originalAmount)

/-- A version of a case is recovered only if its payment was reported, by induction over how the
version came about.
-/
theorem paid {case : RecoveryCase} (derived : Derived config setting archive (.row case))
    : Paid setting case := by
  refine derived.row_induction ?_ ?_
  · intro entity event clock case event' entries _ _ handled recovered
    have state := (handleNewFailure_opened handled).state
    simp only [openingState, List.mem_cons, List.not_mem_nil, or_false] at state
    rcases state with h | h | h | h <;> simp [h, recoveredStates] at recovered
  · intro grounds case case' entries paid sound approvals deed recovered
    rw [deed.sameCase.mandateId, deed.sameCase.originalAmount]
    cases deed with
    | succeeded event clock asked captured held =>
        rcases handlePaymentSuccess_recovers recovered with before | full
        · exact paid before
        · exact ⟨_, sound.served asked, sound.mandates _ held ▸ full ▸ captured⟩
    | failed => exact paid (handleExistingFailure_recovers recovered)
    | noticed asked read sent => simp [sent.case_eq, recoveredStates] at recovered
    | executed approval now => simp [(approvals _ approval).executes, recoveredStates] at recovered
    | distressed => simp [recoveredStates] at recovered
    | resolved => simp [recoveredStates] at recovered
    | released fired => simp [(releaseThrottle_ok fired).2.1, recoveredStates] at recovered

-----------------------------------------------------------------------------------------
-- Cases, resolutions, notices and commits
-----------------------------------------------------------------------------------------

/-- A request reports the failed payment that the case is named after, with its amount. -/
def Filed (setting : Setting) (case : RecoveryCase) : Prop :=
  ∃ request ∈ setting.served, ∃ entity,
    request.declined? = some entity
    ∧ entity.id = some case.caseId
    ∧ entity.amount = some case.originalAmount

theorem filed {case : RecoveryCase} (derived : Derived config setting archive (.row case))
    : Filed setting case := by
  refine derived.row_induction ?_ ?_
  · intro entity event clock case event' entries reported first handled
    have opened := handleNewFailure_opened handled
    obtain ⟨⟨request, asked, declined⟩, named, amount⟩ := reported
    refine ⟨request, asked, entity, declined, ?_, ?_⟩
    · rw [opened.caseId, first, named]
    · rw [opened.originalAmount, amount]
  · intro grounds case case' entries filed sound approvals deed
    unfold Filed
    rw [deed.sameCase.caseId, deed.sameCase.originalAmount]
    exact filed

/-- If the case is resolved, a request asks to resolve it with the note it has. -/
def Resolved (setting : Setting) (case : RecoveryCase) : Prop :=
  case.state = .resolvedByHuman
  → ∃ segment text note,
      .resolveEscalation segment text ∈ setting.served
      ∧ segment.text = case.caseId
      ∧ parseResolutionNote text = some note
      ∧ case.resolutionNote = some note

/-- A case that an answer leaves resolved was left alone by it. -/
theorem Answer.eq_of_resolved {config : AppConfig} {now : Datetime} {case case' : RecoveryCase}
    {entries : List AuditEntry} (answer : Answer config now case case' entries)
    (resolved : case'.state = .resolvedByHuman)
    : case' = case := by
  rcases answer.state_cases with same | ⟨-, -, moved⟩ | ⟨-, moved⟩
  · exact same
  · simp [resolved] at moved
  · simp [resolved] at moved

theorem resolved {case : RecoveryCase} (derived : Derived config setting archive (.row case))
    : Resolved setting case := by
  refine derived.row_induction ?_ ?_
  · intro entity event clock case event' entries _ _ handled resolved
    have state := (handleNewFailure_opened handled).state
    simp [openingState, resolved] at state
  · intro grounds case case' entries before sound approvals deed
    have answered {now : Datetime} (answer : Answer config now case case' entries)
        : Resolved setting case' := by
      intro resolved
      have same := Answer.eq_of_resolved answer resolved
      subst same
      exact before resolved
    cases deed with
    | succeeded event clock => exact answered (handlePaymentSuccess_answer case config clock event)
    | failed reported named held handled =>
        exact answered (handleExistingFailure_answer case config _ handled)
    | noticed asked read sent => simp [Resolved, sent.case_eq]
    | executed approval now => simp [Resolved, (approvals _ approval).executes]
    | distressed => simp [Resolved]
    | resolved asked read parsed escalated now =>
        exact fun _ => ⟨_, _, _, sound.served asked, sound.paths _ read, parsed, rfl⟩
    | released fired => simp [Resolved, (releaseThrottle_ok fired).2.1]

theorem decision_asked {decision : RetryDecision}
    (derived : Derived config setting archive (.decision decision))
    : ∃ segment draw,
        .sendNotice segment draw ∈ setting.served ∧ segment.text = decision.caseId := by
  cases derived with
  | decided asked read found paced sent noticed stored =>
      exact ⟨_, _, asked, read.trans sent.caseId.symm⟩

theorem effect_asked {effect : Effect}
    (derived : Derived config setting archive (.effect effect))
    : ∃ segment, .executeRetry segment ∈ setting.served ∧ segment.text = effect.caseId := by
  cases derived with
  | committed asked read found scheduled pending named reached ordered stored =>
      exact ⟨_, asked, read⟩

end Derived

namespace Fleet

variable (deployment : Deployment) (events : List Event)

/-- No case is recovered for nothing. Whatever the workers do, a case that is stored as recovered
was reported paid: a signed webhook, or a simulated success, of the full amount for its mandate
was begun in the run.
-/
theorem recoveries_paid (caseId : String) (case : RecoveryCase)
    (stored : ((run deployment events).shared.store.view caseId).case = some case)
    (recovered : case.state ∈ recoveredStates)
    : ∃ request ∈ requests events,
        request.captured? = some (some case.mandateId, some case.originalAmount) := by
  obtain ⟨records, same, accounted⟩ := accounted_run deployment False events False.elim
  rw [same] at stored
  exact (accounted.rows caseId case stored).paid recovered

/-- A decline, and later its success. -/
def paidAfterAll : List Event :=
  let worker : Worker := ⟨demoClock, .new, []⟩
  let success : SimulateSuccessRequest := {
    paymentId := "pay_9"
    amountPaise := 50000
    mandateId := some "mandate_1"
    amountPaise_pos := fiveHundredRupees_pos
  }
  [.begin worker (.request (timeout "pay_2"))] ++ List.replicate 30 (.step 0)
    ++ [.begin worker (.request (.simulateSuccess success))] ++ List.replicate 30 (.step 1)

theorem recoveries_paid_afterAll
    : ∃ request ∈ requests paidAfterAll,
        request.captured? = some (some "mandate_1", some 50000) := by
  have read : ((run demoDeployment paidAfterAll).shared.store.view "pay_2").case.map
        (fun case => (case.state, case.mandateId, case.originalAmount))
      = some (.recoveredNaturally, "mandate_1", 50000) := by
    decide +kernel
  obtain ⟨case, stored, same⟩ := Option.map_eq_some_iff.mp read
  simp only [Prod.mk.injEq] at same
  have paid := recoveries_paid demoDeployment paidAfterAll "pay_2" case stored
    (by simp [same.1, recoveredStates])
  rwa [same.2.1, same.2.2] at paid

/-- Nothing comes about unasked. A stored case was opened by a reported failure of the payment it
is named after, of its amount; a human resolution, a recorded decision and a commit each go back to
an admin request for that case.
-/
theorem nothing_unasked (caseId : String)
    : let shared := (run deployment events).shared
      let asked := requests events
      (∀ case,
          (shared.store.view caseId).case = some case
          → Derived.Filed ⟨False, asked⟩ case
            ∧ Derived.Resolved ⟨False, asked⟩ case)
      ∧ (∀ decision ∈ (shared.store.view caseId).decisions,
          ∃ segment draw, .sendNotice segment draw ∈ asked ∧ segment.text = caseId)
      ∧ (∀ attempt ∈ committedAttempts shared.log caseId,
          ∃ segment, .executeRetry segment ∈ asked ∧ segment.text = caseId) := by
  intro shared asked
  obtain ⟨records, same, accounted⟩ := accounted_run deployment False events False.elim
  have same : shared = records.shared := same
  rw [same]
  refine ⟨fun case stored => ?_, fun decision member => ?_, fun attempt member => ?_⟩
  · have derived := accounted.rows caseId case stored
    exact ⟨derived.filed, derived.resolved⟩
  · obtain ⟨stored, named⟩ := List.mem_filter.mp member
    have derived := accounted.archived (.decision decision) stored
    obtain ⟨segment, draw, asked, read⟩ := derived.decision_asked
    exact ⟨segment, draw, asked, read.trans (of_decide_eq_true named)⟩
  · obtain ⟨effect, stored, named, -⟩ := Records.mem_committedAttempts.mp member
    obtain ⟨segment, asked, read⟩ := (accounted.archived _ stored).effect_asked
    exact ⟨segment, asked, read.trans named⟩

end Fleet

end RecoveryAgent
