import RecoveryAgent.Service.Population
import RecoveryAgent.Store.Explainer

/-! Histories are kept and can be checked at any time, whichever way the tasks of a service
interleave. What an entry may say is listed once.
-/

namespace RecoveryAgent

open StateMachine Handler

/-- What an entry says: the rule, the states it leads from and to, and who acted. -/
abbrev Edge := String × CaseState × CaseState × Actor

def AuditEntry.edge (entry : AuditEntry) : Edge :=
  (entry.ruleFired, entry.fromState, entry.toState, entry.actor)

/-- The edges of the state machine and of the endpoints that the service runs. -/
def edges : List Edge := [
  ("create_case", .received, .classified, .agent),
  ("assign_bucket_control", .classified, .controlHeld, .agent),
  ("assign_bucket_treatment", .classified, .treatment, .agent),
  ("hard_decline", .treatment, .escalated, .agent),
  ("afa_threshold_exceeded", .treatment, .afaRequired, .agent),
  ("technical_decline", .treatment, .noticePending, .agent),
  ("control_failure_signal", .controlHeld, .controlStillFailed, .agent),
  ("natural_recovery", .controlHeld, .controlRecovered, .agent),
  ("execution_outcome", .retryExecuted, .retryEval, .agent),
  ("retry_cap_or_business", .retryEval, .escalated, .agent),
  ("technical_decline_retry_eligible", .retryEval, .noticePending, .agent),
  ("notice_sent", .noticePending, .noticeSent, .agent),
  ("schedule_retry", .noticeSent, .retryScheduled, .agent),
  ("commit_effect_applied", .retryScheduled, .retryExecuted, .agent),
  ("distress_signal", .retryScheduled, .escalated, .agent),
  ("agent_recovered", .retryExecuted, .recovered, .agent),
  ("natural_recovery_treatment_bucket", .noticePending, .recoveredNaturally, .agent),
  ("natural_recovery_treatment_bucket", .retryScheduled, .recoveredNaturally, .agent),
  ("late_success_reconciled", .escalated, .recovered, .agent),
  ("late_success_reconciled", .afaRequired, .recovered, .agent),
  ("human_resolution", .escalated, .resolvedByHuman, .human)]

/-- The rules of entries that note an event and move nothing. -/
def notingRules : List String :=
  ["amount_mismatch_on_success", "unexpected_success_event", "unexpected_failure_event"]

/-- The entry is one of the catalogue. -/
def Listed (entry : AuditEntry) : Prop :=
  entry.edge ∈ edges
  ∨ entry.ruleFired ∈ notingRules ∧ entry.toState = entry.fromState ∧ entry.actor = .agent
    ∧ entry.fromState ∈ restingStates

/-- A listed entry moves nothing out of a final state. -/
theorem Listed.closed {entry : AuditEntry} (listed : Listed entry)
    (closed : closedState entry.fromState)
    : entry.toState = entry.fromState := by
  rcases listed with edge | ⟨-, same, -⟩
  · have open_ : ∀ edge ∈ edges, ¬ closedState edge.2.1 := by decide
    exact absurd closed (open_ _ edge)
  · exact same

/-- A human acts in resolutions only. -/
theorem Listed.human {entry : AuditEntry} (listed : Listed entry) (human : entry.actor = .human)
    : entry.edge = ("human_resolution", .escalated, .resolvedByHuman, .human) := by
  rcases listed with edge | ⟨-, -, agent, -⟩
  · have sole : ∀ edge ∈ edges, edge.2.2.2 = .human
        → edge = ("human_resolution", .escalated, .resolvedByHuman, .human) := by
      decide
    exact sole _ edge human
  · simp [human] at agent

theorem handleNewFailure_listed {event event' : PaymentFailureEvent} {config : AppConfig}
    {clock : Clock} {case : RecoveryCase} {entries : List AuditEntry}
    (handled : handleNewFailure event config clock = .ok (case, event', entries))
    : ∀ entry ∈ entries, Listed entry := by
  simp only [handleNewFailure, bind, Except.bind, pure, Except.pure] at handled
  repeat' split at handled
  all_goals cases handled
  all_goals simp [Listed, AuditEntry.edge, edges, audit]

section Deeds

variable {config : AppConfig} {case : RecoveryCase}

theorem handleExistingFailure_listed {event event' : PaymentFailureEvent} {clock : Clock}
    {entries : List AuditEntry} (rests : Rests case)
    (handled : (handleExistingFailure case event config clock).result = .ok (event', entries))
    : ∀ entry ∈ entries, Listed entry := by
  unfold handleExistingFailure at handled
  dsimp only at handled
  repeat' split at handled
  all_goals cases handled
  all_goals simp [Listed, AuditEntry.edge, edges, notingRules, audit]
  exact rests

/-- A case at rest awaits its execution with its notice due or its retry scheduled. -/
theorem Rests.awaiting (rests : Rests case) (awaits : awaitsExecution case.state = true)
    : case.state = .noticePending ∨ case.state = .retryScheduled := by
  rcases awaitsExecution_iff.mp awaits with h | h | h | h
  · exact .inl h
  · simp [Rests, restingStates, h] at rests
  · exact .inr h
  · simp [Rests, restingStates, h] at rests

theorem handlePaymentSuccess_listed (rests : Rests case) (event : PaymentSuccessEvent)
    (clock : Clock)
    : ∀ entry ∈ (handlePaymentSuccess case event clock).2, Listed entry := by
  have rests' : case.state ∈ restingStates := rests
  unfold handlePaymentSuccess
  dsimp only
  repeat' split
  all_goals simp [Listed, AuditEntry.edge, edges, notingRules, audit, rests']
  · rename_i awaits
    exact rests.awaiting awaits
  · assumption

/-- The entries of a deed on a case at rest are of the catalogue. -/
theorem Deed.listed {grounds : Grounds} {case' : RecoveryCase} {entries : List AuditEntry}
    (deed : Deed config grounds case case' entries) (rests : Rests case)
    : ∀ entry ∈ entries, Listed entry := by
  cases deed with
  | succeeded event clock => exact handlePaymentSuccess_listed rests event clock
  | failed reported named held handled => exact handleExistingFailure_listed rests handled
  | noticed asked read sent =>
      simp [sent.entries_eq, noticeEntries, Listed, AuditEntry.edge, edges, audit]
  | executed => simp [effectApplied, Listed, AuditEntry.edge, edges]
  | distressed => simp [distressSignal, Listed, AuditEntry.edge, edges]
  | resolved => simp [humanResolution, Listed, AuditEntry.edge, edges]
  | released fired =>
      have throttled := (releaseThrottle_ok fired).1
      simp [Rests, restingStates, throttled] at rests

end Deeds

theorem Derived.listed {config : AppConfig} {setting : Setting} {archive : Set Item}
    {entry : AuditEntry} (derived : Derived config setting archive (.entry entry))
    : Listed entry := by
  cases derived with
  | opening reported first handled member logged =>
      exact handleNewFailure_listed handled entry member
  | appended found sound approvals deed member logged => exact deed.listed found.rests entry member

namespace Fleet

variable (deployment : Deployment)

/-- Whatever is logged, by any worker at any time, is an edge of the catalogue. So no entry leads
out of a final state, and a human acts in resolutions only.
-/
theorem entries_listed (events : List Event) (caseId : String)
    : ∀ entry ∈ ((run deployment events).shared.store.view caseId).trail,
        Listed entry
        ∧ (closedState entry.fromState → entry.toState = entry.fromState)
        ∧ (entry.actor = .human → entry.ruleFired = "human_resolution") := by
  intro entry member
  obtain ⟨records, same, accounted⟩ := accounted_run deployment False events False.elim
  rw [same] at member
  obtain ⟨logged, -⟩ := List.mem_filter.mp member
  have listed : Listed entry :=
    (accounted.archived (.entry entry.bare) ⟨entry, logged, rfl⟩).listed
  exact ⟨listed, listed.closed, fun human => congrArg (·.1) (listed.human human)⟩

/-- The execution that two workers race for is logged as such an edge. -/
theorem entries_listed_racing
    : ∃ entry ∈ ((run demoDeployment racingRetries).shared.store.view "pay_2").trail,
        entry.Enters .retryExecuted ∧ Listed entry := by
  have executed
      : ∃ entry ∈ ((run demoDeployment racingRetries).shared.store.view "pay_2").trail,
          entry.Enters .retryExecuted := by
    decide +kernel
  obtain ⟨entry, member, enters⟩ := executed
  exact ⟨entry, member, enters,
    (entries_listed demoDeployment racingRetries "pay_2" entry member).1⟩

/-- What was true of a case stays on record. Between any two states of a run its identity stays, its
trail and its commits only get longer, and its decisions stay as they were recorded.
-/
theorem history_kept (events more : List Event) (caseId : String)
    : let before := (run deployment events).shared
      let after := (run deployment (events ++ more)).shared
      (∀ case,
          (before.store.view caseId).case = some case
          → ∃ case', (after.store.view caseId).case = some case' ∧ SameCase case case')
      ∧ (before.store.view caseId).trail <+: (after.store.view caseId).trail
      ∧ (before.store.view caseId).decisions ⊆ (after.store.view caseId).decisions
      ∧ committedAttempts before.log caseId <+: committedAttempts after.log caseId := by
  intro before after
  obtain ⟨records, later, same, same', grow⟩ := grow_run deployment events more
  have same : before = records.shared := same
  have same' : after = later.shared := same'
  rw [same, same']
  refine ⟨grow.cases caseId, grow.audit.filter _, fun decision member => ?_, ?_⟩
  · obtain ⟨stored, named⟩ := List.mem_filter.mp member
    exact List.mem_filter.mpr ⟨grow.decisions stored, named⟩
  · exact (grow.log.filter _).map _

/-- At any time, the trail of every case can be checked: the entries of all cases together are
numbered from one on without a gap, each trail is accepted by the service's check, and the
explainer, which checks it again, never refuses to explain it.
-/
theorem trails_checked (events : List Event)
    : ∃ store : PostgresCaseStore,
        (run deployment events).shared.store = .postgres store
        ∧ store.auditEntries.rows.map (·.sequenceId)
          = (List.range' 1 store.auditEntries.rows.length).map some
        ∧ ∀ caseId,
            store.getAuditTrail caseId ≠ []
            → (verifyChain ((store.getAuditTrail caseId).map AuditEntry.row)).valid = true
              ∧ Explainer.verifyChainIntegrity ((store.getAuditTrail caseId).map AuditEntry.row)
                = true := by
  obtain ⟨records, same, accounted⟩ := accounted_run deployment False events False.elim
  obtain ⟨ledger, holds⟩ := accounted.booked
  refine ⟨records.store, by rw [same]; rfl, ?_, fun caseId written => ?_⟩
  · rw [holds]
    exact ledger.numbered
  · rw [holds.getAuditTrail] at written ⊢
    have valid := ledger.trail_valid written
    exact ⟨valid, Explainer.integrityFrom_of_accepts (verifyChain_valid.mp valid).2⟩

/-- Failures are filed, in every interleaving: under a payment that no other failure has, for a case
that is stored, from a report of that payment, and with the failures of a case numbered from one on
without a gap.
-/
theorem failures_filed (events : List Event)
    : ∃ store : PostgresCaseStore,
        (run deployment events).shared.store = .postgres store
        ∧ (store.paymentFailures.rows.map (·.paymentId)).Nodup
        ∧ (∀ event ∈ store.paymentFailures.rows,
            (∃ case, store.recoveryCases.find? event.caseId = some case)
            ∧ ∃ entity, Reported (requests events) entity event)
        ∧ ∀ event ∈ store.paymentFailures.rows, ∀ n,
            1 ≤ n
            → n ≤ event.attemptNumber
            → ∃ earlier ∈ store.paymentFailures.rows,
                earlier.caseId = event.caseId ∧ earlier.attemptNumber = n := by
  obtain ⟨records, same, accounted⟩ := accounted_run deployment False events False.elim
  refine ⟨records.store, by rw [same]; rfl, records.store.paymentFailures.unique, ?_, ?_⟩
  · exact fun event stored => ⟨accounted.filed event stored, accounted.reported event stored⟩
  · intro event stored n positive bound
    have recorded : event.attemptNumber ∈ records.attempts event.caseId :=
      Records.mem_attempts.mpr ⟨event, stored, rfl, rfl⟩
    exact Records.mem_attempts.mp (accounted.gapless _ _ recorded n positive bound)

end Fleet

end RecoveryAgent
