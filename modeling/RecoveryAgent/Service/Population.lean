import RecoveryAgent.Service.Budget
import RecoveryAgent.Service.Histories

/-! The two groups of cases, and the states a stored case is in, whichever way the tasks of a
service interleave.
-/

namespace RecoveryAgent

open StateMachine Tracked Handler

-----------------------------------------------------------------------------------------
-- The group of a case
-----------------------------------------------------------------------------------------

/-- The group the hash of an id puts its case into. -/
def groupOf (caseId : String) : Bucket :=
  if isControlCase caseId then .control else .treatment

/-- A new case is put into the group of its id. -/
theorem handleNewFailure_bucket {event event' : PaymentFailureEvent} {config : AppConfig}
    {clock : Clock} {case : RecoveryCase} {entries : List AuditEntry}
    (handled : handleNewFailure event config clock = .ok (case, event', entries))
    : case.bucket = some (groupOf case.caseId) := by
  rw [(handleNewFailure_opened handled).caseId]
  simp only [handleNewFailure, bind, Except.bind, pure, Except.pure] at handled
  split at handled
  · cases handled
  next fresh made =>
  obtain ⟨named, -, -, -, -, unassigned⟩ := RecoveryCase.create_eq made
  simp only [assignBucket_eq unassigned, named] at handled
  cases control : isControlCase event.caseId
  all_goals
    simp only [control, Bool.false_eq_true, if_true, if_false] at handled
    repeat' split at handled
    all_goals cases handled
    all_goals simp [groupOf, control]

theorem opened_of_handled {event event' : PaymentFailureEvent} {config : AppConfig}
    {clock : Clock} {case : RecoveryCase} {entries : List AuditEntry}
    (handled : handleNewFailure event config clock = .ok (case, event', entries))
    : Tracked.opened event config clock = .ok ⟨case, entries⟩ := by
  unfold Tracked.opened handlePaymentFailed
  rw [handled]
  rfl

section Deeds

variable {config : AppConfig} {grounds : Grounds} {case case' : RecoveryCase}
  {entries : List AuditEntry}

/-- An answer to a failure is an action on the case. -/
theorem act_failed {event event' : PaymentFailureEvent} {clock : Clock}
    (handled : (handleExistingFailure case event config clock).result = .ok (event', entries))
    : Tracked.act config ⟨case, []⟩ (.called (.paymentFailed event), clock)
      = ⟨(handleExistingFailure case event config clock).case, entries⟩ := by
  simp [Tracked.act, Tracked.perform, Tracked.call, handlePaymentFailed, handled, Except.map,
    Tracked.kept]

/-- Without a commit of its own, a case of the control group goes on being observed only. -/
theorem Deed.observed (deed : Deed config grounds case case' entries)
    (observed : Observed ⟨case, []⟩) (uncommitted : ∀ effect, effect ∉ grounds.effects)
    : Observed ⟨case', entries⟩ := by
  have held : case.state ∈ controlStates := by
    rcases observed.outcome with ⟨state, -⟩ | ⟨state, -⟩ | ⟨state, -⟩ <;>
      simp [controlStates, show case.state = _ from state]
  have apart {state : CaseState} (here : case.state = state) (other : state ∉ controlStates)
      : False :=
    other (here ▸ held)
  cases deed with
  | succeeded event clock asked captured held =>
      exact observed.act config (.called (.paymentSucceeded event), clock)
  | failed reported named held handled =>
      rw [← act_failed handled]
      exact observed.act config _
  | noticed asked read sent => exact (apart sent.pending (by simp [controlStates])).elim
  | executed approval now => exact (uncommitted _ approval).elim
  | distressed asked read scheduled now => exact (apart scheduled (by simp [controlStates])).elim
  | resolved asked read parsed escalated now =>
      exact (apart escalated (by simp [controlStates])).elim
  | released fired =>
      exact (apart (releaseThrottle_ok fired).1 (by simp [controlStates])).elim

/-- A case of the treatment group stays out of the states of the control group. -/
theorem Deed.treated (deed : Deed config grounds case case' entries)
    (treated : Treated ⟨case, []⟩)
    (executes : ∀ effect ∈ grounds.effects, effect.toState = .retryExecuted)
    : Treated ⟨case', entries⟩ := by
  have bucket : case'.bucket = some .treatment := deed.sameCase.bucket.trans treated.bucket
  cases deed with
  | succeeded event clock asked captured held =>
      exact treated.act config (.called (.paymentSucceeded event), clock)
  | failed reported named held handled =>
      rw [← act_failed handled]
      exact treated.act config _
  | noticed asked read sent =>
      refine ⟨bucket, ?_, ?_⟩
      · simp [sent.case_eq, controlStates]
      · simp [sent.entries_eq, noticeEntries, controlStates]
  | executed approval now =>
      exact ⟨bucket, by simp [executes _ approval, controlStates],
        by simp [effectApplied, controlStates]⟩
  | distressed asked read scheduled now =>
      exact ⟨bucket, by simp [controlStates], by simp [distressSignal, controlStates]⟩
  | resolved asked read parsed escalated now =>
      exact ⟨bucket, by simp [controlStates], by simp [humanResolution, controlStates]⟩
  | released fired =>
      obtain ⟨-, rfl, rfl⟩ := releaseThrottle_ok fired
      exact ⟨bucket, by simp [controlStates], by simp [controlStates]⟩

end Deeds

-----------------------------------------------------------------------------------------
-- Items of a group
-----------------------------------------------------------------------------------------

/-- A case with its entries, in the group of its id. -/
structure InGroup (tracked : Tracked) : Prop where
  control : isControlCase tracked.case.caseId = true → Observed tracked
  treatment : isControlCase tracked.case.caseId = false → Treated tracked

/-- Only cases of the treatment group are decided or committed for, and no entry leads into, or out
of, a state that is not one of its group.
-/
def Item.Grouped : Item → Prop
  | .row case => InGroup ⟨case, []⟩
  | .entry written =>
      (isControlCase written.caseId = true
        → ¬ OutreachState written.fromState ∧ ¬ OutreachState written.toState)
      ∧ (isControlCase written.caseId = false → written.toState ∉ controlStates)
  | .decision recorded => isControlCase recorded.caseId = false
  | .effect committed => isControlCase committed.caseId = false

section Grouped

variable {config : AppConfig} {setting : Setting} {archive : Set Item}

theorem InGroup.opened {event event' : PaymentFailureEvent} {clock : Clock}
    {case : RecoveryCase} {entries : List AuditEntry}
    (handled : handleNewFailure event config clock = .ok (case, event', entries))
    : InGroup ⟨case, entries⟩ := by
  have bucket := handleNewFailure_bucket handled
  have opened := opened_of_handled handled
  refine ⟨fun control => .opened opened ?_, fun treatment => .opened opened ?_⟩
  · simpa [groupOf, show isControlCase case.caseId = true from control] using bucket
  · simpa [groupOf, show isControlCase case.caseId = false from treatment] using bucket

theorem InGroup.entry {case : RecoveryCase} {entries : List AuditEntry} {entry : AuditEntry}
    (grouped : InGroup ⟨case, entries⟩) (named : entry.caseId = case.caseId)
    (member : entry ∈ entries)
    : (Item.entry entry).Grouped := by
  refine ⟨fun control => ?_, fun treatment => ?_⟩
  · exact (grouped.control (named ▸ control)).untouched entry member
  · exact (grouped.treatment (named ▸ treatment)).entered entry member

theorem InGroup.row {case : RecoveryCase} {entries : List AuditEntry}
    (grouped : InGroup ⟨case, entries⟩)
    : (Item.row case).Grouped where
  control control := by
    have observed := grouped.control control
    exact ⟨observed.bucket, observed.retriesUsed, observed.outcome, by simp⟩
  treatment treatment := by
    have treated := grouped.treatment treatment
    exact ⟨treated.bucket, treated.apart, by simp⟩

/-- A deed leaves its case in its group. -/
theorem Deed.inGroup {grounds : Grounds} {case case' : RecoveryCase} {entries : List AuditEntry}
    (deed : Deed config grounds case case' entries) (grouped : InGroup ⟨case, []⟩)
    (named : ∀ effect ∈ grounds.effects, effect.caseId = case.caseId)
    (committed : ∀ effect ∈ grounds.effects, isControlCase effect.caseId = false)
    (executes : ∀ effect ∈ grounds.effects, effect.toState = .retryExecuted)
    : InGroup ⟨case', entries⟩ := by
  have same : case'.caseId = case.caseId := deed.sameCase.caseId
  refine ⟨fun control => ?_, fun treatment => ?_⟩
  · have control : isControlCase case.caseId = true := same ▸ control
    refine deed.observed (grouped.control control) fun effect approval => ?_
    have treatment := committed effect approval
    rw [named effect approval, control] at treatment
    cases treatment
  · exact deed.treated (grouped.treatment (same ▸ treatment)) executes

/-- The entries of a deed are about its case. -/
theorem Deed.entries_named {grounds : Grounds} {case case' : RecoveryCase}
    {entries : List AuditEntry} (deed : Deed config grounds case case' entries)
    : ∀ entry ∈ entries, entry.caseId = case.caseId := by
  cases deed with
  | succeeded event clock asked captured held =>
      exact fun entry member =>
        ((handlePaymentSuccess_answer case config clock event).entries_plain entry member).1
  | failed reported named held handled =>
      exact fun entry member =>
        ((handleExistingFailure_answer case config _ handled).entries_plain entry member).1
  | noticed asked read sent => simp [sent.entries_eq, noticeEntries]
  | released fired => simp [(releaseThrottle_ok fired).2.2]
  | executed | distressed | resolved => simp [effectApplied, distressSignal, humanResolution]

/-- Everything that comes about keeps to its group, by induction over the derivation. -/
theorem Derived.grouped {item : Item} (derived : Derived config setting archive item)
    : item.Grouped := by
  induction derived with
  | opened reported first handled => exact (InGroup.opened handled).row
  | opening reported first handled member logged =>
      have named := (handleNewFailure_opened handled).entries_named _ member
      exact (InGroup.opened handled).entry named member
  | written found sound approvals deed ih ihs =>
      have executes := fun effect approval => (approvals effect approval).executes
      exact (deed.inGroup ih sound.effects ihs executes).row
  | appended found sound approvals deed member logged ih ihs =>
      have executes := fun effect approval => (approvals effect approval).executes
      have same := (deed.entries_named _ member).trans deed.sameCase.caseId.symm
      exact (deed.inGroup ih sound.effects ihs executes).entry same member
  | @decided segment draw case case' clock entries decision asked read found paced sent noticed
      stored ih ihs =>
      change isControlCase decision.caseId = false
      rw [sent.caseId]
      by_contra control
      have observed := ih.control (Bool.eq_true_of_not_eq_false control)
      rcases observed.outcome with ⟨state, -⟩ | ⟨state, -⟩ | ⟨state, -⟩
      all_goals exact absurd (sent.pending.symm.trans state) (by simp)
  | committed asked read found scheduled pending named reached ordered stored ih ih' =>
      have treatment : isControlCase _ = false := ih'
      exact named ▸ treatment

end Grouped

-----------------------------------------------------------------------------------------
-- Resting states
-----------------------------------------------------------------------------------------

/-- The states in which a case is left by an endpoint, a start-up or a release. -/
def restingStates : List CaseState := [.controlHeld, .controlRecovered, .controlStillFailed,
  .escalated, .afaRequired, .noticePending, .retryScheduled, .retryExecuted, .recovered,
  .recoveredNaturally, .resolvedByHuman]

/-- The case is in one of them. -/
def Rests (case : RecoveryCase) : Prop := case.state ∈ restingStates

/-- An answer leaves a case at rest. -/
theorem Rests.answered {config : AppConfig} {now : Datetime} {case case' : RecoveryCase}
    {entries : List AuditEntry} (rests : Rests case)
    (answer : Answer config now case case' entries)
    : Rests case' := by
  unfold Rests restingStates at *
  rcases answer.state_cases with rfl | ⟨-, -, moved⟩ | ⟨-, moved⟩
  · exact rests
  · rcases moved with h | h <;> simp [h]
  · rcases moved with h | h | h | h <;> simp [h]

theorem Derived.rests {config : AppConfig} {setting : Setting} {archive : Set Item}
    {case : RecoveryCase} (derived : Derived config setting archive (.row case))
    : Rests case := by
  refine derived.row_induction ?_ ?_
  · intro entity event clock case event' entries _ _ handled
    have state := (handleNewFailure_opened handled).state
    simp only [openingState, List.mem_cons, List.not_mem_nil, or_false] at state
    unfold Rests restingStates
    rcases state with h | h | h | h <;> simp [h]
  · intro grounds case case' entries rests sound approvals deed
    cases deed with
    | succeeded event clock asked captured held =>
        exact rests.answered (handlePaymentSuccess_answer case config clock event)
    | failed reported named held handled =>
        exact rests.answered (handleExistingFailure_answer case config _ handled)
    | noticed asked read sent => simp [Rests, restingStates, sent.case_eq]
    | executed approval now => simp [Rests, restingStates, (approvals _ approval).executes]
    | distressed asked read scheduled now => simp [Rests, restingStates]
    | resolved asked read parsed escalated now => simp [Rests, restingStates]
    | released fired => simp [Rests, restingStates, (releaseThrottle_ok fired).2.1]

/-- A release passes over the cases that are not throttled, by induction over the list. -/
theorem Handler.releaseEach_idle (released : List String) {cases : List RecoveryCase}
    (unthrottled : ∀ case ∈ cases, case.state ≠ .throttled)
    : releaseEach released cases = pure released := by
  induction cases with
  | nil => rfl
  | cons case rest ih =>
      obtain ⟨first, later⟩ := List.forall_mem_cons.mp unthrottled
      unfold releaseEach
      rw [if_neg first]
      exact ih later

namespace Fleet

variable (deployment : Deployment) (events : List Event)

/-- The groups are kept apart in every run. For a case of the control group nothing is decided or
committed, and the case with its whole trail is one that was observed only; a case of the treatment
group never enters a state of the control group.
-/
theorem groups_apart (caseId : String)
    : let shared := (run deployment events).shared
      (isControlCase caseId = true
        → committedAttempts shared.log caseId = [] ∧ (shared.store.view caseId).decisions = [])
      ∧ ∀ case,
          (shared.store.view caseId).case = some case
          → case.bucket = some (groupOf caseId)
            ∧ InGroup ⟨case, (shared.store.view caseId).trail⟩ := by
  intro shared
  obtain ⟨records, same, accounted⟩ := accounted_run deployment False events False.elim
  have same : shared = records.shared := same
  rw [same]
  have grouped (item : Item) (stored : item ∈ records.archive) : item.Grouped :=
    (accounted.archived item stored).grouped
  refine ⟨fun control => ⟨?_, ?_⟩, fun case stored => ?_⟩
  · refine List.eq_nil_iff_forall_not_mem.mpr fun attempt member => ?_
    obtain ⟨effect, stored, rfl, -⟩ := Records.mem_committedAttempts.mp member
    exact absurd control (Bool.eq_false_iff.mp (grouped _ stored))
  · refine List.eq_nil_iff_forall_not_mem.mpr fun decision member => ?_
    have named := CaseStore.view_decisions_caseId member
    have stored : .decision decision ∈ records.archive := (List.mem_filter.mp member).1
    exact absurd control (Bool.eq_false_iff.mp (named ▸ grouped _ stored))
  · have named := CaseStore.view_caseId stored
    have row : InGroup ⟨case, []⟩ := (accounted.rows caseId case stored).grouped
    have logged (entry : AuditEntry) (member : entry ∈ (records.shared.store.view caseId).trail)
        : (Item.entry entry).Grouped ∧ entry.caseId = caseId := by
      obtain ⟨recorded, owner⟩ := List.mem_filter.mp member
      exact ⟨grouped (.entry entry.bare) ⟨entry, recorded, rfl⟩, of_decide_eq_true owner⟩
    subst named
    cases control : isControlCase case.caseId with
    | true =>
        have observed := row.control control
        refine ⟨by simpa [groupOf, control] using observed.bucket, ⟨fun _ => ?_, fun other => ?_⟩⟩
        · refine ⟨observed.bucket, observed.retriesUsed, observed.outcome, fun entry member => ?_⟩
          obtain ⟨grouped, owner⟩ := logged entry member
          exact grouped.1 (owner ▸ control)
        · exact absurd (control.symm.trans other) (by simp)
    | false =>
        have treated := row.treatment control
        refine ⟨by simpa [groupOf, control] using treated.bucket, ⟨fun other => ?_, fun _ => ?_⟩⟩
        · exact absurd (control.symm.trans other) (by simp)
        · refine ⟨treated.bucket, treated.apart, fun entry member => ?_⟩
          obtain ⟨grouped, owner⟩ := logged entry member
          exact grouped.2 (owner ▸ control)

/-- No case is ever stored in a state it only passes through, THROTTLED among them; so a release,
whenever it is begun, asks for nothing and releases nothing.
-/
theorem releases_idle
    : let shared := (run deployment events).shared
      (∀ caseId case, (shared.store.view caseId).case = some case → Rests case)
      ∧ Handler.releaseEach [] shared.store.listCases = pure [] := by
  intro shared
  obtain ⟨records, same, accounted⟩ := accounted_run deployment False events False.elim
  have same : shared = records.shared := same
  rw [same]
  refine ⟨fun caseId case stored => (accounted.rows caseId case stored).rests, ?_⟩
  refine Handler.releaseEach_idle [] fun case member throttled => ?_
  have stored : records.case? case.caseId = some case := Table.find?_of_mem member
  have rests := (accounted.rows _ case stored).rests
  simp [Rests, restingStates, throttled] at rests

end Fleet

end RecoveryAgent
