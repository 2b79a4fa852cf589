import RecoveryAgent.Service.NextRetry
import RecoveryAgent.Core.RetryCap

/-! Whether every execution has a commit of its own.
A refused commit is healed from every commit the case ever made, so an execution is backed by
its own attempt only where the decision picked is the next attempt's.
-/

namespace RecoveryAgent

open StateMachine Handler Tracked

-----------------------------------------------------------------------------------------
-- Conditions on the steps of a run
-----------------------------------------------------------------------------------------

/-- An `execute_retry` that gets to its commit picks the decision of the next attempt. -/
def PicksNext (deployment : Deployment) (world : World) (event : Event) : Prop :=
  ∀ segment case decision,
    event = .request (.executeRetry segment)
    → Admitted deployment world segment.text case decision
    → decision.attemptNumber = case.retriesUsed + 1

/-- No success delivery carries a wrong amount for a case in execution. -/
def PaysInFull (world : World) (event : Event) : Prop :=
  ∀ request case,
    event = .request request → case.state = .retryExecuted
    → ¬ request.Mismatches world.store case

-----------------------------------------------------------------------------------------
-- The invariant
-----------------------------------------------------------------------------------------

/-- The commits of a case are behind the retry that is ahead of it, and there are as many as
executions at least.
-/
structure Backed (view : CaseView) : Prop where
  bound
    : ∀ case, view.case = some case
      → ∀ attempt ∈ view.committed, attempt ≤ case.retriesUsed + 1
  behind
    : ∀ case, view.case = some case
      → case.state ∈ [CaseState.noticePending, .retryScheduled]
      → ∀ attempt ∈ view.committed, attempt ≤ case.retriesUsed
  count : executions view.trail ≤ view.committed.length

/-- No entry of a trail leads from RETRY_EXECUTED to itself. -/
def Unflagged (trail : List AuditEntry) : Prop :=
  ∀ entry ∈ trail, entry.toState = .retryExecuted → entry.fromState ≠ .retryExecuted

/-- A case enters RETRY_EXECUTED. -/
structure EntersExecution (view view' : CaseView) (case : RecoveryCase) : Prop where
  stored : view'.case = some case
  executed : case.state = .retryExecuted
  before : ∀ old, view.case = some old → old.state ≠ .retryExecuted

/-- A case that is not in execution afterwards has not entered it. -/
theorem EntersExecution.state {view view' : CaseView} {case case' : RecoveryCase}
    (enters : EntersExecution view view' case') (stored : view'.case = some case)
    : case.state = .retryExecuted := by
  cases enters.stored.symm.trans stored
  exact enters.executed

/-- Entries that execute nothing count for nothing. -/
theorem executions_plain {entries : List AuditEntry}
    (plain : ∀ entry ∈ entries, ¬ entry.Enters .retryExecuted)
    : executions entries = 0 :=
  List.countP_eq_zero.mpr fun entry member enters => plain entry member (of_decide_eq_true enters)

/-- A step of a stored case keeps the backing if it executes nothing and a retry is ahead of
the case only where one was before, or after one more retry.
-/
theorem Backed.replaced {view : CaseView} (backed : Backed view) {case : RecoveryCase}
    (stored : view.case = some case) (case' : RecoveryCase) (written : List AuditEntry)
    (plain : ∀ entry ∈ written, ¬ entry.Enters .retryExecuted)
    (grows : case.retriesUsed ≤ case'.retriesUsed)
    (ahead
      : case'.state ∈ [CaseState.noticePending, .retryScheduled]
        → case.retriesUsed < case'.retriesUsed
          ∨ case.state ∈ [CaseState.noticePending, .retryScheduled])
    (decisions : List RetryDecision)
    : Backed {
        case := some case'
        decisions := decisions
        trail := view.trail ++ written
        committed := view.committed
      } := by
  refine ⟨?_, ?_, ?_⟩
  · rintro _ ⟨⟩ attempt committed
    exact (backed.bound case stored attempt committed).trans (by omega)
  · rintro _ ⟨⟩ next attempt committed
    rcases ahead next with more | before
    · exact (backed.bound case stored attempt committed).trans more
    · exact (backed.behind case stored before attempt committed).trans grows
  · rw [executions_append, executions_plain plain]
    exact backed.count

/-- A case that stays out of RETRY_EXECUTED, or was in it before, has not entered it. -/
theorem not_entersExecution {view view' : CaseView} {case case' : RecoveryCase}
    (stored : view.case = some case) (stored' : view'.case = some case')
    (stays : case'.state = .retryExecuted → case.state = .retryExecuted)
    : ∀ entered, ¬ EntersExecution view view' entered := by
  intro entered enters
  exact enters.before case stored (stays (enters.state stored'))

theorem noticeEntries_plain {caseId : String} {now scheduledAt : Datetime}
    : ∀ entry ∈ noticeEntries caseId now scheduledAt, ¬ entry.Enters .retryExecuted := by
  simp [noticeEntries, AuditEntry.Enters]

/-- Steps other than executions keep the backing, and none enters RETRY_EXECUTED. -/
theorem Backed.step {world : World} {caseId : String} (backed : Backed (world.view caseId))
    {inMemory : Bool} (regular : (world.view caseId).Regular inMemory) {config : AppConfig}
    {request : Request} {spent : Nat} {view : CaseView}
    (step : CaseStep config request world spent caseId view)
    : Backed view ∧ ∀ case, ¬ EntersExecution (world.view caseId) view case := by
  cases step with
  | same =>
      exact ⟨backed, fun case enters => enters.before case enters.stored enters.executed⟩
  | opened early absent opened part =>
      obtain ⟨_, noTrail, uncommitted⟩ := regular.absent absent
      refine ⟨⟨?_, ?_, ?_⟩, fun case enters => ?_⟩
      · simp [uncommitted]
      · simp [uncommitted]
      · have plain := executions_plain fun entry member enters =>
          opened.notExecuted entry (part.subset member) enters.1
        simp [noTrail, plain]
      · have state := opened.state
        simp [openingState, enters.state rfl] at state
  | @answered case case' entries written i early stored answer part flags =>
      have plain : ∀ entry ∈ written, ¬ entry.Enters .retryExecuted := fun entry member =>
        (answer.entries_plain entry (part.subset member)).2.2.2.1
      rcases answer.state_cases with rfl | ⟨executed, more, state⟩ | ⟨same, state⟩
      · exact ⟨backed.replaced stored _ _ plain le_rfl .inr _,
          not_entersExecution stored rfl id⟩
      · exact ⟨backed.replaced stored _ _ plain (by omega) (fun _ => .inl (by omega)) _,
          not_entersExecution stored rfl fun _ => executed⟩
      · refine ⟨backed.replaced stored _ _ plain same.ge (fun next => ?_) _,
          not_entersExecution stored rfl fun executed => ?_⟩
        · rcases state with state | state | state | state <;> simp [state] at next
        · rcases state with state | state | state | state <;> simp [state] at executed
  | @counted case inMemory stored executed unclassifiable =>
      have kept := backed.replaced stored { case with retriesUsed := case.retriesUsed + 1 } []
        (by simp) (Nat.le_succ _) (fun _ => .inl (Nat.lt_succ_self _))
        (world.view caseId).decisions
      exact ⟨by simpa using kept, not_entersExecution stored rfl fun _ => executed⟩
  | @noticeLost case stored pending =>
      have kept := backed.replaced stored { case with state := .noticeSent } [] (by simp) le_rfl
        (by simp) (world.view caseId).decisions
      exact ⟨by simpa using kept, not_entersExecution stored rfl fun executed => by cases executed⟩
  | @noticed demo case decision i early stored pending decided first =>
      exact ⟨backed.replaced stored { case with state := .retryScheduled } _ noticeEntries_plain
        le_rfl
        (fun _ => .inr (by simp [pending])) _,
        not_entersExecution stored rfl fun executed => by cases executed⟩
  | @noticedAgain demo case decision i early stored pending decided again =>
      exact ⟨backed.replaced stored { case with state := .retryScheduled } _ noticeEntries_plain
        le_rfl
        (fun _ => .inr (by simp [pending])) _,
        not_entersExecution stored rfl fun executed => by cases executed⟩
  | @resolved case note i early stored escalated =>
      exact ⟨backed.replaced stored
        { case with state := .resolvedByHuman, resolutionNote := some note }
        [humanResolution caseId (world.clock.reading i)]
        (by simp [humanResolution, AuditEntry.Enters]) le_rfl (by simp) _,
        not_entersExecution stored rfl fun executed => by cases executed⟩

/-- Where the next attempt's decision is picked, an execution is approved, and its commit is
new.
-/
theorem Backed.executed {view : CaseView} (backed : Backed view) {case : RecoveryCase}
    (stored : view.case = some case) (now : Datetime)
    : Backed { executedView view case now with
        committed := view.committed ++ [case.retriesUsed + 1] } := by
  refine ⟨?_, ?_, ?_⟩
  · rintro _ ⟨⟩ attempt committed
    rcases List.mem_append.mp committed with old | new
    · exact backed.bound case stored attempt old
    · exact (List.mem_singleton.mp new).le
  · rintro _ ⟨⟩ next
    simp at next
  · have count := backed.count
    simp [executedView, effectApplied, AuditEntry.Enters]
    exact count

/-- Every event that picks the next decisions keeps the backing, and a case enters
RETRY_EXECUTED only with its own attempt committed.
-/
theorem Backed.moved {deployment : Deployment} {world : World} {caseId : String}
    (backed : Backed (world.view caseId)) {inMemory : Bool}
    (regular : (world.view caseId).Regular inMemory) {event : Event}
    (picks : PicksNext deployment world event) {clock : ServiceClock} {view : CaseView}
    (moved : Moved deployment world clock caseId event view)
    : Backed view
      ∧ ∀ case, EntersExecution (world.view caseId) view case
        → case.retriesUsed + 1 ∈ view.committed := by
  cases moved with
  | same =>
      exact ⟨backed, fun case enters => absurd enters.executed
        (enters.before case enters.stored)⟩
  | stepped spends step =>
      obtain ⟨kept, never⟩ := backed.step regular step
      exact ⟨kept, fun case enters => absurd enters (never case)⟩
  | approved named spends etcd admitted uncommitted =>
      subst named
      rw [picks _ _ _ rfl admitted]
      refine ⟨backed.executed admitted.stored _, fun case enters => ?_⟩
      cases enters.stored
      simp
  | healed named spends etcd admitted committed =>
      subst named
      rw [picks _ _ _ rfl admitted] at committed
      have behind := backed.behind _ admitted.stored (by simp [admitted.scheduled]) _ committed
      exact absurd behind (Nat.not_succ_le_self _)
  | @escalated segment named spends case stored scheduled =>
      have kept := backed.replaced stored { case with state := .escalated }
        [distressSignal caseId (world.clock.reading 1)]
        (by simp [distressSignal, AuditEntry.Enters]) le_rfl (by simp)
        (world.view caseId).decisions
      refine ⟨kept, fun entered enters => ?_⟩
      cases enters.state rfl
  | reordered spends perm kept =>
      refine ⟨⟨backed.bound, backed.behind, backed.count⟩, fun case enters => ?_⟩
      exact absurd enters.executed (enters.before case enters.stored)

-----------------------------------------------------------------------------------------
-- Flags
-----------------------------------------------------------------------------------------

theorem Unflagged.append {left right : List AuditEntry} (first : Unflagged left)
    (second : Unflagged right)
    : Unflagged (left ++ right) :=
  List.forall_mem_append.mpr ⟨first, second⟩

/-- Where no entry leads from RETRY_EXECUTED to itself, the executions are the entries that
lead there.
-/
theorem Unflagged.executions_eq {trail : List AuditEntry} (unflagged : Unflagged trail)
    : trail.countP (·.toState = .retryExecuted) = executions trail := by
  refine List.countP_congr fun entry member => ?_
  rw [decide_eq_true_eq, decide_eq_true_eq]
  exact ⟨fun target => ⟨target, unflagged entry member target⟩, And.left⟩

/-- As long as success deliveries for executed cases carry their amounts, no trail gets an
entry from RETRY_EXECUTED to itself.
-/
theorem Unflagged.moved {deployment : Deployment} {world : World} {caseId : String}
    (unflagged : Unflagged (world.view caseId).trail) {inMemory : Bool}
    (regular : (world.view caseId).Regular inMemory) {event : Event}
    (pays : PaysInFull world event) {clock : ServiceClock} {view : CaseView}
    (moved : Moved deployment world clock caseId event view)
    : Unflagged view.trail := by
  cases moved with
  | same => exact unflagged
  | stepped spends step =>
      cases step with
      | same => exact unflagged
      | opened early absent opened part =>
          exact unflagged.append fun entry member target =>
            absurd target (opened.notExecuted entry (part.subset member))
      | answered early stored answer part flags =>
          refine unflagged.append fun entry member target from_ => ?_
          have executed := answer.executed_of_target (part.subset member) target
          rcases flags ⟨entry, part.subset member, target⟩ with mismatch | control
          · exact pays _ _ rfl executed mismatch
          · have held := (regular.stored _ stored).held control
            simp [executed] at held
      | counted inMemory stored executed unclassifiable => exact unflagged
      | noticeLost stored pending => exact unflagged
      | noticed demo early stored pending decided first =>
          exact unflagged.append (by simp [Unflagged, noticeEntries])
      | noticedAgain demo early stored pending decided again =>
          exact unflagged.append (by simp [Unflagged, noticeEntries])
      | resolved early stored escalated =>
          exact unflagged.append (by simp [Unflagged, humanResolution])
  | approved named spends etcd admitted uncommitted =>
      exact unflagged.append (by simp [Unflagged, effectApplied])
  | healed named spends etcd admitted committed =>
      exact unflagged.append (by simp [Unflagged, effectApplied])
  | escalated named spends stored scheduled =>
      exact unflagged.append (by simp [Unflagged, distressSignal])
  | reordered spends perm kept => exact unflagged

-----------------------------------------------------------------------------------------
-- The result
-----------------------------------------------------------------------------------------

/-- Every time a case enters RETRY_EXECUTED during a run, the commit log has the key of its
next attempt.
-/
def EntriesCommitted (deployment : Deployment) (start : World) (events : List Event) : Prop :=
  ∀ before event after,
    events = before ++ event :: after
    → ∀ caseId case,
        let world := start.run deployment before
        let world' := world.handle deployment event
        EntersExecution (world.view caseId) (world'.view caseId) case
        → (world'.log.find? (EtcdQuorumBackend.keyFor caseId (case.retriesUsed + 1))).isSome

/-- What holds of a service in every state of a run that picks the next decisions. -/
structure World.Backed (world : World) : Prop where
  regular : world.Regular
  cases : ∀ caseId, RecoveryAgent.Backed (world.view caseId)

theorem World.backed_run {deployment : Deployment} {usePostgres : Bool} {clock : ServiceClock}
    {events : List Event}
    (picks
      : Run.Along (World.handle deployment) (World.start usePostgres clock) events
          (PicksNext deployment))
    : ((World.start usePostgres clock).run deployment events).Backed := by
  refine picks.keeps ⟨World.regular_start usePostgres clock, fun caseId => ?_⟩ ?_
  · rw [World.view_start]
    constructor <;> simp
  · intro world event ⟨regular, cases⟩ picked
    refine ⟨regular.handle event, fun caseId => ?_⟩
    exact ((cases caseId).moved (regular.cases caseId) picked
      ((World.handle_moved deployment regular.sound event).2 caseId)).1

/-- In every run in which each `execute_retry` that gets to its commit picks the decision of
the next attempt, every execution has its own commit: a case enters RETRY_EXECUTED only with
that attempt committed, and no more often than attempts are committed. Entries from
RETRY_EXECUTED to itself are flags of wrong amounts; without those, all entries that name the
state are counted.
-/
theorem executions_committed {deployment : Deployment} {usePostgres : Bool}
    {clock : ServiceClock} {events : List Event}
    (picks
      : Run.Along (World.handle deployment) (World.start usePostgres clock) events
          (PicksNext deployment))
    : let final := (World.start usePostgres clock).run deployment events
      EntriesCommitted deployment (World.start usePostgres clock) events
      ∧ (∀ caseId,
          (committedAttempts final.log caseId).Nodup
          ∧ executions (final.view caseId).trail ≤ (committedAttempts final.log caseId).length)
      ∧ (Run.Along (World.handle deployment) (World.start usePostgres clock) events PaysInFull
        → ∀ caseId,
            (final.view caseId).trail.countP (·.toState = .retryExecuted)
            ≤ (committedAttempts final.log caseId).length) := by
  intro final
  have backed : final.Backed := World.backed_run picks
  refine ⟨?_, fun caseId => ⟨backed.regular.sound.committed_nodup caseId,
    (backed.cases caseId).count⟩, fun pays caseId => ?_⟩
  · intro before event after split caseId case world world' enters
    rw [split] at picks
    have there : world.Backed := World.backed_run picks.take
    obtain ⟨sound, moved⟩ := World.handle_moved deployment there.regular.sound event
    rw [← sound.mem_committed]
    exact ((there.cases caseId).moved (there.regular.cases caseId)
      (picks before event after rfl) (moved caseId)).2 case enters
  · let inv (world : World) : Prop :=
      world.Regular ∧ ∀ caseId, Unflagged (world.view caseId).trail
    have start : inv (World.start usePostgres clock) := by
      refine ⟨World.regular_start usePostgres clock, fun caseId => ?_⟩
      rw [World.view_start]
      simp [Unflagged]
    have kept : inv final := pays.keeps start fun world event ⟨regular, unflagged⟩ paid =>
      ⟨regular.handle event, fun caseId => (unflagged caseId).moved (regular.cases caseId) paid
        ((World.handle_moved deployment regular.sound event).2 caseId)⟩
    rw [(kept.2 caseId).executions_eq]
    exact (backed.cases caseId).count

/-- The decision in front of a case's list is for its next attempt, as a test. -/
def picksNext (world : World) (caseId : String) : Bool :=
  (world.view caseId).case.all fun case =>
    (world.view caseId).pending.head?.all fun decision =>
      decision.attemptNumber = case.retriesUsed + 1

/-- An `execute_retry` picks the next decision where it is in front. -/
theorem picksNext_retry {deployment : Deployment} {world : World}
    (front : picksNext world "pay_2" = true)
    : PicksNext deployment world retry := by
  intro segment case decision same admitted
  rw [retry_segment same] at admitted
  have picked := (Option.all_eq_true _ _).mp front case admitted.stored
  exact of_decide_eq_true ((Option.all_eq_true _ _).mp picked decision admitted.first)

/-- Both retries pick the decision of their own attempt. -/
theorem twoRetries_picks
    : Run.Along (World.handle demoDeployment) (World.start true demoClock) twoRetries
        (PicksNext demoDeployment) := by
  refine twoRetries_along (fun event world other segment case decision same =>
    absurd same (other segment)) (picksNext_retry ?_) (picksNext_retry ?_)
  all_goals decide +kernel

/-- A run without success deliveries. -/
theorem twoRetries_pays
    : Run.Along (World.handle demoDeployment) (World.start true demoClock) twoRetries
        PaysInFull := by
  refine Run.along_of_forall fun event member world request case same _ mismatches => ?_
  rcases twoRetries_requests (same ▸ member) with
    ⟨_, rfl⟩ | ⟨_, _, rfl⟩ | ⟨_, rfl⟩ | ⟨_, rfl⟩ <;> exact mismatches

/-- Each of the two retries of a case has its own commit. -/
theorem executions_committed_second
    : let final := (World.start true demoClock).run demoDeployment twoRetries
      EntriesCommitted demoDeployment (World.start true demoClock) twoRetries
      ∧ (∀ caseId,
          (committedAttempts final.log caseId).Nodup
          ∧ executions (final.view caseId).trail ≤ (committedAttempts final.log caseId).length)
      ∧ (∀ caseId,
          (final.view caseId).trail.countP (·.toState = .retryExecuted)
          ≤ (committedAttempts final.log caseId).length)
      ∧ executions (final.view "pay_2").trail = 2 := by
  obtain ⟨entries, counts, flagless⟩ := executions_committed twoRetries_picks
  refine ⟨entries, counts, flagless twoRetries_pays, ?_⟩
  decide +kernel

/-- Executions do not always have a commit of their own. Witness: the second retry of a case
on the in-memory store is healed from the first one's commit.
-/
theorem executions_not_committed
    : ¬ ∀ (deployment : Deployment) (usePostgres : Bool) (clock : ServiceClock)
        (events : List Event),
        deployment.useEtcd = true
        → let final := (World.start usePostgres clock).run deployment events
          EntriesCommitted deployment (World.start usePostgres clock) events
          ∧ ∀ caseId,
              (final.view caseId).trail.countP (·.toState = .retryExecuted)
              ≤ (committedAttempts final.log caseId).length := by
  intro claimed
  have counts := (claimed demoDeployment false demoClock
    (declineAndNotice "pay_2" ++ [retry] ++ declineAndNotice "pay_3" ++ [retry]) rfl).2 "pay_2"
  have final
      : (World.start false demoClock).run demoDeployment
          (declineAndNotice "pay_2" ++ [retry] ++ declineAndNotice "pay_3" ++ [retry])
        = secondRetryDue.handle demoDeployment retry :=
    List.foldl_append
  rw [final] at counts
  have two
      : ((secondRetryDue.handle demoDeployment retry).view "pay_2").trail.countP
          (·.toState = .retryExecuted) = 2 := by
    decide +kernel
  have one
      : (committedAttempts (secondRetryDue.handle demoDeployment retry).log "pay_2").length
        = 1 := by
    decide +kernel
  rw [two, one] at counts
  exact absurd counts (by decide)

end RecoveryAgent
