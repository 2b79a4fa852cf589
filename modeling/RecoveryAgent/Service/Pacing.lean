import Mathlib.Data.Int.ConditionallyCompleteOrder
import RecoveryAgent.Service.NextRetry
import RecoveryAgent.Core.RetryCap

/-! Whether executions keep the notice lead time and the retry spacing.
The scheduler puts both into the instant it decides. An execution keeps them where it waits
for the instant decided for its own attempt, whichever decision is committed.
-/

namespace RecoveryAgent

open StateMachine Handler Tracked

-----------------------------------------------------------------------------------------
-- Lawful trails
-----------------------------------------------------------------------------------------

/-- Neither the notice of a retry nor an execution. -/
def AuditEntry.Plain (entry : AuditEntry) : Prop :=
  ¬ entry.Enters .noticeSent ∧ ¬ entry.Enters .retryExecuted

instance (entry : AuditEntry) : Decidable entry.Plain := inferInstanceAs (Decidable (_ ∧ _))

/-- The latest notice of a trail, with no execution after it, leads an instant by the lead
time.
-/
def NoticeLeads (config : AppConfig) (trail : List AuditEntry) (instant : Datetime) : Prop :=
  ∃ earlier notice between,
    trail = earlier ++ notice :: between
    ∧ notice.Enters .noticeSent
    ∧ (∀ entry ∈ between, entry.Plain)
    ∧ notice.timestamp + config.npciRules.noticeLeadTime ≤ instant

/-- An execution behind a trail keeps the lead time from the notice of its attempt and the
spacing from the previous execution, which depends on how many came before.
-/
structure Lawful (config : AppConfig) (before : List AuditEntry) (execution : AuditEntry)
    : Prop where
  noticed : NoticeLeads config before execution.timestamp
  spaced
    : ∀ earlier previous between,
        before = earlier ++ previous :: between
        → previous.Enters .retryExecuted
        → (∀ entry ∈ between, ¬ entry.Enters .retryExecuted)
        → ∃ spacing,
            config.selfImposed.spacing? (executions before) = some spacing
            ∧ previous.timestamp + spacing ≤ execution.timestamp

/-- Every execution of a trail is lawful behind the entries before it. -/
def LawfulTrail (config : AppConfig) (trail : List AuditEntry) : Prop :=
  ∀ before execution after,
    trail = before ++ execution :: after
    → execution.Enters .retryExecuted
    → Lawful config before execution

/-- One more entry is lawful where it is no execution, or a lawful one. -/
theorem LawfulTrail.concat {config : AppConfig} {trail : List AuditEntry}
    (lawful : LawfulTrail config trail) {entry : AuditEntry}
    (next : entry.Enters .retryExecuted → Lawful config trail entry)
    : LawfulTrail config (trail ++ [entry]) := by
  intro before execution after split enters
  rcases List.eq_nil_or_concat after with rfl | ⟨rest, last, rfl⟩
  · obtain ⟨rfl, same⟩ := List.append_inj' split rfl
    cases same
    exact next enters
  · rw [List.concat_eq_append, ← List.cons_append, ← List.append_assoc] at split
    obtain ⟨rfl, _⟩ := List.append_inj' split rfl
    exact lawful before execution rest rfl enters

/-- Entries that execute nothing can be added, by induction over them. -/
theorem LawfulTrail.append {config : AppConfig} {trail written : List AuditEntry}
    (lawful : LawfulTrail config trail)
    (plain : ∀ entry ∈ written, ¬ entry.Enters .retryExecuted)
    : LawfulTrail config (trail ++ written) := by
  induction written generalizing trail with
  | nil => simpa using lawful
  | cons entry rest ih =>
      obtain ⟨first, later⟩ := List.forall_mem_cons.mp plain
      have step := ih (lawful.concat fun enters => absurd enters first) later
      simpa using step

/-- An instant that keeps the lead time from the latest notice and the spacing from every
execution so far.
-/
structure Announced (config : AppConfig) (trail : List AuditEntry) (instant : Datetime)
    : Prop where
  noticed : NoticeLeads config trail instant
  spaced
    : ∃ spacing,
        config.selfImposed.spacing? (executions trail) = some spacing
        ∧ ∀ entry ∈ trail, entry.Enters .retryExecuted → entry.timestamp + spacing ≤ instant

/-- Entries that neither notice nor execute keep an announced instant announced. -/
theorem Announced.append {config : AppConfig} {trail written : List AuditEntry}
    {instant : Datetime} (announced : Announced config trail instant)
    (plain : ∀ entry ∈ written, entry.Plain)
    : Announced config (trail ++ written) instant := by
  obtain ⟨⟨earlier, notice, between, rfl, noticed, quiet, leads⟩, spacing, entry, spaced⟩ :=
    announced
  refine ⟨⟨earlier, notice, between ++ written, by simp, noticed,
    List.forall_mem_append.mpr ⟨quiet, plain⟩, leads⟩, spacing, ?_, ?_⟩
  · have none_ : executions written = 0 :=
      List.countP_eq_zero.mpr fun entry member enters =>
        (plain entry member).2 (of_decide_eq_true enters)
    rw [executions_append, none_, Nat.add_zero]
    exact entry
  · intro other member enters
    rcases List.mem_append.mp member with old | new
    · exact spaced other old enters
    · exact absurd enters (plain other new).2

/-- An execution at or after an announced instant is lawful. -/
theorem Announced.lawful {config : AppConfig} {trail : List AuditEntry} {instant : Datetime}
    (announced : Announced config trail instant) {execution : AuditEntry}
    (late : instant ≤ execution.timestamp)
    : Lawful config trail execution := by
  obtain ⟨⟨earlier, notice, between, split, noticed, quiet, leads⟩, spacing, found, spaced⟩ :=
    announced
  refine ⟨⟨earlier, notice, between, split, noticed, quiet, leads.trans late⟩, ?_⟩
  rintro before previous rest same enters _
  exact ⟨spacing, found, (spaced previous (by simp [same]) enters).trans late⟩

-----------------------------------------------------------------------------------------
-- Conditions on the steps of a run
-----------------------------------------------------------------------------------------

/-- An `execute_retry` that gets to its commit does so at or after the instant decided for
the next attempt of the case, by the clock reading its audit entry is stamped with.
-/
def WaitsForNext (deployment : Deployment) (world : World) (event : Event) : Prop :=
  ∀ segment case decision,
    event = .request (.executeRetry segment)
    → deployment.useEtcd = true
    → Admitted deployment world segment.text case decision
    → ∃ next ∈ (world.view segment.text).decisions,
        next.attemptNumber = case.retriesUsed + 1 ∧ next.scheduledAt ≤ world.clock.reading 3

/-- In memory, no failure delivery for an executed case carries codes that cannot be
classified.
-/
def OutcomesClassified (config : AppConfig) (world : World) (event : Event) : Prop :=
  ∀ request case,
    event = .request request
    → world.store.isInMemory = true
    → case.state = .retryExecuted
    → ¬ request.Unclassifiable config world.store case

-----------------------------------------------------------------------------------------
-- The clock
-----------------------------------------------------------------------------------------

/-- A clock with nondecreasing wall-clock readings does not run backwards. -/
theorem ServiceClock.reading_mono {clock : ServiceClock} (monotone : Monotone clock.wall)
    {i j : Nat} (le : i ≤ j)
    : clock.reading i ≤ clock.reading j := by
  have wall := monotone (Nat.add_le_add_left le clock.reads)
  unfold reading
  exact Int.add_le_add_right wall _

/-- The next clock reads the same wall and never earlier. -/
structure ServiceClock.Later (clock clock' : ServiceClock) : Prop where
  wall : clock'.wall = clock.wall
  reading : ∀ k, clock.reading k ≤ clock'.reading k

theorem ServiceClock.later_skip {clock : ServiceClock} (monotone : Monotone clock.wall)
    (spent : Nat)
    : clock.Later (clock.skip spent) where
  wall := rfl
  reading k := by
    rw [reading_skip]
    exact reading_mono monotone (Nat.le_add_left k spent)

/-- No event turns a nondecreasing clock back. -/
theorem World.handle_later (deployment : Deployment) {world : World}
    (sound : SoundLog world.log) (monotone : Monotone world.clock.wall) (event : Event)
    : world.clock.Later (world.handle deployment event).clock := by
  cases event with
  | reorder cases decisions => exact ⟨rfl, fun _ => le_rfl⟩
  | request request =>
      have served := request.served deployment sound
      have handled : world.handle deployment (.request request)
          = (exec deployment (request.handler deployment) world).2 := rfl
      rw [handled]
      generalize (exec deployment (request.handler deployment) world).2 = world' at served
      have skipped {spent : Nat} (clock : world'.clock = world.clock.skip spent)
          : world.clock.Later world'.clock := by
        rw [clock]
        exact ServiceClock.later_skip monotone spent
      cases served with
      | stepped stepped =>
          obtain ⟨_, _, _, touched, _⟩ := stepped
          exact skipped touched.clock
      | executed caseId outcome =>
          cases outcome with
          | approved _ _ _ touched => exact skipped touched.clock
          | healed _ _ _ touched => exact skipped touched.clock
          | escalated _ _ _ touched => exact skipped touched.clock
          | idle _ _ touched => exact skipped touched.clock
      | @advanced delta advanced =>
          rw [advanced.clock]
          refine ⟨rfl, fun k => ?_⟩
          have wall := monotone (show world.clock.reads + k ≤ world.clock.reads + 1 + k by omega)
          have forward := advanced.positive
          simp only [ServiceClock.reading, Datetime, Timedelta] at *
          omega

/-- All entries of a trail are stamped before the readings to come. -/
def Past (clock : ServiceClock) (trail : List AuditEntry) : Prop :=
  ∀ entry ∈ trail, ∀ k, entry.timestamp ≤ clock.reading k

/-- Every event stamps its entries before the readings to come. -/
theorem Past.moved {deployment : Deployment} {world : World} {caseId : String}
    (past : Past world.clock (world.view caseId).trail) (monotone : Monotone world.clock.wall)
    {clock : ServiceClock} (later : world.clock.Later clock) {event : Event} {view : CaseView}
    (moved : Moved deployment world clock caseId event view)
    : Past clock view.trail := by
  have old : Past clock (world.view caseId).trail := fun entry listed k =>
    (past entry listed k).trans (later.reading k)
  have stamped {written : List AuditEntry} {spent i : Nat} (early : i < spent)
      (spends : clock = world.clock.skip spent)
      (stamped : ∀ entry ∈ written, entry.timestamp = world.clock.reading i)
      : Past clock ((world.view caseId).trail ++ written) := by
    refine List.forall_mem_append.mpr ⟨old, fun entry listed k => ?_⟩
    rw [stamped entry listed, spends, ServiceClock.reading_skip]
    exact ServiceClock.reading_mono monotone (by omega)
  cases moved with
  | same => exact old
  | stepped spends step =>
      cases step with
      | same => exact old
      | opened early absent opened part =>
          exact stamped early spends fun entry listed =>
            opened.stamped entry (part.subset listed)
      | answered early stored answer part flags =>
          exact stamped early spends fun entry listed =>
            (answer.entries_plain entry (part.subset listed)).2.1
      | counted inMemory stored executed unclassifiable => exact old
      | noticeLost stored pending => exact old
      | noticed demo early stored pending decided first =>
          exact stamped (Nat.lt_of_succ_lt early) spends (by simp [noticeEntries])
      | noticedAgain demo early stored pending decided again =>
          exact stamped (Nat.lt_of_succ_lt early) spends (by simp [noticeEntries])
      | resolved early stored escalated =>
          exact stamped early spends (by simp [humanResolution])
  | approved named spends etcd admitted uncommitted =>
      exact stamped (by omega : 3 < 4) spends (by simp [effectApplied])
  | healed named spends etcd admitted committed =>
      exact stamped (by omega : 3 < 4) spends (by simp [effectApplied])
  | escalated named spends stored scheduled =>
      exact stamped Nat.one_lt_two spends (by simp [distressSignal])
  | reordered spends perm kept => exact old

-----------------------------------------------------------------------------------------
-- The invariant
-----------------------------------------------------------------------------------------

/-- A case has executed as many retries as it has used, and one more while it is executed. A
scheduled case has its next instant announced, and its trail is lawful.
-/
structure Paced (config : AppConfig) (view : CaseView) : Prop where
  waiting
    : ∀ case, view.case = some case → case.state ∈ [CaseState.noticePending, .retryScheduled]
      → executions view.trail = case.retriesUsed
  awaiting
    : ∀ case, view.case = some case → case.state = .retryExecuted
      → executions view.trail = case.retriesUsed + 1
  ready
    : ∀ case, view.case = some case → case.state = .retryScheduled
      → ∀ decision ∈ view.decisions, decision.attemptNumber = case.retriesUsed + 1
        → Announced config view.trail decision.scheduledAt
  lawful : LawfulTrail config view.trail

namespace Paced

variable {config : AppConfig} {view : CaseView}

/-- Away from its retries, a case is only bound by the entries it has. -/
theorem away {case : RecoveryCase} {decisions : List RetryDecision} {trail : List AuditEntry}
    {committed : List Nat}
    (state
      : case.state ∉ [CaseState.noticePending, .retryScheduled, .retryExecuted])
    (lawful : LawfulTrail config trail)
    : Paced config { case := some case, decisions, trail, committed } := by
  refine ⟨?_, ?_, ?_, lawful⟩
  · rintro _ ⟨⟩ waiting
    rcases List.mem_cons.mp waiting with same | rest
    · simp [same] at state
    · simp [List.mem_singleton.mp rest] at state
  · rintro _ ⟨⟩ same
    simp [same] at state
  · rintro _ ⟨⟩ same
    simp [same] at state

/-- A case that is opened has executed nothing. -/
theorem opened (paced : Paced config view) (noTrail : view.trail = [])
    {event : PaymentFailureEvent} {now : Datetime} {case : RecoveryCase}
    {entries written : List AuditEntry} (opened : Opened event now case entries)
    (plain : ∀ entry ∈ written, ¬ entry.Enters .retryExecuted)
    : Paced config { view with case := some case, trail := view.trail ++ written } := by
  have state := opened.state
  have count : executions (view.trail ++ written) = 0 := by
    rw [noTrail, List.nil_append]
    exact List.countP_eq_zero.mpr fun entry listed enters =>
      plain entry listed (of_decide_eq_true enters)
  refine ⟨?_, ?_, ?_, paced.lawful.append plain⟩
  · rintro _ ⟨⟩ _
    exact count.trans opened.retriesUsed.symm
  · rintro _ ⟨⟩ executed
    simp [openingState, executed] at state
  · rintro _ ⟨⟩ scheduled
    simp [openingState, scheduled] at state

/-- A case that answers an event stays paced. -/
theorem answered (paced : Paced config view) {case case' : RecoveryCase} {now : Datetime}
    {entries written : List AuditEntry} (stored : view.case = some case)
    (answer : Answer config now case case' entries) (part : written <+: entries)
    : Paced config { view with case := some case', trail := view.trail ++ written } := by
  have plain : ∀ entry ∈ written, entry.Plain := fun entry listed =>
    have facts := answer.entries_plain entry (part.subset listed)
    ⟨facts.2.2.1, facts.2.2.2.1⟩
  have count : executions (view.trail ++ written) = executions view.trail := by
    have none_ : executions written = 0 :=
      List.countP_eq_zero.mpr fun entry member enters =>
        (plain entry member).2 (of_decide_eq_true enters)
    rw [executions_append, none_, Nat.add_zero]
  have lawful : LawfulTrail config (view.trail ++ written) :=
    paced.lawful.append fun entry listed => (plain entry listed).2
  rcases answer.state_cases with rfl | ⟨executed, more, state⟩ | ⟨_, state⟩
  · refine ⟨?_, ?_, ?_, lawful⟩
    · rintro _ ⟨⟩ waiting
      exact count.trans (paced.waiting _ stored waiting)
    · rintro _ ⟨⟩ executed
      exact count.trans (paced.awaiting _ stored executed)
    · rintro _ ⟨⟩ scheduled decision listed next
      exact (paced.ready _ stored scheduled decision listed next).append plain
  · rcases state with state | state
    · exact away (by simp [state]) lawful
    · refine ⟨?_, ?_, ?_, lawful⟩
      · rintro _ ⟨⟩ _
        rw [count, paced.awaiting _ stored executed, more]
      · rintro _ ⟨⟩ again
        cases state.symm.trans again
      · rintro _ ⟨⟩ scheduled
        cases state.symm.trans scheduled
  · refine away ?_ lawful
    rcases state with state | state | state | state <;> simp [state]

/-- A notice announces the instant it decided. -/
theorem noticed {world : World} {caseId : String}
    (paced : Paced config (world.view caseId)) {inMemory : Bool}
    (regular : (world.view caseId).Regular inMemory) (loaded : config.Loaded)
    (monotone : Monotone world.clock.wall) (past : Past world.clock (world.view caseId).trail)
    {case : RecoveryCase} {decision : RetryDecision} {i : Nat}
    (stored : (world.view caseId).case = some case) (pending : case.state = .noticePending)
    (decided : Scheduled config world.clock i case decision)
    : Paced config {
        case := some { case with state := .retryScheduled }
        decisions := (world.view caseId).decisions ++ [decision]
        trail := (world.view caseId).trail
          ++ noticeEntries caseId (world.clock.reading i) decision.scheduledAt
        committed := (world.view caseId).committed
      } := by
  have used := paced.waiting case stored (by simp [pending])
  have count
      : executions ((world.view caseId).trail
          ++ noticeEntries caseId (world.clock.reading i) decision.scheduledAt)
        = case.retriesUsed := by
    rw [← used]
    simp [noticeEntries, AuditEntry.Enters]
  refine ⟨?_, ?_, ?_, paced.lawful.append (by simp [noticeEntries, AuditEntry.Enters])⟩
  · rintro _ ⟨⟩ _
    exact count
  · rintro _ ⟨⟩ executed
    cases executed
  · rintro _ ⟨⟩ _ other listed next
    rcases List.mem_append.mp listed with old | new
    · -- earlier decisions are for the retries that have been used
      have behind := (regular.stored case stored).ahead pending other old
      rw [next] at behind
      exact absurd behind (Nat.not_succ_le_self _)
    rw [List.mem_singleton.mp new]
    obtain ⟨spacing, found, leads, spaced⟩ := decided.floor loaded
    refine ⟨⟨(world.view caseId).trail, _, _, rfl, by simp [AuditEntry.Enters],
      by simp [AuditEntry.Plain, AuditEntry.Enters], ?_⟩, spacing, by rw [count, found], ?_⟩
    · exact (Int.add_le_add_right
        (ServiceClock.reading_mono monotone (Nat.le_succ i)) _).trans leads
    · intro entry member enters
      rcases List.mem_append.mp member with earlier | noticing
      · exact (Int.add_le_add_right (past entry earlier (i + 1)) _).trans spaced
      · simp only [noticeEntries, List.mem_cons, List.not_mem_nil, or_false] at noticing
        rcases noticing with rfl | rfl <;> cases enters.1

/-- An execution at or after the announced instant of its attempt is lawful. -/
theorem executed (paced : Paced config view) {case : RecoveryCase}
    (stored : view.case = some case) (scheduled : case.state = .retryScheduled)
    {decision : RetryDecision} (listed : decision ∈ view.decisions)
    (next : decision.attemptNumber = case.retriesUsed + 1) {now : Datetime}
    (late : decision.scheduledAt ≤ now) (committed : List Nat)
    : Paced config { executedView view case now with committed } := by
  have used := paced.waiting case stored (by simp [scheduled])
  have announced := paced.ready case stored scheduled decision listed next
  refine ⟨?_, ?_, ?_, paced.lawful.concat fun _ => announced.lawful late⟩
  · rintro _ ⟨⟩ waiting
    simp at waiting
  · rintro _ ⟨⟩ _
    simp [executedView, effectApplied, AuditEntry.Enters, used]
  · rintro _ ⟨⟩ again
    cases again

/-- Every event that waits for the next instant and has its outcomes classified keeps a case
paced.
-/
theorem moved {deployment : Deployment} {world : World} {caseId : String}
    (paced : Paced deployment.config (world.view caseId)) {inMemory : Bool}
    (regular : (world.view caseId).Regular inMemory) (loaded : deployment.config.Loaded)
    (monotone : Monotone world.clock.wall) (past : Past world.clock (world.view caseId).trail)
    {event : Event} (waits : WaitsForNext deployment world event)
    (classified : OutcomesClassified deployment.config world event) {clock : ServiceClock}
    {view : CaseView} (moved : Moved deployment world clock caseId event view)
    : Paced deployment.config view := by
  cases moved with
  | same => exact paced
  | stepped spends step =>
      cases step with
      | same => exact paced
      | opened early absent opened part =>
          obtain ⟨_, noTrail, _⟩ := regular.absent absent
          exact paced.opened noTrail opened fun entry listed enters =>
            opened.notExecuted entry (part.subset listed) enters.1
      | answered early stored answer part flags => exact paced.answered stored answer part
      | counted inMemory stored executed unclassifiable =>
          exact absurd unclassifiable (classified _ _ rfl inMemory executed)
      | noticeLost stored pending => exact away (by simp) paced.lawful
      | noticed demo early stored pending decided first =>
          exact paced.noticed regular loaded monotone past stored pending decided
      | noticedAgain demo early stored pending decided again =>
          obtain ⟨old, listed, same⟩ := List.mem_map.mp again
          have behind := (regular.stored _ stored).ahead pending old listed
          rw [same, decided.attemptNumber] at behind
          exact absurd behind (Nat.not_succ_le_self _)
      | resolved early stored escalated =>
          exact away (by simp) (paced.lawful.append (by simp [humanResolution, AuditEntry.Enters]))
  | approved named spends etcd admitted uncommitted =>
      subst named
      obtain ⟨next, listed, attempt, late⟩ := waits _ _ _ rfl etcd admitted
      exact paced.executed admitted.stored admitted.scheduled listed attempt late _
  | healed named spends etcd admitted committed =>
      subst named
      obtain ⟨next, listed, attempt, late⟩ := waits _ _ _ rfl etcd admitted
      exact paced.executed admitted.stored admitted.scheduled listed attempt late _
  | escalated named spends stored scheduled =>
      exact away (by simp) (paced.lawful.append (by simp [distressSignal, AuditEntry.Enters]))
  | reordered spends perm kept =>
      refine ⟨paced.waiting, paced.awaiting, ?_, paced.lawful⟩
      intro case stored scheduled decision listed
      exact paced.ready case stored scheduled decision (perm.mem_iff.mpr listed)

end Paced

-----------------------------------------------------------------------------------------
-- The result
-----------------------------------------------------------------------------------------

/-- What holds of a service in every state of a run that waits for the next instants. -/
structure World.Paced (deployment : Deployment) (world : World) : Prop where
  regular : world.Regular
  monotone : Monotone world.clock.wall
  past : ∀ caseId, Past world.clock (world.view caseId).trail
  cases : ∀ caseId, RecoveryAgent.Paced deployment.config (world.view caseId)

/-- In every run with a nondecreasing clock in which each `execute_retry` that gets to its
commit waits for the instant decided for the next attempt, every execution keeps the lead
time from the notice of its attempt and the spacing from the previous execution.
-/
theorem executions_lawful {deployment : Deployment} (loaded : deployment.config.Loaded)
    {usePostgres : Bool} {clock : ServiceClock} (monotone : Monotone clock.wall)
    {events : List Event}
    (waits
      : Run.Along (World.handle deployment) (World.start usePostgres clock) events
          (WaitsForNext deployment))
    (classified
      : Run.Along (World.handle deployment) (World.start usePostgres clock) events
          (OutcomesClassified deployment.config))
    : ∀ caseId,
        LawfulTrail deployment.config
          (((World.start usePostgres clock).run deployment events).view caseId).trail := by
  have start : (World.start usePostgres clock).Paced deployment := by
    refine ⟨World.regular_start usePostgres clock, monotone, fun caseId => ?_, fun caseId => ?_⟩
    · rw [World.view_start]
      simp [Past]
    · rw [World.view_start]
      constructor <;> simp [LawfulTrail]
  have both
      : Run.Along (World.handle deployment) (World.start usePostgres clock) events
          fun world event =>
            WaitsForNext deployment world event
            ∧ OutcomesClassified deployment.config world event :=
    fun before event after split =>
      ⟨waits before event after split, classified before event after split⟩
  have kept : ((World.start usePostgres clock).run deployment events).Paced deployment := by
    refine both.keeps start fun world event paced meets => ?_
    obtain ⟨regular, monotone, past, cases⟩ := paced
    obtain ⟨waits, ok⟩ := meets
    have later := World.handle_later deployment regular.sound monotone event
    have moved := (World.handle_moved deployment regular.sound event).2
    refine ⟨regular.handle event, later.wall ▸ monotone, fun caseId => ?_, fun caseId => ?_⟩
    · exact (past caseId).moved monotone later (moved caseId)
    · exact (cases caseId).moved (regular.cases caseId) loaded monotone (past caseId) waits ok
        (moved caseId)
  exact fun caseId => (kept.cases caseId).lawful

-----------------------------------------------------------------------------------------
-- A run that waits and one that does not
-----------------------------------------------------------------------------------------

theorem demoClock_monotone : Monotone demoClock.wall := by
  intro i j le
  have scaled : (i : Int) * 1000000 ≤ (j : Int) * 1000000 := by omega
  exact Int.add_le_add_left scaled _

/-- The decision of the next attempt is due by the time of the commit, as a test. -/
def nextDueAtCommit (world : World) (caseId : String) : Bool :=
  (world.view caseId).case.all fun case =>
    (world.view caseId).decisions.any fun decision =>
      decision.attemptNumber = case.retriesUsed + 1
      ∧ decision.scheduledAt ≤ world.clock.reading 3

theorem waitsForNext_retry {deployment : Deployment} {world : World}
    (due : nextDueAtCommit world "pay_2" = true)
    : WaitsForNext deployment world retry := by
  intro segment case decision same etcd admitted
  rw [retry_segment same] at admitted ⊢
  have found := (Option.all_eq_true _ _).mp due case admitted.stored
  obtain ⟨next, listed, facts⟩ := List.any_eq_true.mp found
  exact ⟨next, listed, of_decide_eq_true facts⟩

/-- Both retries wait for the decision of their own attempt. -/
theorem twoRetries_wait
    : Run.Along (World.handle demoDeployment) (World.start true demoClock) twoRetries
        (WaitsForNext demoDeployment) := by
  refine twoRetries_along (fun event world other segment case decision same =>
    absurd same (other segment)) (waitsForNext_retry ?_) (waitsForNext_retry ?_)
  all_goals decide +kernel

/-- The codes of the simulated declines are text. -/
theorem twoRetries_classified
    : Run.Along (World.handle demoDeployment) (World.start true demoClock) twoRetries
        (OutcomesClassified demoDeployment.config) := by
  refine Run.along_of_forall fun event member world request case same _ _ unclassifiable => ?_
  rcases twoRetries_requests (same ▸ member) with
    ⟨paymentId, rfl⟩ | ⟨_, _, rfl⟩ | ⟨_, rfl⟩ | ⟨_, rfl⟩
  · obtain ⟨_, raised, failed⟩ := unclassifiable
    obtain ⟨_, classified⟩ := classifyFailure_ok demoDeployment.config
      (Json.isCode_str "upi_timeout") Json.isCode_null
    cases failed.symm.trans classified
  all_goals exact unclassifiable

/-- Two retries of a case keep the lead times and the spacing when they are due. -/
theorem executions_lawful_due
    : let trail := (((World.start true demoClock).run demoDeployment twoRetries).view "pay_2").trail
      LawfulTrail demoDeployment.config trail ∧ executions trail = 2 := by
  refine ⟨executions_lawful (shippedConfig_loaded .demo) demoClock_monotone twoRetries_wait
    twoRetries_classified "pay_2", ?_⟩
  decide +kernel

/-- The latest entry that notices or executes decides whether a notice leads an instant. -/
theorem NoticeLeads.latest {config : AppConfig} {trail : List AuditEntry} {instant : Datetime}
    (leads : NoticeLeads config trail instant)
    : ∃ notice,
        trail.reverse.find? (fun entry => ¬ entry.Plain) = some notice
        ∧ notice.timestamp + config.npciRules.noticeLeadTime ≤ instant := by
  obtain ⟨earlier, notice, between, rfl, noticed, quiet, leads⟩ := leads
  refine ⟨notice, ?_, leads⟩
  have skipped : between.reverse.find? (fun entry => ¬ entry.Plain) = none := by
    simpa using quiet
  have found : ¬ notice.Plain := fun plain => plain.1 noticed
  rw [List.reverse_append, List.reverse_cons, List.find?_append, List.find?_append, skipped]
  simp [found]

/-- Executions do not always keep the lead time. Witness: the second retry of a case is
called right after its notice, where the first retry's decision, due for days, is picked.
-/
theorem executions_not_lawful
    : ¬ ∀ (deployment : Deployment) (usePostgres : Bool) (clock : ServiceClock)
        (events : List Event) (caseId : String),
        deployment.config.Loaded
        → deployment.useEtcd = true
        → Monotone clock.wall
        → LawfulTrail deployment.config
            (((World.start usePostgres clock).run deployment events).view caseId).trail := by
  intro claimed
  let events := declineAndNotice "pay_2" ++ [retry] ++ [
    .request (timeout "pay_3"), .request (.sendNotice ⟨"pay_2", by decide⟩ ⟨false, 0⟩), retry]
  let trail := (((World.start false demoClock).run demoDeployment events).view "pay_2").trail
  have lawful : LawfulTrail demoDeployment.config trail :=
    claimed demoDeployment false demoClock events "pay_2" (shippedConfig_loaded .demo) rfl
      demoClock_monotone
  have early
      : ∃ execution ∈ trail.getLast?,
          execution.Enters .retryExecuted
          ∧ ∃ notice ∈ trail.dropLast.reverse.find? (fun entry => ¬ entry.Plain),
              execution.timestamp < notice.timestamp + hours 24 := by
    decide +kernel
  obtain ⟨execution, last, enters, notice, latest, close⟩ := early
  have whole := List.dropLast_append_getLast? execution last
  obtain ⟨other, found, leads⟩ := (lawful _ execution [] whole.symm enters).noticed.latest
  cases found.symm.trans latest
  exact absurd leads (not_le.mpr close)

end RecoveryAgent
