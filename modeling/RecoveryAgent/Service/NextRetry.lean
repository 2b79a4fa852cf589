import RecoveryAgent.Service.Runs

/-! Whether a due retry is the one that is executed.
`execute_retry` takes the first pending decision of the case, and decisions never leave the
pending list, so the first retry's decision stays in front of all later ones.
-/

namespace RecoveryAgent

open StateMachine Handler

-----------------------------------------------------------------------------------------
-- The statement
-----------------------------------------------------------------------------------------

/-- The next retry of a case is due: it is scheduled, its instrument is not distressed, its
decision is recorded and due at the reading `execute_retry` checks it against, and its
attempt is not committed.
-/
structure NextDue (world : World) (caseId : String) (case : RecoveryCase)
    (decision : RetryDecision)
    : Prop where
  stored : (world.view caseId).case = some case
  scheduled : case.state = .retryScheduled
  calm : world.distress.isDistressed case.instrumentId (world.clock.reading 0) = false
  recorded : decision ∈ (world.view caseId).decisions
  next : decision.attemptNumber = case.retriesUsed + 1
  due : decision.scheduledAt ≤ world.clock.reading 1
  uncommitted : case.retriesUsed + 1 ∉ committedAttempts world.log caseId

/-- The next attempt of the case has been committed, nothing else has, and the case is in
execution.
-/
structure NextExecuted (world world' : World) (caseId : String) (case : RecoveryCase)
    : Prop where
  committed
    : ∀ other,
        committedAttempts world'.log other
        = committedAttempts world.log other
          ++ if other = caseId then [case.retriesUsed + 1] else []
  executed : ∃ case', (world'.view caseId).case = some case' ∧ case'.state = .retryExecuted

/-- The next retry's decision comes before the case's earlier ones: in memory, where they are
listed as they were recorded, there are none; on Postgres, the rows happen to lie so.
-/
def NextListedFirst (world : World) (caseId : String) (case : RecoveryCase) : Prop :=
  match world.store with
  | .inMemory _ => case.retriesUsed = 0
  | .postgres store =>
      (store.retryDecisions.rows.find? (·.caseId = caseId)).map (·.attemptNumber)
        = some (case.retriesUsed + 1)

instance (world : World) (caseId : String) (case : RecoveryCase)
    : Decidable (NextListedFirst world caseId case) := by
  unfold NextListedFirst
  split <;> infer_instance

-----------------------------------------------------------------------------------------
-- Scheduled cases
-----------------------------------------------------------------------------------------

/-- A case is scheduled in the demo profile only, where notices can be sent. -/
def ScheduledInDemo (deployment : Deployment) (world : World) : Prop :=
  ∀ caseId case, (world.view caseId).case = some case → case.state = .retryScheduled
    → deployment.config.profileName = .demo

/-- Every event keeps scheduled cases to the demo profile. -/
theorem ScheduledInDemo.handle {deployment : Deployment} {world : World}
    (sound : SoundLog world.log) (demo : ScheduledInDemo deployment world) (event : Event)
    : ScheduledInDemo deployment (world.handle deployment event) := by
  intro caseId case stored scheduled
  have moved := (World.handle_moved deployment sound event).2 caseId
  generalize (world.handle deployment event).view caseId = view at moved stored
  cases moved with
  | same => exact demo caseId case stored scheduled
  | stepped spends step =>
      cases step with
      | same => exact demo caseId case stored scheduled
      | opened early absent opened part =>
          cases stored
          simpa [openingState, scheduled] using opened.state
      | answered early stored' answer part flags =>
          cases stored
          rcases answer.state_cases with rfl | ⟨_, _, state⟩ | ⟨_, state⟩
          · exact demo caseId _ stored' scheduled
          · simp [scheduled] at state
          · simp [scheduled] at state
      | counted inMemory stored' executed unclassifiable =>
          cases stored
          cases executed.symm.trans scheduled
      | noticeLost stored' pending =>
          cases stored
          cases scheduled
      | noticed demo => exact demo
      | noticedAgain demo => exact demo
      | resolved early stored' escalated =>
          cases stored
          cases scheduled
  | approved named spends etcd admitted uncommitted => exact admitted.demo
  | healed named spends etcd admitted committed => exact admitted.demo
  | escalated named spends stored' scheduled' => exact demo caseId _ stored' scheduled'
  | reordered spends perm kept => exact demo caseId case stored scheduled

theorem scheduledInDemo_run (deployment : Deployment) (usePostgres : Bool)
    (clock : ServiceClock) (events : List Event)
    : ScheduledInDemo deployment ((World.start usePostgres clock).run deployment events) := by
  let inv (world : World) : Prop := world.Regular ∧ ScheduledInDemo deployment world
  have start : inv (World.start usePostgres clock) := by
    refine ⟨World.regular_start usePostgres clock, fun caseId case stored => ?_⟩
    rw [World.view_start] at stored
    cases stored
  have kept : inv ((World.start usePostgres clock).run deployment events) :=
    Run.keeps start (fun _ event ⟨regular, demo⟩ =>
      ⟨regular.handle event, demo.handle regular.sound event⟩) events
  exact kept.2

/-- The decision `execute_retry` picks in a regular service is the first that is listed. -/
theorem CaseView.Regular.pending_eq {inMemory : Bool} {view : CaseView}
    (regular : view.Regular inMemory)
    : view.pending = view.decisions :=
  List.filter_eq_self.mpr fun decision listed => by simp [regular.pending decision listed]

/-- Where the next decision is due, it is in front exactly when the listing puts it there. -/
theorem NextDue.head?_iff {world : World} (regular : world.Regular) {caseId : String}
    {case : RecoveryCase} {decision : RetryDecision} (ready : NextDue world caseId case decision)
    : (world.view caseId).pending.head? = some decision ↔ NextListedFirst world caseId case := by
  have kept := regular.cases caseId
  rw [kept.pending_eq]
  have unique := world.store.view_decisions_unique caseId
  have same {other : RetryDecision} (head : (world.view caseId).decisions.head? = some other)
      (next : other.attemptNumber = case.retriesUsed + 1)
      : other = decision :=
    List.inj_on_of_nodup_map unique (List.mem_of_mem_head? head) ready.recorded
      (next.trans ready.next.symm)
  obtain ⟨front, rest, split⟩ := List.exists_cons_of_ne_nil (List.ne_nil_of_mem ready.recorded)
  have head : (world.view caseId).decisions.head? = some front := by rw [split]; rfl
  unfold NextListedFirst
  have first := kept.first
  cases store : world.store with
  | inMemory old =>
      have attempt := first (by rw [store]; rfl)
      constructor
      · intro picked
        have := attempt decision picked
        rw [ready.next] at this
        simpa using this
      · intro unused
        rw [head, same head (by rw [attempt front head]; simp [unused])]
  | postgres old =>
      have listed : (world.view caseId).decisions.head?
          = old.retryDecisions.rows.find? (·.caseId = caseId) := by
        simp only [World.view, CaseStore.view, store, List.head?_filter]
      dsimp only
      rw [← listed, head]
      simp only [Option.map_some, Option.some.injEq]
      exact ⟨fun picked => by rw [picked, ready.next], fun next => same head next⟩

-----------------------------------------------------------------------------------------
-- The result
-----------------------------------------------------------------------------------------

/-- In every state a service reaches, `execute_retry` executes a due retry exactly when its
decision is listed before the case's earlier ones: in memory, exactly for the first retry.
Witness: a first decision for another attempt is committed or healed in its place, or is
not due.
-/
theorem executeRetry_next_iff (deployment : Deployment) (etcd : deployment.useEtcd = true)
    (usePostgres : Bool) (clock : ServiceClock) (events : List Event) (caseId : PathSegment)
    {case : RecoveryCase} {decision : RetryDecision}
    (ready
      : NextDue ((World.start usePostgres clock).run deployment events) caseId.text case decision)
    : let world := (World.start usePostgres clock).run deployment events
      NextExecuted world (world.handle deployment (.request (.executeRetry caseId)))
          caseId.text case
        ↔ NextListedFirst world caseId.text case := by
  intro world
  have regular : world.Regular := World.regular_run deployment usePostgres clock events
  have demo : deployment.config.profileName = .demo :=
    scheduledInDemo_run deployment usePostgres clock events caseId.text case ready.stored
      ready.scheduled
  rw [← ready.head?_iff regular]
  have outcome := exec_executeRetry deployment world regular.sound caseId
  have handled : world.handle deployment (.request (.executeRetry caseId))
      = (exec deployment (executeRetry deployment caseId) world).2 := rfl
  rw [handled]
  generalize (exec deployment (executeRetry deployment caseId) world).2 = world' at outcome
  -- what is committed of the case decides whether its next retry has been executed
  have grows (done : NextExecuted world world' caseId.text case)
      : (world'.view caseId.text).committed
        = (world.view caseId.text).committed ++ [case.retriesUsed + 1] := by
    simpa [World.view] using done.committed caseId.text
  have still {view : CaseView} {spent : Nat}
      (touched : world.Touched world' spent caseId.text view)
      (same : view.committed = (world.view caseId.text).committed)
      : ¬ NextExecuted world world' caseId.text case := by
    intro done
    have grown := grows done
    rw [touched.here, same] at grown
    simp at grown
  have first (picked : (world.view caseId.text).pending.head? = some decision)
      : Admitted deployment world caseId.text case decision :=
    ⟨demo, ready.stored, ready.scheduled, ready.calm, picked, ready.due⟩
  cases outcome with
  | @approved case' other admitted _ uncommitted touched =>
      cases ready.stored.symm.trans admitted.stored
      constructor
      · intro done
        have grown := grows done
        rw [touched.here] at grown
        have next : other.attemptNumber = case.retriesUsed + 1 := by simpa using grown
        have listed : other ∈ (world.view caseId.text).decisions :=
          (List.mem_filter.mp (List.mem_of_mem_head? admitted.first)).1
        rw [admitted.first, Option.some.injEq]
        exact List.inj_on_of_nodup_map (world.store.view_decisions_unique caseId.text) listed
          ready.recorded (next.trans ready.next.symm)
      · intro picked
        cases picked.symm.trans admitted.first
        refine ⟨fun id => ?_, _, by rw [touched.here]; rfl, rfl⟩
        by_cases same : id = caseId.text
        · have here : committedAttempts world'.log caseId.text = _ :=
            congrArg CaseView.committed touched.here
          rw [same, here, ready.next]
          simp [World.view]
        · have elsewhere : committedAttempts world'.log id = _ :=
            congrArg CaseView.committed (touched.elsewhere id same)
          rw [elsewhere]
          simp [World.view, same]
  | healed admitted _ committed touched =>
      refine ⟨fun done => absurd done (still touched rfl), fun picked => ?_⟩
      cases picked.symm.trans admitted.first
      rw [ready.next] at committed
      exact absurd committed ready.uncommitted
  | escalated stored scheduled distressed touched =>
      cases ready.stored.symm.trans stored
      rw [ready.calm] at distressed
      cases distressed
  | idle turned spent touched =>
      refine ⟨fun done => absurd done (still touched rfl), fun picked => ?_⟩
      have off := turned _ _ (first picked)
      rw [etcd] at off
      cases off

-----------------------------------------------------------------------------------------
-- Two retries of one case
-----------------------------------------------------------------------------------------

/-- The demo service on etcd. -/
def demoDeployment : Deployment := ⟨shippedConfig .demo, true⟩

/-- An accelerated clock that is read once a second from 2026-09-05T04:00Z on. -/
def demoClock : ServiceClock where
  timeScale := some 3600
  wall i := 1788580800000000 + seconds i
  reads := 0
  offset := 0

/-- A simulated technical decline of ₹500 on one mandate. -/
def timeout (paymentId : String) : Request :=
  .simulateFailure {
    paymentId := paymentId
    amountPaise := 50000
    vpa := "a@upi"
    errorCode := "upi_timeout"
    mandateId := some "mandate_1"
    createdAt := 1788580800
    amountPaise_pos := fiveHundredRupees_pos
  }

theorem firstPayment_noSlash : '/' ∉ "pay_2".toList := by decide

/-- A decline, its notice, and the four days until the retry is due. -/
def declineAndNotice (paymentId : String) : List Event := [
  .request (timeout paymentId),
  .request (.sendNotice ⟨"pay_2", firstPayment_noSlash⟩ ⟨false, 0⟩),
  .request (.advanceClock (hours 96))]

def retry : Event := .request (.executeRetry ⟨"pay_2", firstPayment_noSlash⟩)

def firstRetryDue : World :=
  (World.start false demoClock).run demoDeployment (declineAndNotice "pay_2")

def secondRetryDue : World :=
  (World.start false demoClock).run demoDeployment
    (declineAndNotice "pay_2" ++ [retry] ++ declineAndNotice "pay_3")

/-- The next retry of a case is due for one of its decisions, as a test. -/
def nextDue (world : World) (caseId : String) : Bool :=
  (world.view caseId).case.any fun case =>
    (world.view caseId).decisions.any fun decision =>
      case.state = .retryScheduled
      ∧ world.distress.isDistressed case.instrumentId (world.clock.reading 0) = false
      ∧ decision.attemptNumber = case.retriesUsed + 1
      ∧ decision.scheduledAt ≤ world.clock.reading 1
      ∧ case.retriesUsed + 1 ∉ committedAttempts world.log caseId

theorem exists_nextDue {world : World} {caseId : String} (found : nextDue world caseId = true)
    : ∃ case decision, NextDue world caseId case decision := by
  unfold nextDue at found
  obtain ⟨case, stored, found⟩ := (Option.any_eq_true _ _).mp found
  obtain ⟨decision, recorded, found⟩ := List.any_eq_true.mp found
  obtain ⟨scheduled, calm, next, due, uncommitted⟩ := of_decide_eq_true found
  exact ⟨case, decision, stored, scheduled, calm, recorded, next, due, uncommitted⟩

/-- The next retry of a case that used so many is due, and its decision is listed first. -/
def nextInFront (world : World) (caseId : String) (retriesUsed : ℕ) : Bool :=
  nextDue world caseId
  && (world.view caseId).case.all fun case =>
    case.retriesUsed = retriesUsed ∧ NextListedFirst world caseId case

theorem exists_nextInFront {world : World} {caseId : String} {retriesUsed : ℕ}
    (found : nextInFront world caseId retriesUsed = true)
    : ∃ case decision,
        NextDue world caseId case decision
        ∧ case.retriesUsed = retriesUsed
        ∧ NextListedFirst world caseId case := by
  obtain ⟨due, front⟩ := Bool.and_eq_true_iff.mp found
  obtain ⟨case, decision, ready⟩ := exists_nextDue due
  have front := (Option.all_eq_true _ _).mp front case ready.stored
  exact ⟨case, decision, ready, of_decide_eq_true front⟩

/-- A retry that is executed and fails, with a notice for the next one. -/
def retryDeclined : List Event := declineAndNotice "pay_2" ++ [retry] ++ declineAndNotice "pay_3"

/-- Postgres returns the decisions of that run in the opposite order. -/
def newestFirst : Event :=
  let store := ((World.start true demoClock).run demoDeployment retryDeclined).store
  .reorder store.listCases store.getPendingRetries.reverse

def secondInFront : List Event := retryDeclined ++ [newestFirst]

def secondRetryInFront : World := (World.start true demoClock).run demoDeployment secondInFront

/-- The second retry of a case is due, its decision is listed first, and it is executed. -/
theorem executeRetry_next_iff_second
    : ∃ case decision,
        NextDue secondRetryInFront "pay_2" case decision
        ∧ case.retriesUsed = 1
        ∧ NextExecuted secondRetryInFront (secondRetryInFront.handle demoDeployment retry) "pay_2"
          case := by
  have found : nextInFront secondRetryInFront "pay_2" 1 = true := by decide +kernel
  have reached
      : secondRetryInFront = (World.start true demoClock).run demoDeployment secondInFront := rfl
  generalize secondRetryInFront = world at found reached ⊢
  obtain ⟨case, decision, ready, second, first⟩ := exists_nextInFront found
  refine ⟨case, decision, ready, second, ?_⟩
  have executed
      : NextDue world "pay_2" case decision
        → (NextExecuted world (world.handle demoDeployment retry) "pay_2" case
            ↔ NextListedFirst world "pay_2" case) := by
    rw [reached]
    exact executeRetry_next_iff demoDeployment rfl true demoClock secondInFront
      ⟨"pay_2", firstPayment_noSlash⟩
  exact (executed ready).mpr first

/-- Two retries of one case on Postgres, each executed when it is due. -/
def twoRetries : List Event := secondInFront ++ [retry]

theorem retry_segment {segment : PathSegment} (same : retry = .request (.executeRetry segment))
    : segment.text = "pay_2" := by
  simp only [retry, Event.request.injEq, Request.executeRetry.injEq] at same
  rw [← same]

/-- A condition on `execute_retry` holds along the two retries when it holds of each. -/
theorem twoRetries_along {condition : World → Event → Prop}
    (others
      : ∀ event world,
          (∀ segment, event ≠ .request (.executeRetry segment)) → condition world event)
    (first
      : condition ((World.start true demoClock).run demoDeployment (declineAndNotice "pay_2"))
          retry)
    (second : condition secondRetryInFront retry)
    : Run.Along (World.handle demoDeployment) (World.start true demoClock) twoRetries
        condition := by
  have declined (paymentId : String) (start : World)
      : Run.Along (World.handle demoDeployment) start (declineAndNotice paymentId) condition :=
    Run.along_of_forall fun event member world =>
      others event world fun segment same => by simp [same, declineAndNotice, timeout] at member
  have reordered : ∀ world, condition world newestFirst := fun world =>
    others newestFirst world fun segment same => by simp [newestFirst] at same
  refine Run.along_append.mpr ⟨?_, Run.along_cons.mpr ⟨second, Run.along_nil⟩⟩
  refine Run.along_append.mpr ⟨?_, Run.along_cons.mpr ⟨reordered _, Run.along_nil⟩⟩
  refine Run.along_append.mpr ⟨?_, declined "pay_3" _⟩
  exact Run.along_append.mpr ⟨declined "pay_2" _, Run.along_cons.mpr ⟨first, Run.along_nil⟩⟩

/-- Its requests are declines, notices, waits and retries. -/
theorem twoRetries_requests {request : Request} (member : Event.request request ∈ twoRetries)
    : (∃ paymentId, request = timeout paymentId)
      ∨ (∃ segment draw, request = .sendNotice segment draw)
      ∨ (∃ span, request = .advanceClock span)
      ∨ ∃ segment, request = .executeRetry segment := by
  simp only [twoRetries, secondInFront, newestFirst, retryDeclined, declineAndNotice, retry,
    List.mem_append, List.mem_cons, List.not_mem_nil, or_false, Event.request.injEq,
    reduceCtorEq, or_assoc] at member
  rcases member with rfl | rfl | rfl | rfl | rfl | rfl | rfl | rfl <;> simp

/-- A due retry is not always executed. Witness: the second retry of a case on the in-memory
store, where the first retry's decision is picked, refused, and healed from the log.
-/
theorem executeRetry_not_next
    : ¬ ∀ (deployment : Deployment) (usePostgres : Bool) (clock : ServiceClock)
        (events : List Event) (caseId : PathSegment) (case : RecoveryCase)
        (decision : RetryDecision),
        deployment.useEtcd = true
        → NextDue ((World.start usePostgres clock).run deployment events) caseId.text case
            decision
        → NextExecuted ((World.start usePostgres clock).run deployment events)
            (((World.start usePostgres clock).run deployment events).handle deployment
              (.request (.executeRetry caseId)))
            caseId.text case := by
  intro claimed
  obtain ⟨case, decision, ready⟩ := exists_nextDue
    (show nextDue secondRetryDue "pay_2" = true by decide +kernel)
  have done : NextExecuted secondRetryDue (secondRetryDue.handle demoDeployment retry) "pay_2"
      case :=
    claimed demoDeployment false demoClock _ ⟨"pay_2", by decide⟩ case decision rfl ready
  have before : committedAttempts secondRetryDue.log "pay_2" = [1] := by decide +kernel
  have after
      : committedAttempts (secondRetryDue.handle demoDeployment retry).log "pay_2" = [1] := by
    decide +kernel
  have grown := done.committed "pay_2"
  rw [before, after] at grown
  simp at grown

end RecoveryAgent
