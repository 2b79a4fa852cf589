import RecoveryAgent.Service.Serving
import RecoveryAgent.Lib.Run

/-! Runs of a service with one worker, from an empty store on.
Whatever happens is a move of each case on its own, so that invariants are proved about the
view of one case.
-/

namespace RecoveryAgent

open StateMachine

-----------------------------------------------------------------------------------------
-- Events
-----------------------------------------------------------------------------------------

/-- The empty store of a service, chosen by `USE_POSTGRES`. -/
def CaseStore.new (usePostgres : Bool) : CaseStore :=
  if usePostgres then .postgres {} else .inMemory {}

/-- On Postgres the rows of a table can come back in another order at any time; lists that
are not the stored rows are ignored.
-/
def CaseStore.reorder (cases : List RecoveryCase) (decisions : List RetryDecision)
    : CaseStore → CaseStore
  | .inMemory store => .inMemory store
  | .postgres store =>
      if same : store.recoveryCases.rows.Perm cases ∧ store.retryDecisions.rows.Perm decisions
      then .postgres (store.reorder cases decisions same.1 same.2)
      else .postgres store

/-- The service as it starts. -/
def World.start (usePostgres : Bool) (clock : ServiceClock) : World where
  clock := clock
  distress := .new
  committed := []
  store := .new usePostgres
  log := .empty

/-- What happens to a service. -/
inductive Event where
  | request (request : Request)
  | reorder (cases : List RecoveryCase) (decisions : List RetryDecision)

/-- One event. Requests are served one after the other. -/
def World.handle (deployment : Deployment) (world : World) : Event → World
  | .request request => (Handler.exec deployment (request.handler deployment) world).2
  | .reorder cases decisions => { world with store := world.store.reorder cases decisions }

/-- A run of the service. -/
def World.run (deployment : Deployment) (world : World) (events : List Event) : World :=
  events.foldl (World.handle deployment) world

/-- A case keeps its row and its trail when rows are reordered. -/
theorem CaseStore.view_reorder (store : CaseStore) (cases : List RecoveryCase)
    (decisions : List RetryDecision) (caseId : String)
    : ∃ listed,
        (store.view caseId).decisions.Perm listed
        ∧ (store.isInMemory = true → listed = (store.view caseId).decisions)
        ∧ (store.reorder cases decisions).view caseId
          = { store.view caseId with decisions := listed } := by
  cases store with
  | inMemory store => exact ⟨_, .refl _, fun _ => rfl, rfl⟩
  | postgres store =>
      unfold reorder
      dsimp only
      split
      · next same =>
          refine ⟨decisions.filter (·.caseId = caseId), same.2.filter _, nofun, ?_⟩
          simp only [view, PostgresCaseStore.reorder, Table.find?_reorder]
          rfl
      · exact ⟨_, .refl _, nofun, rfl⟩

-----------------------------------------------------------------------------------------
-- Moves
-----------------------------------------------------------------------------------------

/-- How an event moves one case: what is stored about it afterwards, and the clock with
which the worker goes on.
-/
inductive Moved (deployment : Deployment) (world : World) (clock : ServiceClock)
    (caseId : String)
    : Event → CaseView → Prop where
  | same {event : Event} : Moved deployment world clock caseId event (world.view caseId)
  | stepped {request : Request} {spent : Nat} {view : CaseView}
      (spends : clock = world.clock.skip spent)
      (step : CaseStep deployment.config request world spent caseId view)
    : Moved deployment world clock caseId (.request request) view
  | approved {segment : Handler.PathSegment} (named : segment.text = caseId)
      (spends : clock = world.clock.skip 4) (etcd : deployment.useEtcd = true)
      {case : RecoveryCase} {decision : RetryDecision}
      (admitted : Admitted deployment world caseId case decision)
      (uncommitted : decision.attemptNumber ∉ (world.view caseId).committed)
    : Moved deployment world clock caseId (.request (.executeRetry segment))
        { Handler.executedView (world.view caseId) case (world.clock.reading 3) with
          committed := (world.view caseId).committed ++ [decision.attemptNumber] }
  | healed {segment : Handler.PathSegment} (named : segment.text = caseId)
      (spends : clock = world.clock.skip 4) (etcd : deployment.useEtcd = true)
      {case : RecoveryCase} {decision : RetryDecision}
      (admitted : Admitted deployment world caseId case decision)
      (committed : decision.attemptNumber ∈ (world.view caseId).committed)
    : Moved deployment world clock caseId (.request (.executeRetry segment))
        (Handler.executedView (world.view caseId) case (world.clock.reading 3))
  | escalated {segment : Handler.PathSegment} (named : segment.text = caseId)
      (spends : clock = world.clock.skip 2) {case : RecoveryCase}
      (stored : (world.view caseId).case = some case) (scheduled : case.state = .retryScheduled)
    : Moved deployment world clock caseId (.request (.executeRetry segment))
        { world.view caseId with
          case := some { case with state := .escalated }
          trail := (world.view caseId).trail
            ++ [Handler.distressSignal caseId (world.clock.reading 1)] }
  | reordered {cases : List RecoveryCase} {decisions listed : List RetryDecision}
      (spends : clock = world.clock) (perm : (world.view caseId).decisions.Perm listed)
      (kept : world.store.isInMemory = true → listed = (world.view caseId).decisions)
    : Moved deployment world clock caseId (.reorder cases decisions)
        { world.view caseId with decisions := listed }

/-- Every event moves every case, and all commits stay sound. Witness: a request touches one
case at most, and leaves the views of all others.
-/
theorem World.handle_moved (deployment : Deployment) {world : World}
    (sound : SoundLog world.log) (event : Event)
    : SoundLog (world.handle deployment event).log
      ∧ ∀ caseId,
          Moved deployment world (world.handle deployment event).clock caseId event
            ((world.handle deployment event).view caseId) := by
  have elsewhere {world' : World} {spent : Nat} {caseId : String} {view : CaseView}
      (touched : world.Touched world' spent caseId view) {event : Event}
      (here : Moved deployment world world'.clock caseId event view)
      : SoundLog world'.log
        ∧ ∀ caseId, Moved deployment world world'.clock caseId event (world'.view caseId) := by
    refine ⟨touched.sound, fun other => ?_⟩
    by_cases same : other = caseId
    · rw [same, touched.here]
      exact here
    · rw [touched.elsewhere other same]
      exact .same
  cases event with
  | reorder cases decisions =>
      refine ⟨sound, fun caseId => ?_⟩
      obtain ⟨listed, perm, kept, views⟩ := world.store.view_reorder cases decisions caseId
      have view : (world.handle deployment (.reorder cases decisions)).view caseId
          = { world.view caseId with decisions := listed } := by
        simp only [World.view, World.handle, views]
      rw [view]
      exact .reordered rfl perm kept
  | request request =>
      have served := request.served deployment sound
      generalize reached : (Handler.exec deployment (request.handler deployment) world).2
        = world' at served
      have handled : world.handle deployment (.request request) = world' := reached
      rw [handled]
      clear reached handled
      cases served with
      | stepped stepped =>
          obtain ⟨spent, caseId, view, touched, step⟩ := stepped
          exact elsewhere touched (.stepped touched.clock step)
      | executed caseId outcome =>
          cases outcome with
          | approved admitted etcd uncommitted touched =>
              exact elsewhere touched (.approved rfl touched.clock etcd admitted uncommitted)
          | healed admitted etcd committed touched =>
              exact elsewhere touched (.healed rfl touched.clock etcd admitted committed)
          | escalated stored scheduled distressed touched =>
              exact elsewhere touched (.escalated rfl touched.clock stored scheduled)
          | idle turned spent touched => exact elsewhere touched .same
      | advanced advanced =>
          refine ⟨advanced.log ▸ sound, fun caseId => ?_⟩
          have same : world'.view caseId = world.view caseId := by
            simp only [World.view, advanced.store, advanced.log]
          rw [same]
          exact .same

-----------------------------------------------------------------------------------------
-- The regular case
-----------------------------------------------------------------------------------------

/-- What holds of a stored case and the decisions about it: they are never ahead of the
retries the case has used, and without one no retry can have been used. Control cases stay
in their own states.
-/
structure RecoveryCase.Regular (case : RecoveryCase) (decisions : List RetryDecision)
    : Prop where
  held
    : case.bucket = some .control
      → case.state ∈ [CaseState.controlHeld, .controlRecovered, .controlStillFailed]
  bound : ∀ decision ∈ decisions, decision.attemptNumber ≤ case.retriesUsed + 1
  ahead
    : case.state = .noticePending
      → ∀ decision ∈ decisions, decision.attemptNumber ≤ case.retriesUsed
  decided
    : case.state = .retryScheduled
      → ∃ decision ∈ decisions, decision.attemptNumber = case.retriesUsed + 1
  undecided : decisions = [] → case.retriesUsed = 0 ∧ case.state ≠ .retryExecuted

namespace RecoveryCase.Regular

variable {case case' : RecoveryCase} {decisions : List RetryDecision}

theorem opened {event : PaymentFailureEvent} {now : Datetime} {entries : List AuditEntry}
    (opened : Opened event now case entries)
    : case.Regular [] where
  held control := by simp [opened.held control]
  bound := by simp
  ahead := by simp
  decided scheduled := by simpa [openingState, scheduled] using opened.state
  undecided _ := by
    refine ⟨opened.retriesUsed, fun executed => ?_⟩
    simpa [openingState, executed] using opened.state

/-- A case that goes where no execution is ahead of it stays regular. -/
theorem left (regular : case.Regular decisions) (bucket : case'.bucket = case.bucket)
    (retriesUsed : case'.retriesUsed = case.retriesUsed)
    (away : case'.state ∉ [CaseState.noticePending, .retryScheduled, .retryExecuted])
    (held
      : case.state ∈ [CaseState.controlHeld, .controlRecovered, .controlStillFailed]
        → case'.state ∈ [CaseState.controlHeld, .controlRecovered, .controlStillFailed])
    : case'.Regular decisions where
  held control := held (regular.held (bucket ▸ control))
  bound := by simpa only [retriesUsed] using regular.bound
  ahead pending := by simp [pending] at away
  decided scheduled := by simp [scheduled] at away
  undecided none_ := by
    refine ⟨retriesUsed.trans (regular.undecided none_).1, fun executed => ?_⟩
    simp [executed] at away

theorem answered (regular : case.Regular decisions) {config : AppConfig} {now : Datetime}
    {entries : List AuditEntry} (answer : Answer config now case case' entries)
    : case'.Regular decisions := by
  cases answer with
  | noted rule cited => exact regular
  | @settled next settles outcome rule cited =>
      refine regular.left rfl rfl ?_ fun control => ?_
      · rcases settles.target with rfl | rfl | rfl | rfl <;> simp
      · change next ∈ _
        generalize case.state = state at settles control
        cases settles with
        | naturallyRecovered awaiting =>
            rcases awaitsExecution_iff.mp awaiting with rfl | rfl | rfl | rfl <;>
              simp at control
        | _ => simp_all
  | @evaluated executed next eligible rule cited =>
      have decisions_ne : decisions ≠ [] := fun none_ =>
        (regular.undecided none_).2 executed
      refine ⟨fun control => ?_, fun decision listed => ?_, fun _ => regular.bound,
        fun scheduled => ?_, fun none_ => absurd none_ decisions_ne⟩
      · simpa [executed] using regular.held control
      · exact (regular.bound decision listed).trans (Nat.le_succ _)
      · rcases eligible with rfl | ⟨rfl, _⟩ <;> cases scheduled

/-- In memory an outcome may be counted without being evaluated. -/
theorem counted (regular : case.Regular decisions) (executed : case.state = .retryExecuted)
    : { case with retriesUsed := case.retriesUsed + 1 }.Regular decisions where
  held := regular.held
  bound decision listed := (regular.bound decision listed).trans (Nat.le_succ _)
  ahead _ := regular.bound
  decided scheduled := by cases executed.symm.trans scheduled
  undecided none_ := absurd executed (regular.undecided none_).2

/-- A decided retry is for the attempt after the retries used. -/
theorem noticed (regular : case.Regular decisions) (pending : case.state = .noticePending)
    {decision : RetryDecision} (next : decision.attemptNumber = case.retriesUsed + 1)
    : { case with state := .retryScheduled }.Regular (decisions ++ [decision]) where
  held control := by simpa [pending] using regular.held control
  bound other listed := by
    rcases List.mem_append.mp listed with old | new
    · exact regular.bound other old
    · rw [List.mem_singleton.mp new, next]
  ahead := nofun
  decided _ := ⟨decision, by simp, next⟩
  undecided none_ := by simp at none_

theorem executed (regular : case.Regular decisions) (scheduled : case.state = .retryScheduled)
    : { case with state := .retryExecuted }.Regular decisions where
  held control := by simpa [scheduled] using regular.held control
  bound := regular.bound
  ahead := nofun
  decided := nofun
  undecided none_ := by
    obtain ⟨decision, listed, _⟩ := regular.decided scheduled
    rw [none_] at listed
    cases listed

theorem perm (regular : case.Regular decisions) {listed : List RetryDecision}
    (perm : decisions.Perm listed)
    : case.Regular listed where
  held := regular.held
  bound decision member := regular.bound decision (perm.mem_iff.mpr member)
  ahead pending decision member := regular.ahead pending decision (perm.mem_iff.mpr member)
  decided scheduled := by
    obtain ⟨decision, member, next⟩ := regular.decided scheduled
    exact ⟨decision, perm.mem_iff.mp member, next⟩
  undecided none_ := regular.undecided (by simpa [none_] using perm)

end RecoveryCase.Regular

/-- What holds of what is stored about a case: nothing is before the case is, all decisions
are pending, and in memory the first attempt's comes first.
-/
structure CaseView.Regular (inMemory : Bool) (view : CaseView) : Prop where
  absent : view.case = none → view.decisions = [] ∧ view.trail = [] ∧ view.committed = []
  stored : ∀ case, view.case = some case → case.Regular view.decisions
  pending : ∀ decision ∈ view.decisions, decision.outcome = .pending
  first
    : inMemory = true
      → ∀ decision, view.decisions.head? = some decision → decision.attemptNumber = 1

namespace CaseView.Regular

variable {inMemory : Bool} {view : CaseView}

/-- Where the decisions stay, only the case has to be looked at. -/
theorem replaced (regular : view.Regular inMemory) {case' : RecoveryCase}
    {trail : List AuditEntry} {committed : List Nat} (kept : case'.Regular view.decisions)
    : CaseView.Regular inMemory
        { case := some case', decisions := view.decisions, trail, committed } where
  absent := nofun
  stored := by
    rintro _ ⟨⟩
    exact kept
  pending := regular.pending
  first := regular.first

/-- Every step keeps a case regular. -/
theorem step {world : World} {caseId : String}
    (regular : (world.view caseId).Regular inMemory) {config : AppConfig} {request : Request}
    {spent : Nat} (step : CaseStep config request world spent caseId view)
    : view.Regular inMemory := by
  cases step with
  | same => exact regular
  | opened early absent opened part =>
      have none_ := (regular.absent absent).1
      exact regular.replaced (none_ ▸ .opened opened)
  | answered early stored answer part flags =>
      exact regular.replaced ((regular.stored _ stored).answered answer)
  | counted inMemory stored executed unclassifiable =>
      exact regular.replaced ((regular.stored _ stored).counted executed)
  | noticeLost stored pending =>
      exact regular.replaced ((regular.stored _ stored).left rfl rfl (by simp) (by simp [pending]))
  | noticed demo early stored pending decided first =>
      have kept := regular.stored _ stored
      refine ⟨nofun, ?_, ?_, fun ordered decision head => ?_⟩
      · rintro _ ⟨⟩
        exact kept.noticed pending decided.attemptNumber
      · intro decision listed
        rcases List.mem_append.mp listed with old | new
        · exact regular.pending decision old
        · rw [List.mem_singleton.mp new]
          exact decided.outcome
      · cases decisions : (world.view caseId).decisions with
        | nil =>
            simp only [decisions, List.nil_append, List.head?_cons, Option.some.injEq] at head
            rw [← head, decided.attemptNumber, (kept.undecided decisions).1]
        | cons old rest =>
            simp only [decisions, List.cons_append, List.head?_cons] at head
            exact regular.first ordered decision (by rw [decisions]; exact head)
  | noticedAgain demo early stored pending decided again =>
      -- the decisions of a pending case are for the retries it has used
      obtain ⟨old, listed, same⟩ := List.mem_map.mp again
      have behind := (regular.stored _ stored).ahead pending old listed
      rw [same, decided.attemptNumber] at behind
      exact absurd behind (Nat.not_succ_le_self _)
  | resolved early stored escalated =>
      exact regular.replaced
        ((regular.stored _ stored).left rfl rfl (by simp) (by simp [escalated]))

/-- Every event keeps every case regular. -/
theorem moved {deployment : Deployment} {world : World} {caseId : String}
    (regular : (world.view caseId).Regular world.store.isInMemory) {clock : ServiceClock}
    {event : Event} {view : CaseView} (moved : Moved deployment world clock caseId event view)
    : view.Regular world.store.isInMemory := by
  cases moved with
  | same => exact regular
  | stepped spends step => exact regular.step step
  | approved named spends etcd admitted uncommitted =>
      exact regular.replaced ((regular.stored _ admitted.stored).executed admitted.scheduled)
  | healed named spends etcd admitted committed =>
      exact regular.replaced ((regular.stored _ admitted.stored).executed admitted.scheduled)
  | escalated named spends stored scheduled =>
      exact regular.replaced
        ((regular.stored _ stored).left rfl rfl (by simp) (by simp [scheduled]))
  | reordered spends perm kept =>
      refine ⟨fun absent => ?_, fun case stored => ?_, fun decision listed => ?_, ?_⟩
      · obtain ⟨none_, rest⟩ := regular.absent absent
        exact ⟨by simpa [none_] using perm, rest⟩
      · exact (regular.stored case stored).perm perm
      · exact regular.pending decision (perm.mem_iff.mpr listed)
      · intro ordered
        rw [kept ordered]
        exact regular.first ordered

end CaseView.Regular

-----------------------------------------------------------------------------------------
-- Regular runs
-----------------------------------------------------------------------------------------

/-- No operation changes which store is behind the service. -/
theorem World.answer_isInMemory (deployment : Deployment) (op : Op) (world : World)
    : (world.answer deployment op).2.store.isInMemory = world.store.isInMemory := by
  obtain ⟨worker, store, log⟩ := world
  cases op with
  | createCase case =>
      rcases store with old | old <;>
        simp only [answer, stored, CaseStore.createCase] <;>
        cases old.createCase case <;> rfl
  | updateCase case =>
      rcases store with old | old
      · simp only [answer, stored, CaseStore.updateCase]
        cases old.updateCase case <;> rfl
      · rfl
  | mutateCase case => cases store <;> rfl
  | recordFailure event =>
      rcases store with old | old <;>
        simp only [answer, stored, CaseStore.recordFailure] <;>
        cases old.recordFailure event <;> rfl
  | recordRetryDecision decision =>
      rcases store with old | old <;>
        simp only [answer, stored, CaseStore.recordRetryDecision] <;>
        cases old.recordRetryDecision decision <;> rfl
  | updateRetryDecision decision =>
      rcases store with old | old
      · simp only [answer, stored, CaseStore.updateRetryDecision]
        cases old.updateRetryDecision decision <;> rfl
      · rfl
  | nextSequence => cases store <;> rfl
  | insertAudit entry =>
      rcases store with old | old
      · rfl
      · simp only [answer, stored, CaseStore.insertAudit]
        cases old.insertAudit entry <;> rfl
  | commitEffect caseId attempt effect =>
      simp only [answer, commitEffect]
      split <;> rfl
  | advanceClock delta =>
      simp only [answer]
      split <;> rfl
  | _ => rfl

@[simp] theorem CaseStore.isInMemory_reorder (store : CaseStore) (cases : List RecoveryCase)
    (decisions : List RetryDecision)
    : (store.reorder cases decisions).isInMemory = store.isInMemory := by
  unfold reorder
  cases store with
  | inMemory store => rfl
  | postgres store =>
      dsimp only
      split <;> rfl

theorem World.handle_isInMemory (deployment : Deployment) (world : World) (event : Event)
    : (world.handle deployment event).store.isInMemory = world.store.isInMemory := by
  cases event with
  | request request =>
      let behind := world.store.isInMemory
      have keeps (op : Op) (state : World) (same : state.store.isInMemory = behind)
          : (state.answer deployment op).2.store.isInMemory = behind :=
        (state.answer_isInMemory deployment op).trans same
      exact Program.execute_keeps keeps (request.handler deployment).run world rfl
  | reorder cases decisions => exact world.store.isInMemory_reorder cases decisions

/-- What holds of a service between requests. -/
structure World.Regular (world : World) : Prop where
  sound : SoundLog world.log
  cases : ∀ caseId, (world.view caseId).Regular world.store.isInMemory

/-- Nothing is stored about any case at the start. -/
theorem World.view_start (usePostgres : Bool) (clock : ServiceClock) (caseId : String)
    : (World.start usePostgres clock).view caseId = ⟨none, [], [], []⟩ := by
  cases usePostgres <;>
    simp [view, start, CaseStore.new, CaseStore.view, committedAttempts]

/-- The service starts regular. -/
theorem World.regular_start (usePostgres : Bool) (clock : ServiceClock)
    : (World.start usePostgres clock).Regular where
  sound := by simp [SoundLog, start]
  cases caseId := by
    rw [World.view_start]
    constructor <;> simp

/-- Every event keeps the service regular. -/
theorem World.Regular.handle {deployment : Deployment} {world : World} (regular : world.Regular)
    (event : Event)
    : (world.handle deployment event).Regular := by
  obtain ⟨sound, moved⟩ := World.handle_moved deployment regular.sound event
  refine ⟨sound, fun caseId => ?_⟩
  rw [World.handle_isInMemory]
  exact (regular.cases caseId).moved (moved caseId)

/-- Every run of a service leads to regular states only. -/
theorem World.regular_run (deployment : Deployment) (usePostgres : Bool) (clock : ServiceClock)
    (events : List Event)
    : ((World.start usePostgres clock).run deployment events).Regular :=
  Run.keeps (World.regular_start usePostgres clock) (fun _ event regular => regular.handle event)
    events

end RecoveryAgent
