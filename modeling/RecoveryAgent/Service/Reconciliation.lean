import RecoveryAgent.Service.NextRetry
import RecoveryAgent.Service.Workers

/-! What a start-up does to the cases whose retries are committed.
The log is never pruned, and a commit is applied wherever its case is in another state than the
committed one: the retry may still have to be stored, or be long over.
-/

namespace RecoveryAgent

open Handler

-----------------------------------------------------------------------------------------
-- The loop over the log
-----------------------------------------------------------------------------------------

/-- The scan of all commits finds every row of the log. -/
theorem SoundLog.mem_allCommits {log : EtcdStore Effect} (sound : SoundLog log) {effect : Effect}
    : effect ∈ log.getPrefix EtcdQuorumBackend.commitsPrefix
      ↔ ∃ row ∈ log.rows, row.value = effect := by
  rw [EtcdStore.mem_getPrefix]
  refine exists_congr fun row => and_congr_right fun listed => and_iff_right ?_
  rw [(sound row listed).1, EtcdQuorumBackend.keyFor_toList]
  exact List.prefix_append _ _

/-- The scan names a case exactly if one of its attempts is committed. -/
theorem SoundLog.named_iff {log : EtcdStore Effect} (sound : SoundLog log) {caseId : String}
    : (∃ effect ∈ log.getPrefix EtcdQuorumBackend.commitsPrefix, effect.caseId = caseId)
      ↔ committedAttempts log caseId ≠ [] := by
  simp only [sound.mem_allCommits, committedAttempts, ne_eq, List.map_eq_nil_iff,
    List.filter_eq_nil_iff, decide_eq_true_eq]
  push Not
  constructor
  · rintro ⟨_, ⟨row, listed, same⟩, named⟩
    exact ⟨row, listed, same ▸ named⟩
  · rintro ⟨row, listed, named⟩
    exact ⟨row.value, ⟨row, listed, rfl⟩, named⟩

/-- What a scan leaves of a case: a stored case that it names, and that is not in execution,
is moved there with one entry; everything else stays.
-/
def HealedBy (named : Prop) (before after : CaseStore.View) : Prop :=
  (∃ case logged now,
    before.case = some case ∧ case.state ≠ .retryExecuted ∧ named
    ∧ logged.bare = effectApplied case.caseId now
    ∧ after = { before with
        case := some { case with state := .retryExecuted }
        trail := before.trail ++ [logged] })
  ∨ (∀ case, before.case = some case → named → case.state = .retryExecuted) ∧ after = before

/-- A name more makes no difference to a case that is absent or in execution. -/
theorem HealedBy.widen {named named' : Prop} {before after : CaseStore.View}
    (healed : HealedBy named before after) (implies : named → named')
    (idle : ∀ case, before.case = some case → named' → named ∨ case.state = .retryExecuted)
    : HealedBy named' before after := by
  rcases healed with ⟨case, logged, now, stored, pending, listed, rest⟩ | ⟨rest, same⟩
  · exact .inl ⟨case, logged, now, stored, pending, implies listed, rest⟩
  · refine .inr ⟨fun case stored listed => ?_, same⟩
    exact (idle case stored listed).elim (rest case stored) id

namespace Handler

variable (deployment : Deployment)

/-- One round of the loop: an effect whose case is absent or in execution is skipped, and
every other one is applied.
-/
theorem exec_healAllFrom_cons (healed : Nat) {effect : Effect} (rest : List Effect)
    (world : World) (executes : effect.toState = .retryExecuted)
    : ((∀ case,
          (world.store.view effect.caseId).case = some case → case.state = .retryExecuted)
        ∧ exec deployment (healAllFrom healed (effect :: rest)) world
          = exec deployment (healAllFrom healed rest) world)
      ∨ ∃ case mid logged,
          (world.store.view effect.caseId).case = some case
          ∧ case.state ≠ .retryExecuted
          ∧ logged.bare = effectApplied effect.caseId (world.clock.reading 0)
          ∧ world.Wrote mid 1 effect.caseId
            { world.store.view effect.caseId with
              case := some { case with state := .retryExecuted }
              trail := (world.store.view effect.caseId).trail ++ [logged] }
          ∧ exec deployment (healAllFrom healed (effect :: rest)) world
            = exec deployment (healAllFrom (healed + 1) rest) mid := by
  obtain ⟨caseId, attempt, toState, at_⟩ := effect
  dsimp only at executes ⊢
  subst executes
  simp only [healAllFrom, exec_bind, exec_lift_run]
  rcases exec_getCase deployment world caseId with
    ⟨case, stored, got⟩ | ⟨absent, raised, got⟩
  swap
  · rw [got]
    exact .inl ⟨fun case stored => (by cases absent.symm.trans stored), rfl⟩
  simp only [got, exec_ite]
  by_cases executed : case.state = .retryExecuted
  · rw [if_pos executed]
    refine .inl ⟨fun other same => ?_, rfl⟩
    cases stored.symm.trans same
    exact executed
  rw [if_neg executed]
  have id_eq := CaseStore.view_caseId stored
  subst id_eq
  obtain ⟨mid, logged, applied, bare, wrote⟩ := @exec_applyEffect deployment world case case
    ⟨case.caseId, attempt, .retryExecuted, at_⟩ stored executed
  refine .inr ⟨case, mid, logged, stored, executed, bare, wrote, ?_⟩
  simp only [exec_bind, exec_lift_run, applied]

/-- The loop, by induction over the effects that are left. -/
theorem exec_healAllFrom (healed : Nat) {effects : List Effect} (world : World)
    (execute : ∀ effect ∈ effects, effect.toState = .retryExecuted)
    : let world' := (exec deployment (healAllFrom healed effects) world).2
      world'.log = world.log
      ∧ ∀ caseId,
          HealedBy (∃ effect ∈ effects, effect.caseId = caseId) (world.store.view caseId)
            (world'.store.view caseId) := by
  induction effects generalizing healed world with
  | nil => exact ⟨rfl, fun caseId => .inr ⟨by simp, rfl⟩⟩
  | cons effect rest ih =>
      obtain ⟨first, later⟩ := List.forall_mem_cons.mp execute
      rcases exec_healAllFrom_cons deployment healed rest world first with
        ⟨idle, skipped⟩ | ⟨case, mid, logged, stored, pending, bare, wrote, applied⟩
      · rw [skipped]
        obtain ⟨log, views⟩ := ih healed world later
        refine ⟨log, fun caseId => (views caseId).widen ?_ fun case stored named => ?_⟩
        · exact fun ⟨other, listed, named⟩ => ⟨other, List.mem_cons_of_mem _ listed, named⟩
        · obtain ⟨other, listed, rfl⟩ := named
          rcases List.mem_cons.mp listed with rfl | listed
          · exact .inr (idle case stored)
          · exact .inl ⟨other, listed, rfl⟩
      rw [applied]
      obtain ⟨log, views⟩ := ih (healed + 1) mid later
      refine ⟨log.trans wrote.log, fun caseId => ?_⟩
      have healed := views caseId
      by_cases here : caseId = effect.caseId
      · rw [here] at healed ⊢
        rw [wrote.view_eq] at healed
        rcases healed with ⟨_, _, _, stored', pending, _⟩ | ⟨_, same⟩
        · cases stored'
          exact absurd rfl pending
        · exact .inl ⟨case, logged, _, stored, pending, ⟨effect, List.mem_cons_self, rfl⟩,
            CaseStore.view_caseId stored ▸ bare, same⟩
      · rw [wrote.views, Function.update_of_ne here] at healed
        refine healed.widen ?_ fun case' stored' named => .inl ?_
        · exact fun ⟨other, listed, named⟩ => ⟨other, List.mem_cons_of_mem _ listed, named⟩
        · obtain ⟨other, listed, rfl⟩ := named
          refine ⟨other, (List.mem_cons.mp listed).resolve_left ?_, rfl⟩
          rintro rfl
          exact here rfl

/-- The start-up moves every case with a commit into execution. -/
theorem exec_reconcileAll {world : World} (sound : world.toShared.Sound deployment)
    : let world' := (exec deployment (reconcileAll deployment.useEtcd) world).2
      world'.log = world.log
      ∧ ∀ caseId,
          HealedBy ((world.view caseId).committed ≠ []) (world.store.view caseId)
            (world'.store.view caseId) := by
  unfold reconcileAll
  cases etcd : deployment.useEtcd with
  | false =>
      refine ⟨rfl, fun caseId => .inr ⟨fun case _ committed => absurd ?_ committed, rfl⟩⟩
      simp [World.view, committedAttempts, sound.off etcd]
  | true =>
      simp only [if_true, exec_bind, exec_getPrefix]
      obtain ⟨log, views⟩ := exec_healAllFrom deployment 0 world (fun effect listed => by
        obtain ⟨row, stored, rfl⟩ := sound.log.mem_allCommits.mp listed
        exact (sound.log row stored).2.1)
      refine ⟨log, fun caseId => ?_⟩
      have healed := views caseId
      rw [sound.log.named_iff] at healed
      exact healed

end Handler

-----------------------------------------------------------------------------------------
-- What a start-up is for
-----------------------------------------------------------------------------------------

/-- The next retry of the case is committed, and not stored yet. -/
structure Interrupted (view : CaseView) (case : RecoveryCase) : Prop where
  stored : view.case = some case
  scheduled : case.state = .retryScheduled
  committed : case.retriesUsed + 1 ∈ view.committed

/-- A start-up moves exactly the interrupted cases into execution, with one entry, and leaves
the record and the trail of every other case.
-/
def Reconciles (deployment : Deployment) (world : World) : Prop :=
  let world' := (Handler.exec deployment (reconcileAll deployment.useEtcd) world).2
  ∀ caseId,
    (∀ case,
      Interrupted (world.view caseId) case
      → ∃ now, world'.view caseId = executedView (world.view caseId) case now)
    ∧ ((∀ case, ¬ Interrupted (world.view caseId) case)
      → world'.store.view caseId = world.store.view caseId)

/-- A case with commits is in execution, or one of them is its next retry that waits to be
stored.
-/
def CommitsCurrent (view : CaseView) : Prop :=
  ∀ case,
    view.case = some case → view.committed ≠ []
    → case.state = .retryExecuted ∨ Interrupted view case

theorem reconciles_iff_of_sound {deployment : Deployment} {world : World}
    (sound : world.toShared.Sound deployment)
    : Reconciles deployment world ↔ ∀ caseId, CommitsCurrent (world.view caseId) := by
  obtain ⟨log, views⟩ := exec_reconcileAll deployment sound
  refine forall_congr' fun caseId => ⟨?_, fun current => ⟨?_, ?_⟩⟩
  · rintro ⟨_, still⟩ case stored committed
    by_contra neither
    obtain ⟨pending, waiting⟩ := not_or.mp neither
    have same := still fun other interrupted => by
      cases stored.symm.trans interrupted.stored
      exact waiting interrupted
    rcases views caseId with ⟨_, _, _, stored', _, _, _, moved⟩ | ⟨executed, _⟩
    · cases stored.symm.trans stored'
      have case_eq := congrArg CaseStore.View.case (moved.symm.trans same)
      rw [show (world.store.view caseId).case = some case from stored] at case_eq
      exact pending (congrArg RecoveryCase.state (Option.some.inj case_eq)).symm
    · exact pending (executed case stored committed)
  · intro case interrupted
    have nonempty := List.ne_nil_of_mem interrupted.committed
    rcases views caseId with ⟨_, logged, now, stored, _, _, bare, moved⟩ | ⟨executed, _⟩
    · cases interrupted.stored.symm.trans stored
      refine ⟨now, ?_⟩
      simp only [World.view, executedView, moved, log, List.map_append, List.map_cons,
        List.map_nil, bare]
    · cases interrupted.scheduled.symm.trans (executed case interrupted.stored nonempty)
  · intro none_
    rcases views caseId with ⟨case, _, _, stored, pending, committed, _⟩ | ⟨_, same⟩
    · rcases current case stored committed with executed | interrupted
      · exact absurd executed pending
      · exact absurd interrupted (none_ case)
    · exact same

/-- However many workers have worked on a service, crashed and started before: one more start-up
heals exactly the interrupted cases where every case with commits is current.
-/
theorem reconcileAll_reconciles_iff (deployment : Deployment) (usePostgres : Bool)
    (events : List Workers.Event) (worker : Worker)
    : let world : World := ⟨worker, ((Workers.start usePostgres).run deployment events).shared⟩
      Reconciles deployment world ↔ ∀ caseId, CommitsCurrent (world.view caseId) :=
  reconciles_iff_of_sound (Workers.sound_run deployment usePostgres events).shared

-----------------------------------------------------------------------------------------
-- A failed retry
-----------------------------------------------------------------------------------------

/-- The `i`-th job: a request served to its end by a worker that has just started, so long
after the first.
-/
def servedAlone (i : Nat) (later : Timedelta) (request : Request) : List Workers.Event :=
  .call ⟨{ demoClock with offset := later }, .new, []⟩ (.request request)
    :: List.replicate 20 (.step i)

/-- A decline, its notice, its retry, and the retry's decline. -/
def failedRetry : List Workers.Event :=
  servedAlone 0 0 (timeout "pay_2")
    ++ servedAlone 1 0 (.sendNotice ⟨"pay_2", firstPayment_noSlash⟩ ⟨false, 0⟩)
    ++ servedAlone 2 (hours 96) (.executeRetry ⟨"pay_2", firstPayment_noSlash⟩)
    ++ servedAlone 3 (hours 97) (timeout "pay_3")

/-- A start-up does not always leave other cases alone. Witness: a case that waits for its next
notice after a failed retry is moved back into execution, by the commit of that retry.
-/
theorem not_reconciles
    : ¬∀ (deployment : Deployment) (usePostgres : Bool) (events : List Workers.Event)
        (worker : Worker),
        Reconciles deployment
          ⟨worker, ((Workers.start usePostgres).run deployment events).shared⟩ := by
  intro claimed
  have reconciles := claimed demoDeployment true failedRetry ⟨demoClock, .new, []⟩
  have sound := (Workers.sound_run demoDeployment true failedRetry).shared
  have waiting
      : (((Workers.start true).run demoDeployment failedRetry).shared.store.view
          "pay_2").case.map (·.state) = some .noticePending
        ∧ committedAttempts ((Workers.start true).run demoDeployment failedRetry).shared.log
          "pay_2" = [1] := by
    decide +kernel
  generalize ((Workers.start true).run demoDeployment failedRetry).shared = shared
    at reconciles sound waiting
  have current := (reconciles_iff_of_sound sound).mp reconciles "pay_2"
  obtain ⟨pending, committed⟩ := waiting
  obtain ⟨case, stored, state⟩ := Option.map_eq_some_iff.mp pending
  rcases current case stored (by simp [World.view, committed]) with executed | interrupted
  · cases state.symm.trans executed
  · cases state.symm.trans interrupted.scheduled

end RecoveryAgent
