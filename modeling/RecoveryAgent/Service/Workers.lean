import RecoveryAgent.Service.Appends
import RecoveryAgent.Service.Issuing

/-! Any number of workers on one store and one commit log, operation by operation.
A worker starts a job at any time, and the operations of all jobs interleave freely; a job
that is left alone from some time on is a crash.
-/

namespace RecoveryAgent

open StateMachine Handler

-----------------------------------------------------------------------------------------
-- Jobs and what happens to them
-----------------------------------------------------------------------------------------

/-- What a worker process runs: a request, a call of the state machine, or its start-up. -/
inductive Job where
  | request (request : Request)
  | called (caseId : String) (operation : Operation)
  | startup

def Job.handler (deployment : Deployment) : Job → Handler Unit
  | .request served => do let _ ← served.handler deployment
  | .called caseId operation => operate deployment.config caseId operation
  | .startup => do let _ ← reconcileAll deployment.useEtcd

/-- What happens to the workers: one starts a job, a job gets its next reply, or the rows of
Postgres come back in another order.
-/
inductive Workers.Event where
  | call (worker : Worker) (job : Job)
  | step (i : Nat)
  | reorder (cases : List RecoveryCase) (decisions : List RetryDecision)

namespace Workers

variable (deployment : Deployment)

/-- Nothing is stored, and no worker runs. -/
def start (usePostgres : Bool) : Workers Unit := ⟨⟨.new usePostgres, .empty⟩, []⟩

def handle (workers : Workers Unit) : Event → Workers Unit
  | .call worker job =>
      { workers with threads := workers.threads ++ [⟨worker, (job.handler deployment).run⟩] }
  | .step i => workers.step (World.shares deployment) i
  | .reorder cases decisions =>
      { workers with
        shared := { workers.shared with store := workers.shared.store.reorder cases decisions } }

def run (workers : Workers Unit) (events : List Event) : Workers Unit :=
  events.foldl (handle deployment) workers

end Workers

-----------------------------------------------------------------------------------------
-- Which commits are made
-----------------------------------------------------------------------------------------

/-- A commit is the effect of a retry, made under the key of its attempt; the case id is a path
segment. Every other operation is permitted.
-/
def Op.Commits : Op → Prop
  | .commitEffect caseId attempt effect =>
      effect.caseId = caseId ∧ effect.attempt = attempt
      ∧ effect.toState = .retryExecuted ∧ '/' ∉ caseId.toList
  | _ => True

theorem Op.Plain.commits {op : Op} (plain : op.Plain) : op.Commits := by
  cases op with
  | commitEffect => exact plain.elim
  | _ => trivial

/-- The log is sound, and without etcd there is none. -/
structure Shared.Sound (deployment : Deployment) (shared : Shared) : Prop where
  log : SoundLog shared.log
  off : deployment.useEtcd = false → shared.log = .empty

@[simp] theorem World.stored_log (world : World) (answered : Except StoreException CaseStore)
    : (world.stored answered).2.log = world.log := by
  cases answered <;> rfl

/-- A permitted operation leaves a sound log. -/
theorem Shared.Sound.answer {deployment : Deployment} {op : Op} (commits : op.Commits)
    {world : World} (sound : world.toShared.Sound deployment)
    : (world.answer deployment op).2.toShared.Sound deployment := by
  have same (world' : World) (kept : world'.log = world.log)
      : world'.toShared.Sound deployment :=
    ⟨kept ▸ sound.log, fun off => kept.trans (sound.off off)⟩
  cases op with
  | commitEffect caseId attempt effect =>
      obtain ⟨rfl, rfl, executes, segment⟩ := commits
      simp only [World.answer, World.commitEffect]
      split
      · next etcd =>
          refine ⟨?_, fun off => by simp [etcd] at off⟩
          rcases sound.log.transaction executes segment with
            ⟨_, refused⟩ | ⟨_, log, approved, sound', _⟩
          · rw [refused]
            exact sound.log
          · rw [approved]
            exact sound'
      · exact same _ rfl
  | advanceClock delta =>
      simp only [World.answer]
      split <;> exact same _ rfl
  | createCase | updateCase | recordFailure | recordRetryDecision | updateRetryDecision
  | insertAudit => exact same _ (by simp [World.answer])
  | _ => exact same _ rfl

namespace Handler

/-- All commits of the handler are permitted, whatever it is answered. -/
def Commits {α : Type} (handler : Handler α) : Prop := Program.Uses Op.Commits handler.run

/-- A handler that commits nothing makes permitted commits only. -/
theorem Issues.commits {α : Type} {handler : Handler α} (issues : Issues Op.Plain handler)
    : Issues Op.Commits handler :=
  issues.mono fun _ plain => plain.commits

/-- Every endpoint makes permitted commits only. -/
theorem commits_request (deployment : Deployment) (request : Request)
    : Commits (request.handler deployment) := by
  by_cases executes : ∃ segment, request = .executeRetry segment
  · obtain ⟨segment, rfl⟩ := executes
    exact issues_executeRetry deployment (fun _ plain => plain.commits) segment
      (fun _ _ => ⟨rfl, rfl, rfl, segment.noSlash⟩) fun _ => trivial
  · exact issues_request deployment (fun _ plain => plain.commits)
      (fun _ _ _ _ _ _ => trivial) (fun _ _ _ => trivial)
      fun segment same => executes ⟨segment, same⟩

theorem commits_job (deployment : Deployment) (job : Job)
    : Commits (job.handler deployment) := by
  cases job with
  | request request =>
      exact Issues.bind (commits_request deployment request) fun _ => issues_pure _
  | called caseId operation => exact (issues_operate _ caseId operation).commits
  | startup => exact Issues.bind (issues_reconcileAll _).commits fun _ => issues_pure _

end Handler

-----------------------------------------------------------------------------------------
-- Sound logs
-----------------------------------------------------------------------------------------

/-- What holds of the workers in every state they reach. -/
structure Workers.Sound (deployment : Deployment) (workers : Workers Unit) : Prop where
  uses : ∀ thread ∈ workers.threads, Program.Uses Op.Commits thread.program
  shared : workers.shared.Sound deployment

theorem Workers.Sound.handle {deployment : Deployment} {workers : Workers Unit}
    (sound : workers.Sound deployment) (event : Workers.Event)
    : (workers.handle deployment event).Sound deployment := by
  cases event with
  | call worker job =>
      refine ⟨fun thread member => ?_, sound.shared⟩
      rcases List.mem_append.mp member with old | new
      · exact sound.uses thread old
      · rw [List.mem_singleton.mp new]
        exact commits_job deployment job
  | step i =>
      have keeps (op : Op) (own : Worker) (shared : Shared) (commits : op.Commits)
          (holds : shared.Sound deployment)
          : (World.shares deployment op (own, shared)).2.2.Sound deployment :=
        @Shared.Sound.answer deployment op commits ⟨own, shared⟩ holds
      obtain ⟨uses, shared⟩ := Pool.step_keeps keeps sound.uses sound.shared i
      exact ⟨uses, shared⟩
  | reorder cases decisions => exact ⟨sound.uses, ⟨sound.shared.log, sound.shared.off⟩⟩

/-- However the workers interleave, the commit log is sound. -/
theorem Workers.sound_run (deployment : Deployment) (usePostgres : Bool)
    (events : List Workers.Event)
    : ((Workers.start usePostgres).run deployment events).Sound deployment :=
  Run.keeps ⟨by simp [start], ⟨by simp [SoundLog, start], fun _ => rfl⟩⟩
    (fun _ event sound => sound.handle event) events

end RecoveryAgent
