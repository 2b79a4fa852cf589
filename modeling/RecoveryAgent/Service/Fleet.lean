import RecoveryAgent.Service.Workers

/-! All that the service runs at once: requests, start-ups and the releases of throttled cases.
Any number of worker processes share the tables of Postgres and the commit log. A task is
begun at any time and gets its replies one by one; one that gets no more replies has crashed.
-/

namespace RecoveryAgent

open StateMachine

namespace Handler

/-- The loop over the listed cases, with the ids released so far. -/
def releaseEach (released : List String) : List RecoveryCase → Handler (List String)
  | [] => pure released
  | case :: rest =>
      if case.state = .throttled then do
        let clock ← readClock 1
        match releaseThrottle case clock with
        | .error raised => throw (.exception (.python raised))
        | .ok (updated, entries) => do
            updateCase updated
            appendAll entries
            releaseEach (released ++ [updated.caseId]) rest
      else releaseEach released rest

/-- `release_throttles`, from the cases that `list_cases` returned on. -/
def releaseThrottles (config : AppConfig) (cases : List RecoveryCase) : Handler (List String) := do
  if config.profileName ≠ .demo then refuse 403 "Admin endpoints are demo-only"
  releaseEach [] cases

/-- One round of `_periodic_throttle_release`, likewise; an exception ends the round. -/
def periodicThrottleRelease (cases : List RecoveryCase) : Handler Unit :=
  swallow do
    let _ ← releaseEach [] cases
    return

end Handler

/-- What a worker process runs. -/
inductive Task where
  | request (request : Request)
  | startup
  | releaseThrottles
  | periodicThrottleRelease

/-- The program of a task. The cases are those stored when it is begun: to list them is the
first thing a release asks for.
-/
def Task.handler (deployment : Deployment) (cases : List RecoveryCase) : Task → Handler Unit
  | .request served => do let _ ← served.handler deployment
  | .startup => do let _ ← Handler.reconcileAll deployment.useEtcd
  | .releaseThrottles => do let _ ← Handler.releaseThrottles deployment.config cases
  | .periodicThrottleRelease => Handler.periodicThrottleRelease cases

namespace Fleet

/-- What happens: a worker begins a task, a task gets its next reply, or the rows of Postgres
come back in another order.
-/
inductive Event where
  | begin (worker : Worker) (task : Task)
  | step (i : Nat)
  | reorder (cases : List RecoveryCase) (decisions : List RetryDecision)

/-- Nothing is stored on Postgres, and nothing runs. -/
def start : Workers Unit := Workers.start true

variable (deployment : Deployment)

def handle (workers : Workers Unit) : Event → Workers Unit
  | .begin worker task =>
      { workers with
        threads := workers.threads
          ++ [⟨worker, (task.handler deployment workers.shared.store.listCases).run⟩] }
  | .step i => workers.step (World.shares deployment) i
  | .reorder cases decisions =>
      { workers with
        shared := { workers.shared with store := workers.shared.store.reorder cases decisions } }

/-- The service after a run from the start. -/
def run (events : List Event) : Workers Unit := events.foldl (handle deployment) start

end Fleet

end RecoveryAgent
