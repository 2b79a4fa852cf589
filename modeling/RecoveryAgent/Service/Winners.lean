import RecoveryAgent.Service.Fleet

/-! One execution for each commit, whichever way the tasks of a service interleave.
A worker that answers `execute_retry` with success has won a commit for the case, and no commit is
won twice.
-/

namespace RecoveryAgent

open StateMachine

-----------------------------------------------------------------------------------------
-- Winning a commit
-----------------------------------------------------------------------------------------

/-- The operation commits nothing for the case. -/
def Op.Elsewhere (caseId : String) : Op → Prop
  | .commitEffect owner _ _ => owner ≠ caseId
  | _ => True

theorem Op.Plain.elsewhere {op : Op} (plain : op.Plain) (caseId : String)
    : op.Elsewhere caseId := by
  cases op with
  | commitEffect => exact plain.elim
  | _ => trivial

/-- The reply tells that the operation has committed an attempt of the case. -/
def Op.wins (caseId : String) (op : Op) (reply : Res op) : Bool :=
  match op, reply with
  | .commitEffect owner _ _, .ok committed => owner = caseId && committed
  | _, _ => false

theorem Op.Elsewhere.wins {caseId : String} {op : Op} (elsewhere : op.Elsewhere caseId)
    (reply : Res op)
    : op.wins caseId reply = false := by
  cases op with
  | commitEffect owner attempt effect =>
      have other : owner ≠ caseId := elsewhere
      cases reply with
      | error raised => rfl
      | ok committed => simp [Op.wins, other]
  | _ => rfl

/-- A worker that has won a commit for the case commits nothing more for it. -/
def winning (caseId : String) : Program.Typestate Op Res Bool where
  allowed won op := op.Commits ∧ (won = true → op.Elsewhere caseId)
  reply _ _ _ := True
  next won op reply := won || op.wins caseId reply

/-- A commit for the case that is won is one more in the log, and none is lost. -/
theorem World.shares_committed (deployment : Deployment) (own : Worker) (shared : Shared) {op : Op}
    (commits : op.Commits) (caseId : String)
    : (committedAttempts shared.log caseId).length
        + (op.wins caseId (World.shares deployment op (own, shared)).1).toNat
      ≤ (committedAttempts (World.shares deployment op (own, shared)).2.2.log caseId).length := by
  have same (kept : (World.shares deployment op (own, shared)).2.2.log = shared.log)
      (unwon : op.wins caseId (World.shares deployment op (own, shared)).1 = false)
      : (committedAttempts shared.log caseId).length
          + (op.wins caseId (World.shares deployment op (own, shared)).1).toNat
        ≤ (committedAttempts (World.shares deployment op (own, shared)).2.2.log caseId).length := by
    rw [kept, unwon]
    exact le_rfl
  cases op with
  | commitEffect owner attempt effect =>
      obtain ⟨named, -⟩ := commits
      by_cases etcd : deployment.useEtcd = true
      · cases inserted
          : shared.log.insert? ⟨EtcdQuorumBackend.keyFor owner attempt, effect⟩ with
        | none =>
            have lost : World.shares deployment (.commitEffect owner attempt effect) (own, shared)
                = (.ok false, own, shared) := by
              simp only [World.shares, World.answer, World.commitEffect, if_pos etcd,
                EtcdStore.transaction, inserted]
              rfl
            rw [lost]
            simp [Op.wins]
        | some log =>
            have won : World.shares deployment (.commitEffect owner attempt effect) (own, shared)
                = (.ok true, own, ⟨shared.store, log⟩) := by
              simp only [World.shares, World.answer, World.commitEffect, if_pos etcd,
                EtcdStore.transaction, inserted]
              rfl
            rw [won]
            obtain ⟨-, rows⟩ := Table.insert?_some inserted
            simp only [committedAttempts, rows, List.filter_append, List.map_append,
              List.length_append]
            by_cases here : owner = caseId
            · simp [Op.wins, here, named.trans here]
            · simp [Op.wins, here]
      · obtain ⟨raised, failed⟩ := Handler.commitEffect_inMemory deployment ⟨own, shared⟩
          (Bool.eq_false_of_not_eq_true etcd) owner attempt effect
        have refused : World.shares deployment (.commitEffect owner attempt effect) (own, shared)
            = (.error raised, own, shared) := by
          simp only [World.shares, World.answer, failed]
        rw [refused]
        exact le_rfl
  | advanceClock delta =>
      refine same ?_ rfl
      simp only [World.shares, World.answer]
      split <;> rfl
  | createCase | updateCase | recordFailure | recordRetryDecision | updateRetryDecision
  | insertAudit => exact same (by simp [World.shares, World.answer]) rfl
  | _ => exact same rfl rfl

namespace Handler

variable {α β : Type} {caseId : String} {won : Bool}

/-- A permitted operation that commits nothing for the case. -/
def Apart (caseId : String) (op : Op) : Prop := op.Commits ∧ op.Elsewhere caseId

theorem Apart.of_plain {op : Op} (plain : op.Plain) : Apart caseId op :=
  ⟨plain.commits, plain.elsewhere caseId⟩

/-- If the handler returns, it has won a commit for the case. -/
def Wins (caseId : String) (won : Bool) (handler : Handler α) : Prop :=
  Program.Follows (winning caseId) (fun result after => result.isOk = true → after = true) won
    handler.run

theorem wins_throw (raised : Raised) : Wins caseId won (throw raised : Handler α) := by
  intro returned
  cases returned

/-- A handler that commits nothing for the case wins nothing. -/
theorem Issues.wins_nothing {handler : Handler α} (issues : Issues (Apart caseId) handler)
    : Program.Follows (winning caseId) (fun _ after => after = won) won handler.run :=
  Program.Uses.stays issues (fun _ apart => ⟨apart.1, fun _ => apart.2⟩) fun op reply apart => by
    simp only [winning, apart.2.wins, Bool.or_false]

/-- What comes before the commit may raise, and wins nothing. -/
theorem wins_bind {handler : Handler α} {next : α → Handler β}
    (first : Issues (Apart caseId) handler) (rest : ∀ value, Wins caseId won (next value))
    : Wins caseId won (handler >>= next) := by
  unfold Wins
  rw [ExceptT.run_bind]
  refine Program.Follows.bind first.wins_nothing fun result after same => ?_
  subst same
  cases result with
  | error raised => exact wins_throw raised
  | ok value => exact rest value

/-- A commit has been won already. -/
theorem wins_rest {handler : Handler α} (issues : Issues (Apart caseId) handler)
    : Wins caseId true handler :=
  issues.wins_nothing.mono fun _ _ same _ => same

/-- The answer itself does not matter. -/
theorem Wins.answered {handler : Handler α} (wins : Wins caseId won handler)
    : Wins caseId won (do let _ ← handler) := by
  unfold Wins
  rw [ExceptT.run_bind]
  refine Program.Follows.bind wins fun result after ends => ?_
  cases result with
  | error raised => exact wins_throw raised
  | ok value => exact fun _ => ends rfl

/-- A check that refuses the request returns nothing. -/
theorem wins_check {c : Prop} [Decidable c] {status : Nat} {message : String}
    {unreached : PUnit → Handler α} {rest : Handler α} (passed : Wins caseId won rest)
    : Wins caseId won (if c then refuse status message >>= unreached else rest) := by
  split
  · exact wins_throw _
  · exact passed

/-- Only the worker whose transaction inserted the key goes on to answer. -/
theorem wins_commitDecision (deployment : Deployment) (case : RecoveryCase) (segment : PathSegment)
    (decision : RetryDecision)
    : Wins segment.text false (commitDecision deployment case segment.text decision) := by
  refine wins_bind (issues_now.mono fun _ => .of_plain) fun instant => ?_
  let committed : Op :=
    .commitEffect segment.text decision.attemptNumber (retryEffect segment.text decision instant)
  have permitted : (winning segment.text).allowed false committed :=
    ⟨⟨rfl, rfl, rfl, segment.noSlash⟩, fun won => by cases won⟩
  refine Program.follows_request.mpr ⟨permitted, fun approved _ => ?_⟩
  rcases approved with raised | _ | _
  · have refused : (winning segment.text).next false committed (.error raised) = false := rfl
    rw [refused]
    exact wins_throw _
  · have lost : (winning segment.text).next false committed (.ok false) = false := by
      simp [winning, Op.wins, committed]
    rw [lost]
    exact wins_bind ((issues_reconcileCase _ _).mono fun _ => .of_plain) fun _ => wins_throw _
  · have inserted : (winning segment.text).next false committed (.ok true) = true := by
      simp [winning, Op.wins, committed]
    rw [inserted]
    refine wins_rest (.bind ((issues_applyEffect case _).mono fun _ => .of_plain) fun _ => ?_)
    exact .bind (issues_stored ⟨trivial, trivial⟩) fun _ => issues_pure _

/-- A success of `execute_retry` is a commit that was won. -/
theorem wins_executeRetry (deployment : Deployment) (segment : PathSegment)
    : Wins segment.text false (executeRetry deployment segment) := by
  have plain {op : Op} (plain : op.Plain) : Apart segment.text op := .of_plain plain
  refine wins_check (wins_bind ((issues_getCase _).mono fun _ => plain) fun case => ?_)
  refine wins_check (wins_bind (issues_now.mono fun _ => plain) fun instant => ?_)
  refine wins_bind (issues_call (plain trivial)) fun distressed => ?_
  split
  · refine wins_bind ((issues_updateCase _).mono fun _ => plain) fun _ => ?_
    refine wins_bind (issues_now.mono fun _ => plain) fun instant => ?_
    exact wins_bind ((issues_appendAudit _).mono fun _ => plain) fun _ => wins_throw _
  · refine wins_bind (issues_call (plain trivial)) fun pending => ?_
    split
    · exact wins_throw _
    · refine wins_bind (issues_now.mono fun _ => plain) fun due => ?_
      exact wins_check (wins_commitDecision deployment case segment _)

/-- The loop of a release, by induction over the cases. -/
theorem issues_releaseEach (released : List String) (cases : List RecoveryCase)
    : Issues Op.Plain (releaseEach released cases) := by
  induction cases generalizing released with
  | nil => exact issues_pure _
  | cons case rest ih =>
      unfold releaseEach
      split
      · refine .bind (issues_call trivial) fun clock => ?_
        split
        · exact issues_throw _
        · refine .bind (issues_updateCase _) fun _ => .bind (issues_appendAll _) fun _ => ?_
          exact ih _
      · exact ih _

/-- Nothing but an execution for the case commits anything for it. -/
theorem issues_request_apart (deployment : Deployment) (request : Request)
    (other : ∀ segment, request = .executeRetry segment → segment.text ≠ caseId)
    : Issues (Apart caseId) (request.handler deployment) := by
  by_cases executes : ∃ segment, request = .executeRetry segment
  · obtain ⟨segment, rfl⟩ := executes
    exact issues_executeRetry deployment (fun _ => .of_plain) segment
      (fun _ _ => ⟨⟨rfl, rfl, rfl, segment.noSlash⟩, other segment rfl⟩) fun _ => ⟨trivial, trivial⟩
  · exact issues_request deployment (fun _ => .of_plain) (fun _ _ _ _ _ _ => ⟨trivial, trivial⟩)
      (fun _ _ _ => ⟨trivial, trivial⟩) fun segment same => executes ⟨segment, same⟩

end Handler

-----------------------------------------------------------------------------------------
-- Tasks
-----------------------------------------------------------------------------------------

/-- The task is an `execute_retry` for the case. -/
def Task.executes (caseId : String) : Task → Bool
  | .request (.executeRetry segment) => segment.text = caseId
  | _ => false

/-- A task that commits for the case and returns has won. -/
theorem Task.wins (deployment : Deployment) (cases : List RecoveryCase) (task : Task)
    (caseId : String)
    : Program.Follows (winning caseId)
        (fun result after => task.executes caseId = true → result.isOk = true → after = true) false
        (task.handler deployment cases).run := by
  have apart {handler : Handler Unit} (idle : task.executes caseId = false)
      (issues : Handler.Issues (Handler.Apart caseId) handler)
      : Program.Follows (winning caseId)
          (fun result after => task.executes caseId = true → result.isOk = true → after = true)
          false handler.run :=
    issues.wins_nothing.mono fun _ _ _ executes => by simp [idle] at executes
  have plain {handler : Handler Unit} (idle : task.executes caseId = false)
      (issues : Handler.Issues Op.Plain handler) :=
    apart idle (issues.mono fun _ => .of_plain)
  cases task with
  | startup =>
      exact plain rfl (.bind (Handler.issues_reconcileAll _) fun _ => Handler.issues_pure _)
  | releaseThrottles =>
      refine plain rfl (.bind (Handler.issues_check ?_) fun _ => Handler.issues_pure _)
      exact Handler.issues_releaseEach [] cases
  | periodicThrottleRelease =>
      refine plain rfl (Handler.issues_swallow (.bind ?_ fun _ => Handler.issues_pure _))
      exact Handler.issues_releaseEach [] cases
  | request served =>
      by_cases other : ∀ segment, served = .executeRetry segment → segment.text ≠ caseId
      · refine apart ?_ (.bind (Handler.issues_request_apart deployment served other) fun _ =>
          Handler.issues_pure _)
        cases served with
        | executeRetry segment => simp [Task.executes, other segment rfl]
        | _ => rfl
      · push Not at other
        obtain ⟨segment, rfl, rfl⟩ := other
        exact (Handler.wins_executeRetry deployment segment).answered.mono fun _ _ wins _ => wins

namespace Fleet

/-- The tasks of a run, in the order in which they were begun. -/
def tasks (events : List Event) : List Task :=
  events.filterMap fun
    | .begin _ task => some task
    | _ => none

/-- The program has ended, and did not raise. -/
def returned : Program Op Res (Except Raised Unit) → Bool
  | .pure result => result.isOk
  | .request _ _ => false

/-- The tasks of a run that were executions for the case and answered with success. -/
def winners (deployment : Deployment) (caseId : String) (events : List Event) : List Nat :=
  (List.range (tasks events).length).filter fun i =>
    (tasks events)[i]?.any (·.executes caseId)
      && (run deployment events).threads[i]?.any fun thread => returned thread.program

/-- So many commits of the case are logged as there are threads that have won one. -/
def Tallied (caseId : String) (shared : Shared) (won : List Nat) : Prop :=
  won.Nodup ∧ won.length ≤ (committedAttempts shared.log caseId).length

/-- The thread commits nothing more once it has won, and if it executes for the case, it returns
only after it has.
-/
def Contends (caseId : String) (tasks : List Task) (won : List Nat) (i : Nat)
    (thread : Thread Op Res (Except Raised Unit) Worker)
    : Prop :=
  Program.Follows (winning caseId)
    (fun result after =>
      tasks[i]?.any (·.executes caseId) = true → result.isOk = true → after = true)
    (decide (i ∈ won)) thread.program

variable {deployment : Deployment} {caseId : String} {tasks : List Task}

/-- A request of a thread tallies with the log. -/
theorem contends_advances
    : Pool.Advances (World.shares deployment) (Tallied caseId)
        (fun _ won => Contends caseId tasks won) := by
  intro shared won i own op next tallied contends
  obtain ⟨distinct, counted⟩ := tallied
  obtain ⟨⟨commits, after⟩, rest⟩ := Program.follows_request.mp contends
  have more := World.shares_committed deployment own shared commits caseId
  have moved := rest (World.shares deployment op (own, shared)).1 trivial
  by_cases wins : op.wins caseId (World.shares deployment op (own, shared)).1 = true
  · have fresh : i ∉ won := by
      intro already
      have apart := after (decide_eq_true already)
      rw [apart.wins] at wins
      cases wins
    refine ⟨i :: won, ⟨List.nodup_cons.mpr ⟨fresh, distinct⟩, ?_⟩, ?_, ?_⟩
    · rw [wins] at more
      exact (Nat.succ_le_succ counted).trans more
    · simpa [Contends, winning, wins] using moved
    · intro j thread other contends
      simpa [Contends, other] using contends
  · rw [Bool.not_eq_true] at wins
    refine ⟨won, ⟨distinct, ?_⟩, ?_, fun _ _ _ contends => contends⟩
    · rw [wins] at more
      exact counted.trans more
    · simpa [Contends, winning, wins] using moved

/-- What tasks begin later does not matter to a thread that runs. -/
theorem Contends.later {won : List Nat} {i : Nat}
    {thread : Thread Op Res (Except Raised Unit) Worker}
    (contends : Contends caseId tasks won i thread)
    {tasks' : List Task} {won' : List Nat} (same : tasks'[i]? = tasks[i]?)
    (member : i ∈ won' ↔ i ∈ won)
    : Contends caseId tasks' won' i thread := by
  unfold Contends
  rw [same, decide_eq_decide.mpr member]
  exact contends

theorem tasks_append (events : List Event) (event : Event)
    : Fleet.tasks (events ++ [event])
      = Fleet.tasks events ++ Fleet.tasks [event] :=
  List.filterMap_append

theorem length_tasks (deployment : Deployment) (events : List Event)
    : (run deployment events).threads.length = (Fleet.tasks events).length := by
  induction events using List.reverseRecOn with
  | nil => rfl
  | append_singleton events event ih =>
      rw [tasks_append, List.length_append, ← ih, run, List.foldl_append]
      cases event with
      | begin worker task => simp [handle, Fleet.tasks, run]
      | step i =>
          have kept := Pool.length_run (World.shares deployment) (run deployment events) [i]
          simpa [handle, Fleet.tasks, run] using kept
      | reorder cases decisions => simp [handle, Fleet.tasks, run]

/-- Every run tallies, by induction over its events. -/
theorem tallied_run (deployment : Deployment) (caseId : String) (events : List Event)
    : ∃ won,
        Pool.Staged (Tallied caseId) (fun _ won => Contends caseId (Fleet.tasks events) won)
          (run deployment events) won := by
  induction events using List.reverseRecOn with
  | nil =>
      refine ⟨[], ⟨List.nodup_nil, Nat.zero_le _⟩, fun i thread found => ?_⟩
      simp [run, start, Workers.start] at found
  | append_singleton events event ih =>
      obtain ⟨won, staged⟩ := ih
      rw [run, List.foldl_append]
      cases event with
      | step i =>
          obtain ⟨won', staged'⟩ := staged.step contends_advances i
          refine ⟨won', ?_⟩
          simpa [tasks_append, Fleet.tasks, handle, run] using staged'
      | reorder cases decisions =>
          refine ⟨won, staged.1, ?_⟩
          simpa [tasks_append, Fleet.tasks, handle, run] using staged.2
      | begin worker task =>
          let begun := (run deployment events).threads.length
          refine ⟨won.filter (· < begun), staged.start ?_ (fun i thread old contends => ?_) ?_⟩
          · exact ⟨staged.1.1.filter _, (List.length_filter_le _ _).trans staged.1.2⟩
          · refine contends.later ?_ (by simp [begun, old])
            rw [tasks_append, List.getElem?_append_left (length_tasks deployment events ▸ old)]
          · have unwon : decide (begun ∈ won.filter (· < begun)) = false := by simp
            have own : (Fleet.tasks (events ++ [.begin worker task]))[begun]? = some task := by
              simp [Fleet.tasks, begun, length_tasks]
            unfold Contends
            rw [unwon, own]
            exact task.wins deployment _ caseId

/-- Two workers never answer for one execution: however the tasks interleave, no more of them
answer an `execute_retry` for the case with success than commits are logged for it.
-/
theorem executions_won (deployment : Deployment) (caseId : String) (events : List Event)
    : (winners deployment caseId events).length
      ≤ (committedAttempts (run deployment events).shared.log caseId).length := by
  obtain ⟨won, tallied, contends⟩ := tallied_run deployment caseId events
  have distinct : (winners deployment caseId events).Nodup := List.nodup_range.filter _
  have within : winners deployment caseId events ⊆ won := by
    intro i member
    obtain ⟨executes, returned⟩ := Bool.and_eq_true_iff.mp (List.mem_filter.mp member).2
    obtain ⟨⟨own, program⟩, found, ended⟩ := (Option.any_eq_true _ _).mp returned
    cases program with
    | request op next => cases ended
    | pure result => exact of_decide_eq_true (contends i _ found executes ended)
  exact (List.subperm_of_subset distinct within).length_le.trans tallied.2

end Fleet

end RecoveryAgent
