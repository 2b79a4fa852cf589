import RecoveryAgent.Service.Handlers

/-! What one worker's calls do to what is stored about a case.
The numbering and the hashes of audit entries are left out of the view of a case; every
other case keeps its view exactly.
-/

namespace RecoveryAgent

/-- The attempts of a case that are in a commit log. -/
def committedAttempts (log : EtcdStore Effect) (caseId : String) : List Nat :=
  (log.rows.filter (·.value.caseId = caseId)).map (·.value.attempt)

/-- Every commit is the effect of one attempt under that attempt's key, and the case ids
are path segments. `execute_retry` writes nothing else.
-/
def SoundLog (log : EtcdStore Effect) : Prop :=
  ∀ row ∈ log.rows,
    row.key = EtcdQuorumBackend.keyFor row.value.caseId row.value.attempt
    ∧ row.value.toState = .retryExecuted
    ∧ '/' ∉ row.value.caseId.toList

/-- What is stored about a case, and which of its attempts are committed. -/
structure CaseView where
  case : Option RecoveryCase
  decisions : List RetryDecision
  trail : List AuditEntry
  committed : List Nat

/-- The list `execute_retry` picks from. -/
def CaseView.pending (view : CaseView) : List RetryDecision :=
  view.decisions.filter (·.outcome = .pending)

def World.view (world : World) (caseId : String) : CaseView where
  case := (world.store.view caseId).case
  decisions := (world.store.view caseId).decisions
  trail := (world.store.view caseId).trail.map (·.bare)
  committed := committedAttempts world.log caseId

@[simp] theorem World.tick_view (world : World) (readings : Nat)
    : (world.tick readings).view = world.view := rfl

section Log

variable {log : EtcdStore Effect}

/-- In a sound log an attempt is committed exactly when its key is there. -/
theorem SoundLog.mem_committed (sound : SoundLog log) {caseId : String} {attempt : Nat}
    : attempt ∈ committedAttempts log caseId
      ↔ (log.find? (EtcdQuorumBackend.keyFor caseId attempt)).isSome := by
  constructor
  · intro member
    obtain ⟨row, listed, rfl⟩ := List.mem_map.mp member
    obtain ⟨stored, same⟩ := List.mem_filter.mp listed
    have found := Table.find?_of_mem stored
    rw [(sound row stored).1, of_decide_eq_true same] at found
    rw [found]
    rfl
  · intro present
    obtain ⟨row, found⟩ := Option.isSome_iff_exists.mp present
    have stored := Table.mem_of_find? found
    have key := Table.find?_key found
    rw [(sound row stored).1, EtcdQuorumBackend.keyFor_inj] at key
    exact List.mem_map.mpr ⟨row, List.mem_filter.mpr ⟨stored, by simpa using key.1⟩, key.2⟩

/-- No attempt is committed twice. -/
theorem SoundLog.committed_nodup (sound : SoundLog log) (caseId : String)
    : (committedAttempts log caseId).Nodup := by
  refine List.Nodup.map_on ?_ (log.unique.of_map.filter _)
  intro first hf second hs same
  obtain ⟨first_in, first_id⟩ := List.mem_filter.mp hf
  obtain ⟨second_in, second_id⟩ := List.mem_filter.mp hs
  refine List.inj_on_of_nodup_map log.unique first_in second_in ?_
  rw [(sound first first_in).1, (sound second second_in).1, same,
    of_decide_eq_true first_id, of_decide_eq_true second_id]

/-- The scan of one case finds exactly its commits. -/
theorem SoundLog.mem_getPrefix (sound : SoundLog log) {caseId : String}
    (segment : '/' ∉ caseId.toList) {effect : Effect}
    : effect ∈ log.getPrefix (EtcdQuorumBackend.commitsPrefix ++ caseId ++ "/")
      ↔ effect.caseId = caseId ∧ ∃ row ∈ log.rows, row.value = effect := by
  rw [EtcdStore.mem_getPrefix]
  constructor
  · rintro ⟨row, stored, scanned, rfl⟩
    obtain ⟨key, _, segment'⟩ := sound row stored
    rw [key, EtcdQuorumBackend.scan_isPrefix_iff segment segment'] at scanned
    exact ⟨scanned.symm, row, stored, rfl⟩
  · rintro ⟨rfl, row, stored, rfl⟩
    refine ⟨row, stored, ?_, rfl⟩
    rw [(sound row stored).1, EtcdQuorumBackend.scan_isPrefix_iff segment segment]

/-- A commit of an attempt: refused without a trace where the attempt is committed, else
added to the commits of its case.
-/
theorem SoundLog.transaction (sound : SoundLog log) {effect : Effect}
    (executes : effect.toState = .retryExecuted) (segment : '/' ∉ effect.caseId.toList)
    : (effect.attempt ∈ committedAttempts log effect.caseId
        ∧ log.transaction (EtcdQuorumBackend.keyFor effect.caseId effect.attempt) effect
          = (false, log))
      ∨ (effect.attempt ∉ committedAttempts log effect.caseId
        ∧ ∃ log',
            log.transaction (EtcdQuorumBackend.keyFor effect.caseId effect.attempt) effect
              = (true, log')
            ∧ SoundLog log'
            ∧ ∀ caseId,
                committedAttempts log' caseId
                = committedAttempts log caseId
                  ++ if effect.caseId = caseId then [effect.attempt] else []) := by
  rw [sound.mem_committed]
  unfold EtcdStore.transaction
  cases inserted
    : log.insert? ⟨EtcdQuorumBackend.keyFor effect.caseId effect.attempt, effect⟩ with
  | none =>
      obtain ⟨old, found⟩ := Table.insert?_eq_none_iff.mp inserted
      exact .inl ⟨by rw [found]; rfl, rfl⟩
  | some log' =>
      obtain ⟨fresh, rows⟩ := Table.insert?_some inserted
      refine .inr ⟨by rw [fresh]; simp, log', rfl, ?_, fun caseId => ?_⟩
      · intro row stored
        rw [rows] at stored
        rcases List.mem_append.mp stored with stored | stored
        · exact sound row stored
        · cases List.mem_singleton.mp stored
          exact ⟨rfl, executes, segment⟩
      · unfold committedAttempts
        rw [rows, List.filter_append, List.map_append]
        by_cases same : effect.caseId = caseId <;> simp [same]

end Log

/-- A worker took some clock readings and changed what is stored about one case only. -/
structure World.Wrote (world world' : World) (spent : Nat) (caseId : String)
    (view : CaseStore.View)
    : Prop where
  clock : world'.clock = world.clock.skip spent
  log : world'.log = world.log
  views : world'.store.view = Function.update world.store.view caseId view

namespace World.Wrote

variable {world world' world'' : World} {spent spent' : Nat} {caseId : String}
  {view view' : CaseStore.View}

theorem refl (world : World) (caseId : String)
    : world.Wrote world 0 caseId (world.store.view caseId) :=
  ⟨by simp [ServiceClock.skip], rfl, by simp⟩

/-- Readings of the clock write nothing. -/
theorem tick (world : World) (caseId : String) (spent : Nat)
    : world.Wrote (world.tick spent) spent caseId (world.store.view caseId) :=
  ⟨rfl, rfl, by simp⟩

theorem trans (first : world.Wrote world' spent caseId view)
    (second : world'.Wrote world'' spent' caseId view')
    : world.Wrote world'' (spent + spent') caseId view' :=
  ⟨by rw [second.clock, first.clock, ServiceClock.skip_skip], second.log.trans first.log,
    by rw [second.views, first.views, Function.update_idem]⟩

theorem view_eq (wrote : world.Wrote world' spent caseId view)
    : world'.store.view caseId = view := by
  rw [wrote.views, Function.update_self]

theorem reading (wrote : world.Wrote world' spent caseId view) (i : Nat)
    : world'.clock.reading i = world.clock.reading (spent + i) := by
  rw [wrote.clock, ServiceClock.reading_skip]

end World.Wrote

namespace Handler

section Calls

variable (deployment : Deployment) (world : World)

theorem exec_getCase (caseId : String)
    : (∃ case,
        (world.store.view caseId).case = some case
        ∧ exec deployment (getCase caseId) world = (.ok case, world))
      ∨ ((world.store.view caseId).case = none
        ∧ ∃ raised, exec deployment (getCase caseId) world = (.error raised, world)) := by
  have run : exec deployment (getCase caseId) world
      = exec deployment (orRaise (world.store.getCase caseId)) world := by
    unfold getCase
    rw [exec_bind]
    rfl
  rcases world.store.getCase_eq caseId with ⟨case, stored, found⟩ | ⟨absent, raised, missing⟩
  · exact .inl ⟨case, stored, by rw [run, found]; rfl⟩
  · exact .inr ⟨absent, .exception (.store raised), by rw [run, missing]; rfl⟩

/-- A store call that succeeds leaves its store; one that raises leaves the world as it was. -/
theorem exec_stored {handler : Handler Unit} {answered : Except StoreException CaseStore}
    (run
      : exec deployment handler world
        = exec deployment (orRaise (world.stored answered).1) (world.stored answered).2)
    : (∃ store,
        answered = .ok store
        ∧ exec deployment handler world = (.ok (), { world with store }))
      ∨ ∃ raised,
          answered = .error raised
          ∧ exec deployment handler world = (.error (.exception (.store raised)), world) := by
  cases answered with
  | ok store => exact .inl ⟨store, rfl, run⟩
  | error raised => exact .inr ⟨raised, rfl, run⟩

theorem exec_createCase (case : RecoveryCase)
    : (∃ world',
        exec deployment (createCase case) world = (.ok (), world')
        ∧ (world.store.view case.caseId).case = none
        ∧ world.Wrote world' 0 case.caseId
            { world.store.view case.caseId with case := some case })
      ∨ ∃ raised, exec deployment (createCase case) world = (.error raised, world) := by
  have run : exec deployment (createCase case) world
      = exec deployment (orRaise (world.stored (world.store.createCase case)).1)
          (world.stored (world.store.createCase case)).2 := by
    unfold createCase
    rw [exec_bind]
    rfl
  rcases exec_stored deployment world run with ⟨store, created, ok⟩ | ⟨raised, _, failed⟩
  · obtain ⟨absent, views⟩ := CaseStore.view_createCase created
    exact .inl ⟨_, ok, absent, by simp [ServiceClock.skip], rfl, views⟩
  · exact .inr ⟨_, failed⟩

/-- A stored case can be overwritten. -/
theorem exec_updateCase {case old : RecoveryCase}
    (stored : (world.store.view case.caseId).case = some old)
    : ∃ world',
        exec deployment (updateCase case) world = (.ok (), world')
        ∧ world.Wrote world' 0 case.caseId
            { world.store.view case.caseId with case := some case } := by
  have run : exec deployment (updateCase case) world
      = exec deployment (orRaise (world.stored (world.store.updateCase case)).1)
          (world.stored (world.store.updateCase case)).2 := by
    unfold updateCase
    rw [exec_bind]
    rfl
  obtain ⟨store, updated⟩ := CaseStore.updateCase_ok stored
  rw [updated] at run
  refine ⟨_, run, by simp [World.stored, ServiceClock.skip], rfl, ?_⟩
  simp only [World.stored]
  rw [CaseStore.view_updateCase updated, CaseStore.overwrite, stored]
  rfl

/-- A mutation of a stored case object is written in memory, and lost on Postgres. -/
theorem exec_mutateCase {case old : RecoveryCase}
    (stored : (world.store.view case.caseId).case = some old)
    : ∃ world',
        exec deployment (mutateCase case) world = (.ok (), world')
        ∧ (world.Wrote world' 0 case.caseId (world.store.view case.caseId)
          ∨ world.store.isInMemory = true
            ∧ world.Wrote world' 0 case.caseId
                { world.store.view case.caseId with case := some case }) := by
  refine ⟨{ world with store := world.store.mutateCase case }, rfl, ?_⟩
  rcases world.store.view_mutateCase case with same | ⟨inMemory, views⟩
  · exact .inl ⟨by simp [ServiceClock.skip], rfl, by simp [same]⟩
  · refine .inr ⟨inMemory, by simp [ServiceClock.skip], rfl, ?_⟩
    rw [views, CaseStore.overwrite, stored]
    rfl

/-- A recorded failure shows in no view. -/
theorem exec_recordFailure (event : PaymentFailureEvent) (caseId : String)
    : (∃ world',
        exec deployment (recordFailure event) world = (.ok (), world')
        ∧ world.Wrote world' 0 caseId (world.store.view caseId))
      ∨ ∃ raised, exec deployment (recordFailure event) world = (.error raised, world) := by
  have run : exec deployment (recordFailure event) world
      = exec deployment (orRaise (world.stored (world.store.recordFailure event)).1)
          (world.stored (world.store.recordFailure event)).2 := by
    unfold recordFailure
    rw [exec_bind]
    rfl
  rcases exec_stored deployment world run with ⟨store, recorded, ok⟩ | ⟨raised, _, failed⟩
  · refine .inl ⟨_, ok, by simp [ServiceClock.skip], rfl, ?_⟩
    simp [CaseStore.view_recordFailure recorded]
  · exact .inr ⟨_, failed⟩

/-- A decision is recorded where it is the first of its attempt, and else refused. -/
theorem exec_recordRetryDecision (decision : RetryDecision)
    : (∃ world',
        exec deployment (recordRetryDecision decision) world = (.ok (), world')
        ∧ decision.attemptNumber
          ∉ (world.store.view decision.caseId).decisions.map (·.attemptNumber)
        ∧ world.Wrote world' 0 decision.caseId
            { world.store.view decision.caseId with
              decisions := (world.store.view decision.caseId).decisions ++ [decision] })
      ∨ decision.attemptNumber
          ∈ (world.store.view decision.caseId).decisions.map (·.attemptNumber)
        ∧ ∃ raised,
            exec deployment (recordRetryDecision decision) world = (.error raised, world) := by
  have run : exec deployment (recordRetryDecision decision) world
      = exec deployment (orRaise (world.stored (world.store.recordRetryDecision decision)).1)
          (world.stored (world.store.recordRetryDecision decision)).2 := by
    unfold recordRetryDecision
    rw [exec_bind]
    rfl
  rcases exec_stored deployment world run with ⟨store, recorded, ok⟩ | ⟨raised, taken, failed⟩
  · obtain ⟨first, views⟩ := CaseStore.view_recordRetryDecision recorded
    exact .inl ⟨_, ok, first, by simp [ServiceClock.skip], rfl, views⟩
  · exact .inr ⟨CaseStore.recordRetryDecision_raised taken, _, failed⟩

/-- Writing a stored decision back changes nothing. -/
theorem exec_updateRetryDecision {decision : RetryDecision}
    (stored : decision ∈ (world.store.view decision.caseId).decisions)
    : exec deployment (updateRetryDecision decision) world = (.ok (), world) := by
  have run : exec deployment (updateRetryDecision decision) world
      = exec deployment (orRaise (world.stored (world.store.updateRetryDecision decision)).1)
          (world.stored (world.store.updateRetryDecision decision)).2 := by
    unfold updateRetryDecision
    rw [exec_bind]
    rfl
  rw [run, CaseStore.updateRetryDecision_stored stored]
  rfl

/-- A decision for an attempt that has one is written in its place. -/
theorem exec_replaceRetryDecision {decision old : RetryDecision}
    (stored : old ∈ (world.store.view decision.caseId).decisions)
    (same : old.attemptNumber = decision.attemptNumber)
    : ∃ world',
        exec deployment (updateRetryDecision decision) world = (.ok (), world')
        ∧ world.Wrote world' 0 decision.caseId
            { world.store.view decision.caseId with
              decisions := (world.store.view decision.caseId).decisions.map fun old =>
                if old.attemptNumber = decision.attemptNumber then decision else old } := by
  have run : exec deployment (updateRetryDecision decision) world
      = exec deployment (orRaise (world.stored (world.store.updateRetryDecision decision)).1)
          (world.stored (world.store.updateRetryDecision decision)).2 := by
    unfold updateRetryDecision
    rw [exec_bind]
    rfl
  obtain ⟨store, updated, views⟩ := CaseStore.view_updateRetryDecision stored same
  rw [updated] at run
  exact ⟨_, run, by simp [World.stored, ServiceClock.skip], rfl, views⟩

/-- A fresh entry is always accepted and ends the trail of its case. -/
theorem exec_appendAudit {entry : AuditEntry} (fresh : entry.Fresh)
    : ∃ world' logged,
        exec deployment (appendAudit entry) world = (.ok (), world')
        ∧ logged.bare = entry
        ∧ world.Wrote world' 0 entry.caseId
            { world.store.view entry.caseId with
              trail := (world.store.view entry.caseId).trail ++ [logged] } := by
  let next := world.store.nextSequence
  let numbered := { entry with sequenceId := some next.1 }
  let logged := numbered.linked (next.2.lastEntryHash entry.caseId)
  have run : exec deployment (appendAudit entry) world
      = exec deployment (orRaise
            (World.stored { world with store := next.2 } (next.2.insertAudit logged)).1)
          (World.stored { world with store := next.2 } (next.2.insertAudit logged)).2 := by
    unfold appendAudit
    rw [fresh.sequenceId]
    simp only [exec_bind]
    rfl
  obtain ⟨store, inserted⟩ : ∃ store, next.2.insertAudit logged = .ok store :=
    world.store.insertAudit_next rfl
  rw [inserted] at run
  refine ⟨_, logged, run, fresh, by simp [World.stored, ServiceClock.skip], rfl, ?_⟩
  simp only [World.stored]
  rw [CaseStore.view_insertAudit inserted, CaseStore.view_nextSequence]
  rfl

/-- Fresh entries about one case are appended in their order, by induction over them. -/
theorem exec_appendAll {caseId : String} (entries : List AuditEntry)
    (fresh : ∀ entry ∈ entries, entry.Fresh ∧ entry.caseId = caseId)
    : ∃ world' logged,
        exec deployment (appendAll entries) world = (.ok (), world')
        ∧ logged.map (·.bare) = entries
        ∧ world.Wrote world' 0 caseId
            { world.store.view caseId with
              trail := (world.store.view caseId).trail ++ logged } := by
  induction entries generalizing world with
  | nil =>
      refine ⟨world, [], rfl, rfl, ?_⟩
      simpa using World.Wrote.refl world caseId
  | cons entry rest ih =>
      obtain ⟨⟨new, rfl⟩, later⟩ := List.forall_mem_cons.mp fresh
      obtain ⟨mid, logged, appended, same, wrote⟩ := exec_appendAudit deployment world new
      obtain ⟨last, loggedRest, done, sameRest, wroteRest⟩ := ih mid later
      refine ⟨last, logged :: loggedRest, ?_, by simp [same, sameRest], ?_⟩
      · unfold appendAll
        simp only [exec_bind, appended, done]
      · rw [wrote.view_eq] at wroteRest
        simpa using wrote.trans wroteRest

/-- On etcd a commit is one transaction on the key of the attempt. -/
theorem exec_commitEffect (etcd : deployment.useEtcd = true) (caseId : String)
    (attempt : Nat) (effect : Effect)
    : exec deployment (commitEffect caseId attempt effect) world
      = (.ok (.ok (world.log.transaction (EtcdQuorumBackend.keyFor caseId attempt) effect).1),
          world.withLog
            (world.log.transaction (EtcdQuorumBackend.keyFor caseId attempt) effect).2) := by
  have run : exec deployment (commitEffect caseId attempt effect) world
      = (.ok (world.commitEffect deployment caseId attempt effect).1,
          (world.commitEffect deployment caseId attempt effect).2) := rfl
  rw [run]
  simp only [World.commitEffect, if_pos etcd]

/-- Without etcd every commit of an effect raises. -/
theorem commitEffect_inMemory (inMemory : deployment.useEtcd = false) (caseId : String)
    (attempt : Nat) (effect : Effect)
    : ∃ raised, world.commitEffect deployment caseId attempt effect = (.error raised, world) := by
  obtain ⟨raised, unreasoned⟩ := RetryDecision.create_unreasoned caseId attempt
    (world.clock.reading 0) .postgresOutbox effect.dumps
  refine ⟨raised, ?_⟩
  simp only [World.commitEffect, inMemory, InMemoryCommitBackend.commitEffect, unreasoned]
  rfl

theorem exec_commitEffect_inMemory (inMemory : deployment.useEtcd = false) (caseId : String)
    (attempt : Nat) (effect : Effect)
    : ∃ raised,
        exec deployment (commitEffect caseId attempt effect) world
          = (.ok (.error raised), world) := by
  have run : exec deployment (commitEffect caseId attempt effect) world
      = (.ok (world.commitEffect deployment caseId attempt effect).1,
          (world.commitEffect deployment caseId attempt effect).2) := rfl
  obtain ⟨raised, failed⟩ := commitEffect_inMemory deployment world inMemory caseId attempt effect
  exact ⟨raised, by rw [run, failed]⟩

theorem exec_getPrefix (start : String)
    : exec deployment (getPrefix start) world = (.ok (world.log.getPrefix start), world) := rfl

theorem exec_isDistressed (instrumentId : String) (now : Datetime)
    : exec deployment (isDistressed instrumentId now) world
      = (.ok (world.distress.isDistressed instrumentId now), world) := rfl

theorem exec_getPendingRetries
    : exec deployment getPendingRetries world = (.ok world.store.getPendingRetries, world) := rfl

theorem exec_swallow (handler : Handler Unit)
    : exec deployment (swallow handler) world
      = (.ok (), (exec deployment handler world).2) := by
  unfold exec swallow
  simp only [ExceptT.run_mk]
  exact Program.execute_bind _ _ _

end Calls

end Handler

end RecoveryAgent
