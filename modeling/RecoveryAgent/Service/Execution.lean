import RecoveryAgent.Service.Views

/-! What one `execute_retry` does, in every state and for every reply.
The endpoint commits the first pending decision of the case, whichever attempt it is for;
a refused commit replays every commit of the case instead.
-/

namespace RecoveryAgent

-----------------------------------------------------------------------------------------
-- One worker's effect on one case
-----------------------------------------------------------------------------------------

/-- A worker took some clock readings and left one case with the given view, and all others
as they were.
-/
structure World.Touched (world world' : World) (spent : Nat) (caseId : String)
    (view : CaseView)
    : Prop where
  clock : world'.clock = world.clock.skip spent
  sound : SoundLog world'.log
  here : world'.view caseId = view
  elsewhere : ∀ other, other ≠ caseId → world'.view other = world.view other

/-- Writes about a case touch that case only. -/
theorem World.Wrote.touched {world world' : World} {spent : Nat} {caseId : String}
    {view : CaseStore.View} (wrote : world.Wrote world' spent caseId view)
    (sound : SoundLog world.log)
    : world.Touched world' spent caseId {
        case := view.case
        decisions := view.decisions
        trail := view.trail.map (·.bare)
        committed := (world.view caseId).committed
      } where
  clock := wrote.clock
  sound := wrote.log ▸ sound
  here := by simp only [World.view, wrote.view_eq, wrote.log]
  elsewhere other different := by
    simp only [World.view, wrote.views, wrote.log, Function.update_of_ne different]

/-- Readings of the clock touch nothing. -/
theorem World.Touched.tick {world : World} (sound : SoundLog world.log) (caseId : String)
    (spent : Nat)
    : world.Touched (world.tick spent) spent caseId (world.view caseId) where
  clock := rfl
  sound := sound
  here := rfl
  elsewhere _ _ := rfl

/-- Readings taken before count along. -/
theorem World.Touched.after {world world' : World} {before spent : Nat} {caseId : String}
    {view : CaseView} (touched : (world.tick before).Touched world' spent caseId view)
    : world.Touched world' (before + spent) caseId view where
  clock := by rw [touched.clock, World.tick_clock, ServiceClock.skip_skip]
  sound := touched.sound
  here := touched.here
  elsewhere := touched.elsewhere

/-- Later readings, and what the distress detector records, are in no view. -/
theorem World.Touched.before {world world' : World} {spent : Nat} {caseId : String}
    {view : CaseView} (touched : world.Touched world' spent caseId view) (more : Nat)
    (distress : DistressDetector)
    : world.Touched { world'.tick more with distress } (spent + more) caseId view where
  clock := by
    rw [← ServiceClock.skip_skip, ← touched.clock]
    rfl
  sound := touched.sound
  here := touched.here
  elsewhere := touched.elsewhere

namespace Handler

variable (deployment : Deployment)

-----------------------------------------------------------------------------------------
-- Applying and healing
-----------------------------------------------------------------------------------------

/-- An effect is applied to a case that is not yet in its state. -/
theorem exec_applyEffect (world : World) {case old : RecoveryCase} {effect : Effect}
    (stored : (world.store.view case.caseId).case = some old)
    (pending : case.state ≠ effect.toState)
    : ∃ world' logged,
        exec deployment (applyEffect case effect) world
          = (.ok { case with state := effect.toState }, world')
        ∧ logged.bare = effectApplied case.caseId (world.clock.reading 0)
        ∧ world.Wrote world' 1 case.caseId
            { world.store.view case.caseId with
              case := some { case with state := effect.toState }
              trail := (world.store.view case.caseId).trail ++ [logged] } := by
  obtain ⟨first, updated, overwrote⟩ :=
    @exec_updateCase deployment world { case with state := effect.toState } old stored
  have ticked := World.Wrote.tick first case.caseId 1
  obtain ⟨last, logged, appended, same, added⟩ := exec_appendAudit deployment (first.tick 1)
    (show (effectApplied case.caseId (first.clock.reading 0)).Fresh from rfl)
  refine ⟨last, logged, ?_, ?_, ?_⟩
  · unfold applyEffect
    rw [if_neg pending]
    simp only [exec_bind, updated, exec_now, appended, exec_pure]
  · rw [same, overwrote.reading]
  · have wrote := (overwrote.trans ticked).trans added
    have before : first.store.view case.caseId = _ := overwrote.view_eq
    simp only [effectApplied, World.tick_store, before] at wrote
    exact wrote

/-- A case that is in execution already is left alone by every further effect. -/
theorem exec_healFrom_idle {world : World} {caseId : String} {case : RecoveryCase}
    (stored : (world.store.view caseId).case = some case)
    (executed : case.state = .retryExecuted) {effects : List Effect}
    (execute : ∀ effect ∈ effects, effect.toState = .retryExecuted)
    : exec deployment (healFrom caseId effects) world = (.ok (), world) := by
  induction effects with
  | nil => rfl
  | cons effect rest ih =>
      obtain ⟨first, later⟩ := List.forall_mem_cons.mp execute
      rcases exec_getCase deployment world caseId with ⟨found, same, got⟩ | ⟨absent, _⟩
      · cases stored.symm.trans same
        unfold healFrom applyEffect
        simp only [exec_bind, got, if_pos (executed.trans first.symm), exec_pure, ih later]
      · rw [stored] at absent
        cases absent

/-- Healing moves a case with a committed effect into execution, with one entry. -/
theorem exec_healFrom {world : World} {caseId : String} {case : RecoveryCase}
    (stored : (world.store.view caseId).case = some case)
    (pending : case.state ≠ .retryExecuted) {effects : List Effect} (nonempty : effects ≠ [])
    (execute : ∀ effect ∈ effects, effect.toState = .retryExecuted)
    : ∃ world' logged,
        exec deployment (healFrom caseId effects) world = (.ok (), world')
        ∧ logged.bare = effectApplied caseId (world.clock.reading 0)
        ∧ world.Wrote world' 1 caseId
            { world.store.view caseId with
              case := some { case with state := .retryExecuted }
              trail := (world.store.view caseId).trail ++ [logged] } := by
  cases effects with
  | nil => exact absurd rfl nonempty
  | cons effect rest =>
      obtain ⟨first, later⟩ := List.forall_mem_cons.mp execute
      have id_eq := CaseStore.view_caseId stored
      subst id_eq
      rcases exec_getCase deployment world case.caseId with ⟨found, same, got⟩ | ⟨absent, _⟩
      · cases stored.symm.trans same
        obtain ⟨world', logged, applied, bare, wrote⟩ :=
          @exec_applyEffect deployment world case case effect stored (first ▸ pending)
        rw [first] at wrote
        have healed : (world'.store.view case.caseId).case
            = some { case with state := .retryExecuted } := by
          rw [wrote.view_eq]
        have idle := exec_healFrom_idle deployment healed rfl later
        refine ⟨world', logged, ?_, bare, wrote⟩
        unfold healFrom
        simp only [exec_bind, got, applied, idle]
      · rw [stored] at absent
        cases absent

-----------------------------------------------------------------------------------------
-- The commit
-----------------------------------------------------------------------------------------

/-- The view of a case moved into execution, with the entry of the move. -/
def executedView (view : CaseView) (case : RecoveryCase) (now : Datetime) : CaseView :=
  { view with
    case := some { case with state := .retryExecuted }
    trail := view.trail ++ [effectApplied case.caseId now] }

section Commit

variable (etcd : deployment.useEtcd = true) {world : World} (sound : SoundLog world.log)
  {caseId : String} (segment : '/' ∉ caseId.toList) {case row : RecoveryCase}
  (stored : (world.store.view caseId).case = some row) {decision : RetryDecision}

include etcd sound segment stored

/-- A commit approved by etcd adds the attempt and moves the case as it was read, whatever
its row has become, with one entry.
-/
theorem exec_commitDecision_approved (read : case.caseId = caseId)
    (scheduled : case.state = .retryScheduled)
    (listed : decision ∈ (world.store.view caseId).decisions)
    (uncommitted : decision.attemptNumber ∉ (world.view caseId).committed)
    : world.Touched (exec deployment (commitDecision deployment case caseId decision) world).2
        2 caseId
        { executedView (world.view caseId) case (world.clock.reading 1) with
          committed := (world.view caseId).committed ++ [decision.attemptNumber] } := by
  subst read
  rcases @SoundLog.transaction _ sound
    (retryEffect case.caseId decision (world.clock.reading 0)) rfl segment with
    ⟨taken, _⟩ | ⟨_, log, approved, sound', commits⟩
  · exact absurd taken uncommitted
  obtain ⟨last, logged, applied, bare, wrote⟩ := @exec_applyEffect deployment
    ((world.tick 1).withLog log) case row
    (retryEffect case.caseId decision (world.clock.reading 0)) stored
    (by rw [scheduled]; simp [retryEffect])
  have kept : decision ∈ (last.store.view decision.caseId).decisions := by
    rw [CaseStore.view_decisions_caseId listed, wrote.view_eq]
    exact listed
  have run
      : (exec deployment (commitDecision deployment case case.caseId decision) world).2 = last := by
    unfold commitDecision
    simp only [exec_bind, exec_now, exec_commitEffect deployment _ etcd, World.tick_log]
    simp only [retryEffect] at approved applied ⊢
    rw [approved]
    simp only [applied, exec_bind, exec_updateRetryDecision deployment last kept, exec_pure]
  have touched := wrote.touched sound'
  rw [run]
  constructor
  · rw [touched.clock, World.withLog_clock, World.tick_clock, ServiceClock.skip_skip]
  · exact touched.sound
  · rw [touched.here]
    simp [executedView, World.view, bare, commits, retryEffect]
  · intro other different
    rw [touched.elsewhere other different]
    simp [World.view, commits, retryEffect, Ne.symm different]

/-- A commit refused by etcd is healed from the log: the row is moved all the same. -/
theorem exec_commitDecision_refused (pending : row.state ≠ .retryExecuted)
    (committed : decision.attemptNumber ∈ (world.view caseId).committed)
    : world.Touched (exec deployment (commitDecision deployment case caseId decision) world).2
        2 caseId (executedView (world.view caseId) row (world.clock.reading 1)) := by
  rcases @SoundLog.transaction _ sound
    (retryEffect caseId decision (world.clock.reading 0)) rfl segment with
    ⟨_, refused⟩ | ⟨fresh, _⟩
  swap
  · exact absurd committed fresh
  have execute
      : ∀ effect ∈ world.log.getPrefix (EtcdQuorumBackend.commitsPrefix ++ caseId ++ "/"),
          effect.toState = .retryExecuted := by
    intro effect member
    obtain ⟨_, row, listed, rfl⟩ := (sound.mem_getPrefix segment).mp member
    exact (sound row listed).2.1
  have nonempty
      : world.log.getPrefix (EtcdQuorumBackend.commitsPrefix ++ caseId ++ "/") ≠ [] := by
    obtain ⟨row, listed, _⟩ := List.mem_map.mp committed
    obtain ⟨stored_row, same⟩ := List.mem_filter.mp listed
    exact List.ne_nil_of_mem ((sound.mem_getPrefix segment).mpr
      ⟨of_decide_eq_true same, row, stored_row, rfl⟩)
  obtain ⟨last, logged, healed, bare, wrote⟩ := @exec_healFrom deployment
    ((world.tick 1).withLog world.log) caseId row stored pending _ nonempty execute
  have run
      : (exec deployment (commitDecision deployment case caseId decision) world).2 = last := by
    unfold commitDecision reconcileCase
    simp only [exec_bind, exec_now, exec_commitEffect deployment _ etcd, World.tick_log]
    simp only [retryEffect] at refused ⊢
    rw [refused]
    simp only [etcd, if_true, exec_bind, exec_swallow, exec_getPrefix, exec_refuse,
      World.withLog_log, healed]
  have touched := wrote.touched sound
  rw [run]
  constructor
  · rw [touched.clock, World.withLog_clock, World.tick_clock, ServiceClock.skip_skip]
  · exact touched.sound
  · rw [touched.here]
    simp [executedView, World.view, bare, CaseStore.view_caseId stored]
  · exact touched.elsewhere

end Commit

end Handler

-----------------------------------------------------------------------------------------
-- The endpoint
-----------------------------------------------------------------------------------------

/-- `execute_retry` gets past its checks to the commit: the case is scheduled, its
instrument is not distressed, and the first pending decision is due.
-/
structure Admitted (deployment : Deployment) (world : World) (caseId : String)
    (case : RecoveryCase) (decision : RetryDecision)
    : Prop where
  demo : deployment.config.profileName = .demo
  stored : (world.view caseId).case = some case
  scheduled : case.state = .retryScheduled
  calm : world.distress.isDistressed case.instrumentId (world.clock.reading 0) = false
  first : (world.view caseId).pending.head? = some decision
  due : decision.scheduledAt ≤ world.clock.reading 1

/-- Everything one `execute_retry` can do to what is stored. -/
inductive ExecuteRetryOutcome (deployment : Deployment) (world world' : World)
    (caseId : String)
    : Prop where
  | approved {case : RecoveryCase} {decision : RetryDecision}
      (admitted : Admitted deployment world caseId case decision)
      (etcd : deployment.useEtcd = true)
      (uncommitted : decision.attemptNumber ∉ (world.view caseId).committed)
      (touched
        : world.Touched world' 4 caseId
            { Handler.executedView (world.view caseId) case (world.clock.reading 3) with
              committed := (world.view caseId).committed ++ [decision.attemptNumber] })
  | healed {case : RecoveryCase} {decision : RetryDecision}
      (admitted : Admitted deployment world caseId case decision)
      (etcd : deployment.useEtcd = true)
      (committed : decision.attemptNumber ∈ (world.view caseId).committed)
      (touched
        : world.Touched world' 4 caseId
            (Handler.executedView (world.view caseId) case (world.clock.reading 3)))
  | escalated {case : RecoveryCase} (stored : (world.view caseId).case = some case)
      (scheduled : case.state = .retryScheduled)
      (distressed
        : world.distress.isDistressed case.instrumentId (world.clock.reading 0) = true)
      (touched
        : world.Touched world' 2 caseId
            { world.view caseId with
              case := some { case with state := .escalated }
              trail := (world.view caseId).trail
                ++ [Handler.distressSignal caseId (world.clock.reading 1)] })
  | idle
      (turned
        : ∀ case decision,
            Admitted deployment world caseId case decision → deployment.useEtcd = false)
      (spent : Nat) (touched : world.Touched world' spent caseId (world.view caseId))

/-- The distress gate writes the escalated case and its entry, and refuses. -/
theorem Handler.exec_escalateDistressed (deployment : Deployment) {world : World}
    {case row : RecoveryCase} (stored : (world.store.view case.caseId).case = some row)
    : ∃ world' logged raised,
        exec deployment (escalateDistressed case) world = (.error raised, world')
        ∧ logged.bare = distressSignal case.caseId (world.clock.reading 0)
        ∧ world.Wrote world' 1 case.caseId
            { world.store.view case.caseId with
              case := some { case with state := .escalated }
              trail := (world.store.view case.caseId).trail ++ [logged] } := by
  obtain ⟨first, updated, overwrote⟩ :=
    @exec_updateCase deployment world { case with state := .escalated } row stored
  have ticked := World.Wrote.tick first case.caseId 1
  obtain ⟨last, logged, appended, same, added⟩ := exec_appendAudit deployment (first.tick 1)
    (show (distressSignal case.caseId (first.clock.reading 0)).Fresh from rfl)
  refine ⟨last, logged,
    .http 409 (.text "Instrument distressed; retry blocked, case escalated"), ?_, ?_, ?_⟩
  · unfold escalateDistressed
    simp only [exec_bind, updated, exec_now, appended, exec_refuse]
  · rw [same, overwrote.reading]
  · have wrote := (overwrote.trans ticked).trans added
    have before : first.store.view case.caseId = _ := overwrote.view_eq
    simp only [distressSignal, World.tick_store, before] at wrote
    exact wrote

/-- One `execute_retry`, by its checks in their order. -/
theorem Handler.exec_executeRetry (deployment : Deployment) (world : World)
    (sound : SoundLog world.log) (caseId : PathSegment)
    : ExecuteRetryOutcome deployment world
        (exec deployment (executeRetry deployment caseId) world).2 caseId.text := by
  have unmoved (spent : Nat) := World.Touched.tick sound caseId.text spent
  have still : world.Touched world 0 caseId.text (world.view caseId.text) :=
    (World.Wrote.refl world caseId.text).touched sound
  unfold executeRetry
  by_cases demo : deployment.config.profileName ≠ .demo
  · simp only [if_pos demo, exec_bind, exec_refuse]
    exact .idle (fun _ _ admitted => absurd admitted.demo demo) 0 still
  simp only [if_neg demo]
  rw [exec_bind]
  rcases exec_getCase deployment world caseId.text with
    ⟨case, stored, got⟩ | ⟨absent, raised, got⟩
  swap
  · rw [got]
    exact .idle (fun _ _ admitted => absurd (admitted.stored.symm.trans absent) (by simp)) 0
      still
  rw [got]
  have same {other : RecoveryCase} (stored' : (world.view caseId.text).case = some other)
      : case = other :=
    Option.some.inj (stored.symm.trans stored')
  by_cases scheduled : case.state ≠ .retryScheduled
  · simp only [if_pos scheduled, exec_bind, exec_refuse]
    refine .idle (fun other _ admitted => ?_) 0 still
    rw [same admitted.stored] at scheduled
    exact absurd admitted.scheduled scheduled
  have scheduled := not_not.mp scheduled
  simp only [scheduled, ne_eq, not_true_eq_false, if_false, exec_bind, exec_now,
    exec_isDistressed, exec_ite, World.tick_distress]
  by_cases distressed
    : world.distress.isDistressed case.instrumentId (world.clock.reading 0) = true
  · have id_eq := CaseStore.view_caseId stored
    rw [if_pos distressed]
    rw [← id_eq] at stored ⊢
    obtain ⟨world', logged, raised, ended, bare, wrote⟩ :=
      @exec_escalateDistressed deployment (world.tick 1) case case stored
    rw [ended]
    have touched := (wrote.touched sound).after
    refine .escalated stored scheduled distressed ?_
    simpa only [World.view, List.map_append, List.map_cons, List.map_nil, bare,
      World.tick_clock, World.tick_store, World.tick_log, ServiceClock.reading_skip] using touched
  rw [if_neg distressed]
  have calm : world.distress.isDistressed case.instrumentId (world.clock.reading 0) = false := by
    simpa using distressed
  simp only [exec_getPendingRetries, World.tick_store, CaseStore.pending_eq]
  cases pending : (world.store.view caseId.text).pending with
  | nil =>
      refine .idle (fun _ _ admitted => ?_) 1 (unmoved 1)
      have first : (world.store.view caseId.text).pending.head? = _ := admitted.first
      rw [pending] at first
      cases first
  | cons decision rest =>
      have first : (world.view caseId.text).pending.head? = some decision :=
        congrArg List.head? pending
      by_cases early : world.clock.reading 1 < decision.scheduledAt
      · have refused := show (world.tick 1).clock.reading 0 < decision.scheduledAt by
          rw [World.tick_clock, ServiceClock.reading_skip]
          exact early
        simp only [exec_bind, exec_now, if_pos refused, exec_refuse, World.tick_tick]
        refine .idle (fun _ other admitted => ?_) 2 (unmoved 2)
        cases first.symm.trans admitted.first
        exact absurd admitted.due (not_le.mpr early)
      have due := not_lt.mp early
      have admitted : Admitted deployment world caseId.text case decision :=
        ⟨not_not.mp demo, stored, scheduled, calm, first, due⟩
      have listed : decision ∈ ((world.tick 2).store.view caseId.text).decisions :=
        (List.mem_filter.mp (List.mem_of_mem_head? first)).1
      have passed := show ¬ (world.tick 1).clock.reading 0 < decision.scheduledAt by
        rw [World.tick_clock, ServiceClock.reading_skip]
        exact early
      simp only [exec_bind, exec_now, if_neg passed, World.tick_tick]
      by_cases etcd : deployment.useEtcd = true
      swap
      · -- the in-memory backend raises on every effect
        obtain ⟨raised, failed⟩ := exec_commitEffect_inMemory deployment (world.tick 3)
          (by simpa using etcd) caseId.text decision.attemptNumber
          (retryEffect caseId.text decision ((world.tick 2).clock.reading 0))
        refine .idle (fun _ _ _ => by simpa using etcd) 3 ?_
        unfold commitDecision
        simp only [exec_bind, exec_now, World.tick_tick, failed, exec_throw]
        exact unmoved 3
      by_cases committed : decision.attemptNumber ∈ (world.view caseId.text).committed
      · have touched := @exec_commitDecision_refused deployment etcd (world.tick 2) sound
          caseId.text caseId.noSlash case case stored decision
          (by rw [scheduled]; decide) committed
        refine .healed admitted etcd committed ?_
        simpa using touched.after
      · have touched := @exec_commitDecision_approved deployment etcd (world.tick 2) sound
          caseId.text caseId.noSlash case case stored decision (CaseStore.view_caseId stored)
          scheduled listed committed
        refine .approved admitted etcd committed ?_
        simpa using touched.after

end RecoveryAgent
