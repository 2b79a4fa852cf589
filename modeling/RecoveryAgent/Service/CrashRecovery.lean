import Mathlib.Data.Finset.Card
import Mathlib.Data.Finset.Dedup
import RecoveryAgent.Core.TimeText
import RecoveryAgent.Service.Crashes
import RecoveryAgent.Service.Reconciliation

/-! A worker that crashes between the commit of a retry and its record, and the start-up after it.
The effect in the log says when the retry was executed. Neither the worker nor the start-up
reads that back: each stamps its entry with its own clock.
-/

namespace RecoveryAgent

open Handler

namespace Handler

section Stops

variable {α β : Type} {deployment : Deployment} {world crashed : World} {op : Op}

/-- A check stops nowhere, and is passed before what follows it stops. -/
theorem stops_check {c : Prop} [Decidable c] {status : Nat} {message : String}
    {unreached : PUnit → Handler α} {rest : Handler α}
    : Stops deployment (if c then refuse status message >>= unreached else rest) world op crashed
      ↔ ¬ c ∧ Stops deployment rest world op crashed := by
  by_cases refused : c
  · rw [if_pos refused]
    refine iff_of_false Program.stops_pure fun ⟨passed, _⟩ => passed refused
  · rw [if_neg refused]
    exact (and_iff_right refused).symm

/-- A plain part of a handler is over where the handler stops before any other operation. -/
theorem stops_plain_bind {handler : Handler α} {next : α → Handler β}
    (plain : Issues Op.Plain handler) (other : ¬ op.Plain)
    : Stops deployment (handler >>= next) world op crashed
      ↔ ∃ value,
          (exec deployment handler world).1 = .ok value
          ∧ Stops deployment (next value) (exec deployment handler world).2 op crashed :=
  stops_bind.trans (or_iff_right fun stops => other (Program.Uses.stops plain stops))

/-- A worker that stops before a commit is past all the checks of `execute_retry`. -/
theorem stops_executeRetry {segment : PathSegment} {caseId : String} {attempt : Nat}
    {effect : Effect}
    (stops
      : Stops deployment (executeRetry deployment segment) world
          (.commitEffect caseId attempt effect) crashed)
    : ∃ case decision,
        Admitted deployment world segment.text case decision
        ∧ caseId = segment.text ∧ attempt = decision.attemptNumber
        ∧ effect = retryEffect segment.text decision (world.clock.reading 2)
        ∧ crashed = world.tick 3 := by
  have other : ¬ (Op.commitEffect caseId attempt effect).Plain := id
  unfold executeRetry at stops
  obtain ⟨demo, stops⟩ := stops_check.mp stops
  obtain ⟨case, got, stops⟩ := (stops_plain_bind (issues_getCase _) other).mp stops
  rcases exec_getCase deployment world segment.text with
    ⟨stored, found, run⟩ | ⟨absent, raised, run⟩
  swap
  · rw [run] at got
    cases got
  rw [run] at got stops
  cases got
  obtain ⟨scheduled, stops⟩ := stops_check.mp stops
  obtain ⟨instant, read, stops⟩ := (stops_plain_bind issues_now other).mp stops
  cases read
  have asked : Issues Op.Plain (isDistressed case.instrumentId (world.clock.reading 0)) :=
    issues_call trivial
  obtain ⟨distressed, answered, stops⟩ := (stops_plain_bind asked other).mp stops
  cases answered
  split at stops
  · exact absurd (Program.Uses.stops (issues_escalateDistressed _) stops) other
  next calm =>
  have listed : Issues Op.Plain getPendingRetries := issues_call trivial
  obtain ⟨pending, answered, stops⟩ := (stops_plain_bind listed other).mp stops
  cases answered
  split at stops
  · exact absurd stops stops_throw
  next decision rest first =>
  obtain ⟨due, read, stops⟩ := (stops_plain_bind issues_now other).mp stops
  cases read
  obtain ⟨reached, stops⟩ := stops_check.mp stops
  unfold commitDecision at stops
  obtain ⟨instant, read, stops⟩ := (stops_plain_bind issues_now other).mp stops
  cases read
  rcases stops_bind.mp stops with stops | ⟨approved, _, stops⟩
  · obtain ⟨same, rfl⟩ := stops_call.mp stops
    cases same
    have head : (world.view segment.text).pending.head? = some decision := by
      have split := world.store.pending_eq segment.text
      rw [show world.store.getPendingRetries.filter (·.caseId = segment.text) = _ from first]
        at split
      exact congrArg List.head? split.symm
    refine ⟨case, decision, ?_, rfl, rfl, rfl, rfl⟩
    exact ⟨not_not.mp demo, found, not_not.mp scheduled, Bool.eq_false_of_not_eq_true calm, head,
      Int.not_lt.mp reached⟩
  · -- nothing is committed after the commit
    exfalso
    rcases approved with raised | _ | _
    · exact stops_throw stops
    · obtain ⟨_, _, stops⟩ := (stops_plain_bind (issues_reconcileCase _ _) other).mp stops
      exact stops_throw stops
    · obtain ⟨_, _, stops⟩ := (stops_plain_bind (issues_applyEffect _ _) other).mp stops
      rcases stops_bind.mp stops with stops | ⟨_, _, stops⟩
      · cases (stops_raising.mp stops).1
      · exact stops_pure stops

/-- A worker that is past them stops before the commit. -/
theorem executeRetry_stops {segment : PathSegment} {case : RecoveryCase}
    {decision : RetryDecision} (admitted : Admitted deployment world segment.text case decision)
    : Stops deployment (executeRetry deployment segment) world
        (.commitEffect segment.text decision.attemptNumber
          (retryEffect segment.text decision (world.clock.reading 2))) (world.tick 3) := by
  obtain ⟨rest, split⟩ := List.head?_eq_some_iff.mp admitted.first
  have listed
      : world.store.getPendingRetries.filter (·.caseId = segment.text) = decision :: rest :=
    (world.store.pending_eq segment.text).trans split
  unfold executeRetry
  refine stops_check.mpr ⟨not_not.mpr admitted.demo, ?_⟩
  rcases exec_getCase deployment world segment.text with
    ⟨found, stored, got⟩ | ⟨absent, _⟩
  swap
  · cases admitted.stored.symm.trans absent
  cases admitted.stored.symm.trans stored
  refine stops_bind.mpr (.inr ⟨case, by rw [got], ?_⟩)
  rw [got]
  refine stops_check.mpr ⟨not_not.mpr admitted.scheduled, ?_⟩
  refine stops_bind.mpr (.inr ⟨_, rfl, stops_bind.mpr (.inr ⟨_, rfl, ?_⟩)⟩)
  change Stops deployment (if world.distress.isDistressed case.instrumentId (world.clock.reading 0)
    then _ else _) (world.tick 1) _ _
  rw [admitted.calm, if_neg Bool.false_ne_true]
  refine stops_bind.mpr (.inr ⟨_, rfl, ?_⟩)
  dsimp only
  split
  · next unlisted => cases listed.symm.trans unlisted
  next first others picked =>
  cases listed.symm.trans picked
  refine stops_bind.mpr (.inr ⟨_, rfl, ?_⟩)
  refine stops_check.mpr ⟨Int.not_lt.mpr admitted.due, ?_⟩
  refine stops_bind.mpr (.inr ⟨_, rfl, ?_⟩)
  exact stops_bind.mpr (.inl (stops_call.mpr ⟨rfl, rfl⟩))

end Stops

/-- The worker crashes in `execute_retry` right after its commit of the effect succeeded. -/
def CrashesCommitted (deployment : Deployment) (segment : PathSegment) (world : World)
    (effect : Effect) (crashed : World)
    : Prop :=
  ∃ caseId attempt before,
    Stops deployment (executeRetry deployment segment) world
      (.commitEffect caseId attempt effect) before
    ∧ before.answer deployment (.commitEffect caseId attempt effect) = (.ok true, crashed)

/-- What such a crash leaves: the store as it was, and the effect of a due retry in the log. -/
theorem CrashesCommitted.admitted {deployment : Deployment} {segment : PathSegment}
    {world crashed : World} {effect : Effect} (sound : SoundLog world.log)
    (crash : CrashesCommitted deployment segment world effect crashed)
    : ∃ case decision,
        Admitted deployment world segment.text case decision
        ∧ deployment.useEtcd = true
        ∧ decision.attemptNumber ∉ (world.view segment.text).committed
        ∧ effect = retryEffect segment.text decision (world.clock.reading 2)
        ∧ crashed.store = world.store
        ∧ SoundLog crashed.log
        ∧ committedAttempts crashed.log segment.text ≠ [] := by
  obtain ⟨caseId, attempt, before, stops, answered⟩ := crash
  obtain ⟨case, decision, admitted, rfl, rfl, rfl, rfl⟩ := stops_executeRetry stops
  change (world.tick 3).commitEffect deployment _ _ _ = _ at answered
  cases etcd : deployment.useEtcd with
  | false =>
      obtain ⟨raised, refused⟩ := exec_commitEffect_inMemory deployment (world.tick 3) etcd
        segment.text decision.attemptNumber
        (retryEffect segment.text decision (world.clock.reading 2))
      have run : exec deployment (commitEffect segment.text decision.attemptNumber
          (retryEffect segment.text decision (world.clock.reading 2))) (world.tick 3)
          = (.ok (Except.ok true), crashed) :=
        congrArg (fun answered => (Except.ok answered.1, answered.2)) answered
      cases run.symm.trans refused
  | true =>
      simp only [World.commitEffect, etcd, if_true, Prod.mk.injEq, Except.ok.injEq] at answered
      obtain ⟨success, rfl⟩ := answered
      rcases @SoundLog.transaction _ sound
        (retryEffect segment.text decision (world.clock.reading 2)) rfl segment.noSlash with
        ⟨_, refused⟩ | ⟨uncommitted, log, approved, sound', commits⟩
      · have failed := congrArg Prod.fst refused
        cases success.symm.trans failed
      · refine ⟨case, decision, admitted, rfl, uncommitted, rfl, rfl, ?_⟩
        have logged
            : ((world.tick 3).withLog ((world.tick 3).log.transaction
                (EtcdQuorumBackend.keyFor segment.text decision.attemptNumber)
                (retryEffect segment.text decision (world.clock.reading 2))).2).log = log :=
          congrArg Prod.snd approved
        rw [logged, commits]
        exact ⟨sound', by simp [retryEffect]⟩

end Handler

-----------------------------------------------------------------------------------------
-- When a start-up comes to a case
-----------------------------------------------------------------------------------------

/-- The case is stored, and not in execution. -/
def CaseStore.waits (store : CaseStore) (caseId : String) : Bool :=
  (store.view caseId).case.any (·.state ≠ .retryExecuted)

theorem CaseStore.waits_eq_false {store : CaseStore} {caseId : String}
    : store.waits caseId = false
      ↔ ∀ case, (store.view caseId).case = some case → case.state = .retryExecuted := by
  unfold waits
  cases (store.view caseId).case <;> simp

/-- How many waiting cases the effects name before they name this one. -/
def healsAhead (waits : String → Bool) (caseId : String) (effects : List Effect) : Nat :=
  (((effects.map (·.caseId)).takeWhile (· ≠ caseId)).toFinset.filter (waits ·)).card

section HealsAhead

variable {waits : String → Bool} {caseId : String} {effect : Effect} (rest : List Effect)

theorem healsAhead_named (named : effect.caseId = caseId)
    : healsAhead waits caseId (effect :: rest) = 0 := by
  simp [healsAhead, named]

theorem healsAhead_idle (other : effect.caseId ≠ caseId) (idle : waits effect.caseId = false)
    : healsAhead waits caseId (effect :: rest) = healsAhead waits caseId rest := by
  simp [healsAhead, other, Finset.filter_insert, idle]

/-- A waiting case does not wait again once it is healed. -/
theorem healsAhead_waits {waits' : String → Bool} (other : effect.caseId ≠ caseId)
    (waiting : waits effect.caseId = true) (healed : waits' effect.caseId = false)
    (kept : ∀ id, id ≠ effect.caseId → waits' id = waits id)
    : healsAhead waits caseId (effect :: rest) = 1 + healsAhead waits' caseId rest := by
  have split
      : ((((effect :: rest).map (·.caseId)).takeWhile (· ≠ caseId)).toFinset.filter (waits ·))
        = insert effect.caseId
            (((rest.map (·.caseId)).takeWhile (· ≠ caseId)).toFinset.filter (waits' ·)) := by
    ext id
    by_cases same : id = effect.caseId
    · simp [same, other, waiting]
    · simp [same, other, kept id same]
  unfold healsAhead
  rw [split, Finset.card_insert_of_notMem (by simp [healed]), Nat.add_comm]

end HealsAhead

namespace Handler

variable (deployment : Deployment)

/-- The loop stamps the entry of a waiting case when it comes to it, by induction over the
effects that are left.
-/
theorem exec_healAllFrom_reading (healed : Nat) {effects : List Effect} (world : World)
    (execute : ∀ effect ∈ effects, effect.toState = .retryExecuted) {caseId : String}
    {case : RecoveryCase} (stored : (world.store.view caseId).case = some case)
    (pending : case.state ≠ .retryExecuted)
    (named : ∃ effect ∈ effects, effect.caseId = caseId)
    : ∃ logged,
        logged.bare
          = effectApplied caseId
              (world.clock.reading (healsAhead world.store.waits caseId effects))
        ∧ (exec deployment (healAllFrom healed effects) world).2.store.view caseId
          = { world.store.view caseId with
              case := some { case with state := .retryExecuted }
              trail := (world.store.view caseId).trail ++ [logged] } := by
  induction effects generalizing healed world with
  | nil => simp at named
  | cons effect rest ih =>
      obtain ⟨first, later⟩ := List.forall_mem_cons.mp execute
      have remaining (other : effect.caseId ≠ caseId)
          : ∃ effect ∈ rest, effect.caseId = caseId := by
        obtain ⟨found, listed, same⟩ := named
        refine ⟨found, (List.mem_cons.mp listed).resolve_left ?_, same⟩
        rintro rfl
        exact other same
      rcases exec_healAllFrom_cons deployment healed rest world first with
        ⟨idle, skipped⟩ | ⟨healing, mid, logged, found, waiting, bare, wrote, applied⟩
      · have other : effect.caseId ≠ caseId := by
          intro same
          exact pending (idle case (same ▸ stored))
        rw [skipped, healsAhead_idle rest other (CaseStore.waits_eq_false.mpr idle)]
        exact ih healed world later stored (remaining other)
      rw [applied]
      by_cases here : effect.caseId = caseId
      · subst here
        cases stored.symm.trans found
        have after := (exec_healAllFrom deployment (healed + 1) mid later).2 effect.caseId
        rw [wrote.view_eq] at after
        refine ⟨logged, by rw [healsAhead_named rest rfl, bare], ?_⟩
        rcases after with ⟨_, _, _, moved, waiting, _⟩ | ⟨_, same⟩
        · cases moved
          exact absurd rfl waiting
        · exact same
      · have elsewhere (id : String) (other : id ≠ effect.caseId)
            : mid.store.view id = world.store.view id := by
          rw [wrote.views, Function.update_of_ne other]
        have away := elsewhere caseId (Ne.symm here)
        obtain ⟨last, stamped, view⟩ :=
          ih (healed + 1) mid later (away ▸ stored) (remaining here)
        have ahead
            : healsAhead world.store.waits caseId (effect :: rest)
              = 1 + healsAhead mid.store.waits caseId rest := by
          refine healsAhead_waits rest here ?_ ?_ fun id other => ?_
          · simp [CaseStore.waits, found, waiting]
          · simp [CaseStore.waits, wrote.view_eq]
          · simp only [CaseStore.waits, elsewhere id other]
        rw [wrote.reading, ← ahead] at stamped
        rw [away] at view
        exact ⟨last, stamped, view⟩

/-- Where no named case waits, the loop does nothing. -/
theorem exec_healAllFrom_idle (healed : Nat) {effects : List Effect} (world : World)
    (execute : ∀ effect ∈ effects, effect.toState = .retryExecuted)
    (idle
      : ∀ effect ∈ effects, ∀ case,
          (world.store.view effect.caseId).case = some case → case.state = .retryExecuted)
    : exec deployment (healAllFrom healed effects) world = (.ok healed, world) := by
  induction effects with
  | nil => rfl
  | cons effect rest ih =>
      obtain ⟨first, later⟩ := List.forall_mem_cons.mp execute
      obtain ⟨still, idle⟩ := List.forall_mem_cons.mp idle
      rcases exec_healAllFrom_cons deployment healed rest world first with
        ⟨_, skipped⟩ | ⟨case, _, _, found, waiting, _⟩
      · rw [skipped]
        exact ih later idle
      · exact absurd (still case found) waiting

end Handler

-----------------------------------------------------------------------------------------
-- What a start-up makes of the crash
-----------------------------------------------------------------------------------------

/-- What all workers share once they have been restarted: a store in memory is lost. -/
def Shared.restarted (shared : Shared) : Shared :=
  match shared.store with
  | .inMemory _ => { shared with store := .new false }
  | .postgres _ => shared

/-- The effects a start-up finds. -/
def Shared.scanned (shared : Shared) : List Effect :=
  shared.log.getPrefix EtcdQuorumBackend.commitsPrefix

/-- The start-up has left the case and its entries as the execution would have, the entry says
when the effect was committed, and a start-up more changes nothing.
-/
structure Reproduces (deployment : Deployment) (effect : Effect) (executed recovered : World)
    : Prop where
  case : (recovered.view effect.caseId).case = (executed.view effect.caseId).case
  trail : (recovered.view effect.caseId).trail = (executed.view effect.caseId).trail
  stamped
    : ∃ entry,
        (recovered.view effect.caseId).trail.getLast? = some entry
        ∧ entry.toState = .retryExecuted
        ∧ isoformat entry.timestamp = effect.at_
  again
    : ∀ worker : Worker,
        (Handler.exec deployment (reconcileAll deployment.useEtcd)
          ⟨worker, recovered.toShared⟩).2.toShared = recovered.toShared

/-- A start-up leaves nothing for the next one. -/
theorem Handler.exec_reconcileAll_again (deployment : Deployment) {world : World}
    (sound : world.toShared.Sound deployment) (worker : Worker)
    : let recovered := (exec deployment (reconcileAll deployment.useEtcd) world).2
      (exec deployment (reconcileAll deployment.useEtcd)
        ⟨worker, recovered.toShared⟩).2.toShared = recovered.toShared := by
  intro recovered
  obtain ⟨log, views⟩ := exec_reconcileAll deployment sound
  change recovered.log = world.log at log
  cases etcd : deployment.useEtcd with
  | false => rfl
  | true =>
      have execute (effect : Effect) (listed : effect ∈ recovered.toShared.scanned)
          : effect.toState = .retryExecuted ∧ (world.view effect.caseId).committed ≠ [] := by
        rw [show recovered.toShared.scanned = world.toShared.scanned by
          unfold Shared.scanned; rw [log]] at listed
        refine ⟨?_, sound.log.named_iff.mp ⟨effect, listed, rfl⟩⟩
        obtain ⟨row, stored, rfl⟩ := sound.log.mem_allCommits.mp listed
        exact (sound.log row stored).2.1
      have idle := exec_healAllFrom_idle deployment 0 (⟨worker, recovered.toShared⟩ : World)
        (fun effect listed => (execute effect listed).1) fun effect listed case stored => ?_
      · unfold reconcileAll
        simp only [if_true, exec_bind, exec_getPrefix]
        exact congrArg (fun done => done.2.toShared) idle
      change (recovered.store.view effect.caseId).case = some case at stored
      rcases views effect.caseId with ⟨_, _, _, _, _, _, _, moved⟩ | ⟨executed, same⟩
      · rw [show recovered.store.view effect.caseId = _ from moved] at stored
        cases stored
        rfl
      · rw [show recovered.store.view effect.caseId = _ from same] at stored
        exact executed case stored (execute effect listed).2

/-- An execution that would get to a fresh commit is approved. -/
theorem Handler.exec_executeRetry_approved {deployment : Deployment} {world : World}
    (sound : SoundLog world.log) {segment : PathSegment} {case : RecoveryCase}
    {decision : RetryDecision} (admitted : Admitted deployment world segment.text case decision)
    (etcd : deployment.useEtcd = true)
    (uncommitted : decision.attemptNumber ∉ (world.view segment.text).committed)
    : world.Touched (exec deployment (executeRetry deployment segment) world).2 4 segment.text
        { executedView (world.view segment.text) case (world.clock.reading 3) with
          committed := (world.view segment.text).committed ++ [decision.attemptNumber] } := by
  cases exec_executeRetry deployment world sound segment with
  | approved admitted' _ _ touched =>
      cases admitted.stored.symm.trans admitted'.stored
      cases admitted.first.symm.trans admitted'.first
      exact touched
  | healed admitted' _ committed _ =>
      cases admitted.first.symm.trans admitted'.first
      exact absurd committed uncommitted
  | escalated stored _ distressed _ =>
      cases admitted.stored.symm.trans stored
      cases admitted.calm.symm.trans distressed
  | idle turned _ _ => cases etcd.symm.trans (turned _ _ admitted)

/-- A start-up on Postgres after the crash moves the case like the execution would have, with the
entry stamped when the loop came to the case.
-/
theorem Handler.exec_reconcileAll_crashed {deployment : Deployment}
    (etcd : deployment.useEtcd = true) {start : World} (sound : SoundLog start.log)
    {caseId : String} {case : RecoveryCase} (stored : (start.view caseId).case = some case)
    (pending : case.state ≠ .retryExecuted) (committed : (start.view caseId).committed ≠ [])
    : let recovered := (exec deployment (reconcileAll deployment.useEtcd) start).2
      (recovered.view caseId).case = some { case with state := .retryExecuted }
      ∧ (recovered.view caseId).trail
        = (start.view caseId).trail
          ++ [effectApplied caseId (start.clock.reading
                (healsAhead start.store.waits caseId start.toShared.scanned))] := by
  intro recovered
  have execute (effect : Effect) (listed : effect ∈ start.toShared.scanned)
      : effect.toState = .retryExecuted := by
    obtain ⟨row, found, rfl⟩ := sound.mem_allCommits.mp listed
    exact (sound row found).2.1
  obtain ⟨logged, bare, view⟩ := exec_healAllFrom_reading deployment 0 start execute stored pending
    (sound.named_iff.mpr committed)
  have run : recovered = (exec deployment (healAllFrom 0 start.toShared.scanned) start).2 := by
    simp only [recovered, reconcileAll, if_pos etcd, exec_bind, exec_getPrefix]
    rfl
  rw [← run] at view
  simp only [World.view, view, List.map_append, List.map_cons, List.map_nil, bare, and_self]

theorem reproduces_iff_of_sound {deployment : Deployment} {world : World}
    (sound : world.toShared.Sound deployment) {segment : PathSegment} {effect : Effect}
    {crashed : World} (crash : CrashesCommitted deployment segment world effect crashed)
    (restarted : Worker)
    : Reproduces deployment effect (exec deployment (executeRetry deployment segment) world).2
          (exec deployment (reconcileAll deployment.useEtcd)
            ⟨restarted, crashed.toShared.restarted⟩).2
        ↔ world.store.isInMemory = false
          ∧ world.clock.reading 3 = world.clock.reading 2
          ∧ restarted.clock.reading
              (healsAhead world.store.waits segment.text crashed.toShared.scanned)
            = world.clock.reading 2 := by
  obtain ⟨case, decision, admitted, etcd, uncommitted, rfl, store, log, committed⟩ :=
    crash.admitted sound.log
  have touched := exec_executeRetry_approved sound.log admitted etcd uncommitted
  generalize (exec deployment (executeRetry deployment segment) world).2 = executed at touched ⊢
  have case_eq : (executed.view segment.text).case = some { case with state := .retryExecuted } :=
    congrArg CaseView.case touched.here
  have trail_eq
      : (executed.view segment.text).trail
        = (world.view segment.text).trail
          ++ [effectApplied segment.text (world.clock.reading 3)] := by
    rw [touched.here, ← CaseStore.view_caseId admitted.stored]
    rfl
  cases kind : world.store with
  | inMemory old =>
      -- the case is lost with the store
      refine iff_of_false (fun reproduces => ?_) fun ⟨persistent, _⟩ => by cases persistent
      have lost : crashed.toShared.restarted = ⟨.new false, crashed.log⟩ := by
        simp only [Shared.restarted, store, kind]
      have sound' : Shared.Sound deployment ⟨.new false, crashed.log⟩ :=
        ⟨log, fun off => by cases etcd.symm.trans off⟩
      have kept := reproduces.case
      rw [lost] at kept
      change _ = (executed.view segment.text).case at kept
      rw [case_eq] at kept
      have views := (@exec_reconcileAll deployment ⟨restarted, ⟨.new false, crashed.log⟩⟩ sound').2
        segment.text
      rcases views with ⟨_, _, _, stored, _⟩ | ⟨_, same⟩
      · cases stored
      · cases kept.symm.trans (congrArg CaseStore.View.case same)
  | postgres old =>
      have same : crashed.toShared.restarted = crashed.toShared := by
        simp only [Shared.restarted, store, kind]
      rw [same]
      let start : World := ⟨restarted, crashed.toShared⟩
      have before : start.store = world.store := store
      have stored : (start.view segment.text).case = some case := by
        simp only [World.view, before]
        exact admitted.stored
      have trail : (start.view segment.text).trail = (world.view segment.text).trail := by
        simp only [World.view, before]
      obtain ⟨moved, logged⟩ := exec_reconcileAll_crashed etcd (show SoundLog start.log from log)
        stored (by simp [admitted.scheduled]) committed
      have again := @exec_reconcileAll_again deployment start
        ⟨log, fun off => by cases etcd.symm.trans off⟩
      rw [trail, before, kind] at logged
      dsimp only [start] at logged
      generalize (exec deployment (reconcileAll deployment.useEtcd) start).2 = recovered
        at moved logged again ⊢
      constructor
      · intro reproduces
        have entries : (recovered.view segment.text).trail = (executed.view segment.text).trail :=
          reproduces.trail
        rw [logged, trail_eq] at entries
        have stamps := congrArg (·.map (·.timestamp)) (List.append_cancel_left entries)
        obtain ⟨entry, last, _, stamped⟩ := reproduces.stamped
        change (recovered.view segment.text).trail.getLast? = some entry at last
        rw [logged, List.getLast?_concat] at last
        cases last
        have healed := isoformat_injective stamped
        have stamp := List.head_eq_of_cons_eq stamps
        exact ⟨rfl, stamp.symm.trans healed, healed⟩
      · rintro ⟨_, executes, heals⟩
        exact {
          case := moved.trans case_eq.symm
          trail := by
            change (recovered.view segment.text).trail = (executed.view segment.text).trail
            rw [logged, trail_eq, heals, executes]
          stamped := by
            refine ⟨_, (congrArg List.getLast? logged).trans List.getLast?_concat, rfl, ?_⟩
            change isoformat (restarted.clock.reading _) = isoformat (world.clock.reading 2)
            rw [heals]
          again := again
        }

/-- However many workers have worked on a service, crashed and started before: the start-up after
a crash between commit and record reproduces the execution exactly if the store outlives the
crash, and both workers read the instant of the commit where they stamp the entry.
-/
theorem reconcileAll_reproduces_iff (deployment : Deployment) (usePostgres : Bool)
    (events : List Workers.Event) (worker : Worker) (segment : PathSegment) {effect : Effect}
    {crashed : World}
    (crash
      : CrashesCommitted deployment segment
          ⟨worker, ((Workers.start usePostgres).run deployment events).shared⟩ effect crashed)
    (restarted : Worker)
    : let world : World := ⟨worker, ((Workers.start usePostgres).run deployment events).shared⟩
      Reproduces deployment effect (exec deployment (executeRetry deployment segment) world).2
          (exec deployment (reconcileAll deployment.useEtcd)
            ⟨restarted, crashed.toShared.restarted⟩).2
        ↔ world.store.isInMemory = false
          ∧ world.clock.reading 3 = world.clock.reading 2
          ∧ restarted.clock.reading
              (healsAhead world.store.waits segment.text crashed.toShared.scanned)
            = world.clock.reading 2 :=
  reproduces_iff_of_sound (Workers.sound_run deployment usePostgres events).shared crash restarted

-----------------------------------------------------------------------------------------
-- A due retry
-----------------------------------------------------------------------------------------

/-- The retry in front is due and not committed, as a test. -/
def commitDue (world : World) (caseId : String) : Bool :=
  (world.view caseId).case.any fun case =>
    (world.view caseId).pending.head?.any fun decision =>
      case.state = .retryScheduled
      ∧ world.distress.isDistressed case.instrumentId (world.clock.reading 0) = false
      ∧ decision.scheduledAt ≤ world.clock.reading 1
      ∧ decision.attemptNumber ∉ (world.view caseId).committed

/-- A worker that finds one can crash after its commit. -/
theorem exists_crash {deployment : Deployment} (demo : deployment.config.profileName = .demo)
    (etcd : deployment.useEtcd = true) {world : World} (sound : SoundLog world.log)
    {segment : PathSegment} (due : commitDue world segment.text = true)
    : ∃ effect crashed, CrashesCommitted deployment segment world effect crashed := by
  unfold commitDue at due
  obtain ⟨case, stored, due⟩ := (Option.any_eq_true _ _).mp due
  obtain ⟨decision, first, due⟩ := (Option.any_eq_true _ _).mp due
  obtain ⟨scheduled, calm, due, uncommitted⟩ := of_decide_eq_true due
  have stops := @executeRetry_stops deployment world segment case decision
    ⟨demo, stored, scheduled, calm, first, due⟩
  rcases @SoundLog.transaction _ sound
    (retryEffect segment.text decision (world.clock.reading 2)) rfl segment.noSlash with
    ⟨taken, _⟩ | ⟨_, log, approved, _⟩
  · exact absurd taken uncommitted
  refine ⟨_, (world.tick 3).withLog log, _, _, _, stops, ?_⟩
  change (world.tick 3).commitEffect deployment _ _ _ = _
  simp only [retryEffect] at approved
  simp only [World.commitEffect, etcd, if_true, World.tick_log, retryEffect, approved]

/-- A decline and its notice, on Postgres. -/
def noticed : List Workers.Event :=
  servedAlone 0 0 (timeout "pay_2")
    ++ servedAlone 1 0 (.sendNotice ⟨"pay_2", firstPayment_noSlash⟩ ⟨false, 0⟩)

/-- A worker that has just started, so long after the first. -/
def startedAfter (later : Timedelta) : Worker :=
  ⟨{ demoClock with offset := later }, .new, []⟩

/-- Four days later a worker executes the retry and crashes. -/
theorem exists_crash_noticed
    : ∃ effect crashed,
        CrashesCommitted demoDeployment ⟨"pay_2", by decide⟩
          ⟨startedAfter (hours 96), ((Workers.start true).run demoDeployment noticed).shared⟩
          effect crashed := by
  have due
      : commitDue
          ⟨startedAfter (hours 96), ((Workers.start true).run demoDeployment noticed).shared⟩
          "pay_2" = true := by
    decide +kernel
  have sound := (Workers.sound_run demoDeployment true noticed).shared.log
  generalize ((Workers.start true).run demoDeployment noticed).shared = shared at due sound ⊢
  exact @exists_crash demoDeployment rfl rfl ⟨startedAfter (hours 96), shared⟩ sound
    ⟨"pay_2", by decide⟩ due

/-- What the start-up an hour later makes of it depends on the clocks. -/
theorem reconcileAll_reproduces_iff_noticed
    : ∃ (effect : Effect) (crashed : World),
        let world : World :=
          ⟨startedAfter (hours 96), ((Workers.start true).run demoDeployment noticed).shared⟩
        let restarted := startedAfter (hours 97)
        Reproduces demoDeployment effect
            (exec demoDeployment (executeRetry demoDeployment ⟨"pay_2", by decide⟩) world).2
            (exec demoDeployment (reconcileAll demoDeployment.useEtcd)
              ⟨restarted, crashed.toShared.restarted⟩).2
          ↔ world.store.isInMemory = false
            ∧ world.clock.reading 3 = world.clock.reading 2
            ∧ restarted.clock.reading
                (healsAhead world.store.waits "pay_2" crashed.toShared.scanned)
              = world.clock.reading 2 := by
  obtain ⟨effect, crashed, crash⟩ := exists_crash_noticed
  exact ⟨effect, crashed,
    reconcileAll_reproduces_iff demoDeployment true noticed (startedAfter (hours 96))
      ⟨"pay_2", by decide⟩ crash (startedAfter (hours 97))⟩

/-- A start-up does not always reproduce an execution that was cut short. Witness: a retry whose
worker crashes, and a start-up an hour later, which stamps the entry with its own instant.
-/
theorem reconcileAll_not_reproduces
    : ¬ ∀ (deployment : Deployment) (usePostgres : Bool) (events : List Workers.Event)
        (worker : Worker) (segment : PathSegment) (effect : Effect) (crashed : World)
        (restarted : Worker),
        CrashesCommitted deployment segment
          ⟨worker, ((Workers.start usePostgres).run deployment events).shared⟩ effect crashed
        → Reproduces deployment effect
            (exec deployment (executeRetry deployment segment)
              ⟨worker, ((Workers.start usePostgres).run deployment events).shared⟩).2
            (exec deployment (reconcileAll deployment.useEtcd)
              ⟨restarted, crashed.toShared.restarted⟩).2 := by
  intro claimed
  obtain ⟨effect, crashed, crash⟩ := exists_crash_noticed
  have reproduces := claimed demoDeployment true noticed (startedAfter (hours 96))
    ⟨"pay_2", by decide⟩ effect crashed (startedAfter (hours 97)) crash
  have sound := (Workers.sound_run demoDeployment true noticed).shared
  generalize ((Workers.start true).run demoDeployment noticed).shared = shared
    at crash reproduces sound
  have instants
      : (startedAfter (hours 96)).clock.reading 3 = (startedAfter (hours 96)).clock.reading 2 :=
    ((reproduces_iff_of_sound sound crash _).mp reproduces).2.1
  exact absurd instants (by decide)

end RecoveryAgent
