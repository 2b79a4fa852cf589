import RecoveryAgent.Service.Reconciliation

/-! No case sees the commits of another: not in the keys of the commit log, not in the scan of a
reconciliation, and not in what a worker is answered or heals.
-/

namespace RecoveryAgent

open Handler EtcdQuorumBackend

/-- Both entry points transact on the key of the pair the call is about: it decides the answer,
and it is the only key that may be new afterwards.
-/
theorem EtcdQuorumBackend.answer_key {ε : Type} (dumps : ε → String) (call : CommitCall ε)
    (store : EtcdStore String)
    : let key := keyFor call.key.1 call.key.2
      let answered := (backend dumps).answer store call
      answered.1 = .ok (store.find? key).isNone
        ∧ ∀ other,
            (answered.2.find? other).isSome
            = (decide (other = key) || (store.find? other).isSome) := by
  cases call with
  | commit action =>
      exact ⟨congrArg _ (EtcdStore.transaction_fst ..), EtcdStore.find?_transaction store _ _⟩
  | commitEffect caseId attempt effect =>
      exact ⟨congrArg _ (EtcdStore.transaction_fst ..), EtcdStore.find?_transaction store _ _⟩

/-- Each case has the commit log to itself, whichever worker asks. -/
structure IsolatesCases (deployment : Deployment) (shared : Shared) : Prop where
  /-- The scan of a case matches the keys of the attempts committed for it, -/
  scanned
    : ∀ (segment : PathSegment) key,
        (∃ row ∈ shared.log.rows,
          row.key = key ∧ (commitsPrefix ++ segment.text ++ "/").toList <+: key.toList)
        ↔ ∃ attempt ∈ committedAttempts shared.log segment.text, key = keyFor segment.text attempt
  /-- and replays their effects only. -/
  replayed
    : ∀ (segment : PathSegment),
        ∀ effect ∈ shared.log.getPrefix (commitsPrefix ++ segment.text ++ "/"),
          effect.caseId = segment.text
  /-- A commit is refused exactly if its own attempt is committed. -/
  refused
    : deployment.useEtcd = true
      → ∀ worker caseId attempt effect,
          (World.commitEffect deployment caseId attempt effect ⟨worker, shared⟩).1 = .ok false
          ↔ attempt ∈ committedAttempts shared.log caseId
  /-- Without a commit of its own a case is healed by neither reconciliation. -/
  unhealed
    : ∀ worker (segment : PathSegment),
        committedAttempts shared.log segment.text = []
        → (exec deployment (reconcileCase deployment.useEtcd segment.text)
              ⟨worker, shared⟩).2 = ⟨worker, shared⟩
          ∧ (exec deployment (reconcileAll deployment.useEtcd)
              ⟨worker, shared⟩).2.store.view segment.text = shared.store.view segment.text

section Isolation

variable {log : EtcdStore Effect} (sound : SoundLog log)

include sound

/-- An attempt is committed exactly if a row is kept under its key. -/
theorem SoundLog.committed_iff_row {caseId : String} {attempt : Nat}
    : attempt ∈ committedAttempts log caseId
      ↔ ∃ row ∈ log.rows, row.key = keyFor caseId attempt := by
  constructor
  · intro committed
    obtain ⟨row, listed, rfl⟩ := List.mem_map.mp committed
    obtain ⟨stored, same⟩ := List.mem_filter.mp listed
    exact ⟨row, stored, by rw [(sound row stored).1, of_decide_eq_true same]⟩
  · rintro ⟨row, stored, key⟩
    rw [(sound row stored).1, keyFor_inj] at key
    exact List.mem_map.mpr ⟨row, List.mem_filter.mpr ⟨stored, by simpa using key.1⟩, key.2⟩

/-- The keys under the prefix of a case are those of its committed attempts. -/
theorem SoundLog.scanned {caseId : String} (segment : '/' ∉ caseId.toList) (key : String)
    : (∃ row ∈ log.rows, row.key = key ∧ (commitsPrefix ++ caseId ++ "/").toList <+: key.toList)
      ↔ ∃ attempt ∈ committedAttempts log caseId, key = keyFor caseId attempt := by
  constructor
  · rintro ⟨row, stored, rfl, scanned⟩
    obtain ⟨key, _, segment'⟩ := sound row stored
    rw [key, scan_isPrefix_iff segment segment'] at scanned
    refine ⟨row.value.attempt, sound.committed_iff_row.mpr ⟨row, stored, ?_⟩, ?_⟩ <;>
      rw [key, scanned]
  · rintro ⟨attempt, committed, rfl⟩
    obtain ⟨row, stored, key⟩ := sound.committed_iff_row.mp committed
    exact ⟨row, stored, key, (scan_isPrefix_iff segment segment attempt).mpr rfl⟩

/-- With no attempt committed the scan finds nothing. -/
theorem SoundLog.scanned_nil {caseId : String} (segment : '/' ∉ caseId.toList)
    (uncommitted : committedAttempts log caseId = [])
    : log.getPrefix (commitsPrefix ++ caseId ++ "/") = [] := by
  refine List.eq_nil_iff_forall_not_mem.mpr fun effect found => ?_
  obtain ⟨named, row, stored, rfl⟩ := (sound.mem_getPrefix segment).mp found
  have committed : row.value.attempt ∈ committedAttempts log caseId :=
    List.mem_map.mpr ⟨row, List.mem_filter.mpr ⟨stored, by simpa using named⟩, rfl⟩
  simp [uncommitted] at committed

/-- A transaction on the key of an attempt fails exactly if the attempt is committed. -/
theorem SoundLog.refused_iff (caseId : String) (attempt : Nat) (effect : Effect)
    : (log.transaction (keyFor caseId attempt) effect).1 = false
      ↔ attempt ∈ committedAttempts log caseId := by
  rw [EtcdStore.transaction_fst, sound.mem_committed]
  cases log.find? (keyFor caseId attempt) <;> simp

end Isolation

/-- A sound log isolates its cases. -/
theorem Shared.Sound.isolatesCases {deployment : Deployment} {shared : Shared}
    (sound : shared.Sound deployment)
    : IsolatesCases deployment shared where
  scanned segment := sound.log.scanned segment.noSlash
  replayed segment _ found := ((sound.log.mem_getPrefix segment.noSlash).mp found).1
  refused etcd worker caseId attempt effect := by
    rw [← sound.log.refused_iff caseId attempt effect]
    simp only [World.commitEffect, if_pos etcd, Except.ok.injEq]
  unhealed worker segment uncommitted := by
    constructor
    · unfold reconcileCase
      split
      · rw [exec_swallow, exec_bind, exec_getPrefix]
        dsimp only
        rw [sound.log.scanned_nil segment.noSlash uncommitted]
        rfl
      · rfl
    · have start : World.toShared ⟨worker, shared⟩ = shared := rfl
      obtain ⟨_, views⟩ := @exec_reconcileAll deployment ⟨worker, shared⟩ (start ▸ sound)
      rcases views segment.text with ⟨_, _, _, _, _, committed, _⟩ | ⟨_, same⟩
      · exact absurd uncommitted committed
      · exact same

/-- Commit keys isolate cases: distinct attempts have distinct keys, both entry points of the
etcd backend use them, the prefix of a case id without a slash is one of its own keys only, and
in every state the workers reach each case has the log to itself.
-/
theorem commitKeys_isolate
    : (∀ attempt attempt' : String × Nat,
        keyFor attempt.1 attempt.2 = keyFor attempt'.1 attempt'.2 ↔ attempt = attempt')
      ∧ (∀ (ε : Type) (dumps : ε → String) (call : CommitCall ε) (store : EtcdStore String),
          let key := keyFor call.key.1 call.key.2
          let answered := (backend dumps).answer store call
          answered.1 = .ok (store.find? key).isNone
            ∧ ∀ other,
                (answered.2.find? other).isSome
                = (decide (other = key) || (store.find? other).isSome))
      ∧ (∀ (segment segment' : PathSegment) (attempt : Nat),
          (commitsPrefix ++ segment.text ++ "/").toList <+: (keyFor segment'.text attempt).toList
          ↔ segment.text = segment'.text)
      ∧ ∀ deployment usePostgres events,
          IsolatesCases deployment ((Workers.start usePostgres).run deployment events).shared := by
  refine ⟨fun attempt attempt' => keyFor_inj.trans Prod.ext_iff.symm, ?_, ?_, ?_⟩
  · exact fun _ dumps call store => answer_key dumps call store
  · exact fun segment segment' attempt =>
      scan_isPrefix_iff segment.noSlash segment'.noSlash attempt
  · exact fun deployment usePostgres events =>
      (Workers.sound_run deployment usePostgres events).shared.isolatesCases

end RecoveryAgent
