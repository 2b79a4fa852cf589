import RecoveryAgent.Core.Models
import RecoveryAgent.Lib.Table
import Mathlib.Data.List.Sort
import Std.Data.String.ToNat

/-! The commit backends (`app/core/commit_backend.py`, and the in-memory one of `main.py`).
Each is a state machine with two calls. One contract, first commit of a key wins, is stated
over whole histories of calls, and each backend is compared with it.
-/

namespace RecoveryAgent

-----------------------------------------------------------------------------------------
-- The etcd store
-----------------------------------------------------------------------------------------

structure EtcdRow (ν : Type) where
  key : String
  value : ν

/-- The key-value pairs of the cluster, as its atomic transactions leave them. -/
abbrev EtcdStore (ν : Type) := Table (@EtcdRow.key ν)

namespace EtcdStore

variable {ν : Type}

/-- `transaction(compare=[version(key) == 0], success=[put(key, value)], failure=[])`. -/
def transaction (store : EtcdStore ν) (key : String) (value : ν) : Bool × EtcdStore ν :=
  match store.insert? ⟨key, value⟩ with
  | some store => (true, store)
  | none => (false, store)

/-- `get_prefix`: the values under a prefix, in the order of their keys. -/
def getPrefix (store : EtcdStore ν) (start : String) : List ν :=
  ((store.rows.filter (fun row => start.toList.isPrefixOf row.key.toList)).insertionSort
    (fun left right => left.key ≤ right.key)).map (·.value)

theorem mem_getPrefix {store : EtcdStore ν} {start : String} {value : ν}
    : value ∈ store.getPrefix start
      ↔ ∃ row ∈ store.rows, start.toList <+: row.key.toList ∧ row.value = value := by
  simp [getPrefix, List.mem_insertionSort, and_assoc]

/-- A transaction succeeds exactly on a key that is not there yet. -/
theorem transaction_fst (store : EtcdStore ν) (key : String) (value : ν)
    : (store.transaction key value).1 = (store.find? key).isNone := by
  unfold transaction
  cases inserted : store.insert? ⟨key, value⟩ with
  | some store' => simp [(Table.insert?_some inserted).1]
  | none =>
      obtain ⟨old, found⟩ := Table.insert?_eq_none_iff.mp inserted
      simp [found]

/-- After a transaction the key is there, and every other key is as it was. -/
theorem find?_transaction (store : EtcdStore ν) (key : String) (value : ν) (k : String)
    : ((store.transaction key value).2.find? k).isSome
      = (decide (k = key) || (store.find? k).isSome) := by
  unfold transaction
  cases inserted : store.insert? ⟨key, value⟩ with
  | some store' =>
      dsimp only
      rw [Table.find?_insert inserted]
      split <;> simp_all
  | none =>
      obtain ⟨old, found⟩ := Table.insert?_eq_none_iff.mp inserted
      dsimp only at found ⊢
      by_cases same : k = key <;> simp [same, found]

end EtcdStore

-----------------------------------------------------------------------------------------
-- Calls and backends
-----------------------------------------------------------------------------------------

/-- One call of either entry point. An effect is a dictionary, used through `json.dumps`. -/
inductive CommitCall (ε : Type) where
  | commit (action : RetryDecision)
  | commitEffect (caseId : String) (attempt : Nat) (effect : ε)

/-- The (case_id, attempt) pair a call is about. -/
def CommitCall.key {ε : Type} : CommitCall ε → String × Nat
  | .commit action => (action.caseId, action.attemptNumber)
  | .commitEffect caseId attempt _ => (caseId, attempt)

/-- A backend over the state of the store behind it. -/
structure CommitBackend (ε σ : Type) where
  initial : σ
  commit : RetryDecision → σ → Except PyError Bool × σ
  commitEffect : String → Nat → ε → σ → Except PyError Bool × σ

section Backends

variable {ε : Type} (dumps : ε → String)

namespace EtcdQuorumBackend

/-- The directory all commits are kept under. -/
def commitsPrefix : String := "/recovery/commits/"

/-- `_key_for`, the key of one attempt of one case. -/
def keyFor (caseId : String) (attempt : Nat) : String :=
  commitsPrefix ++ caseId ++ "/" ++ toString attempt

theorem keyFor_toList (caseId : String) (attempt : Nat)
    : (keyFor caseId attempt).toList
      = commitsPrefix.toList ++ (caseId.toList ++ '/' :: Nat.toDigits 10 attempt) := by
  unfold keyFor
  rw [String.toList_append, String.toList_append, String.toList_append, List.append_assoc,
    List.append_assoc]
  congr 2
  simp

def commit (action : RetryDecision) (store : EtcdStore String)
    : Except PyError Bool × EtcdStore String :=
  let (success, store) := store.transaction
    (keyFor action.caseId action.attemptNumber) action.commitRef
  (.ok success, store)

def commitEffect (caseId : String) (attempt : Nat) (effect : ε) (store : EtcdStore String)
    : Except PyError Bool × EtcdStore String :=
  let (success, store) := store.transaction (keyFor caseId attempt) (dumps effect)
  (.ok success, store)

/-- `EtcdQuorumBackend` over an empty cluster. -/
def backend : CommitBackend ε (EtcdStore String) where
  initial := .empty
  commit := commit
  commitEffect := commitEffect dumps

end EtcdQuorumBackend

namespace PostgresOutboxBackend

/-- A row of `commit_outbox`; `committed_at` is never read. -/
structure OutboxRow where
  caseId : String
  attemptNumber : Nat
  commitRef : String

/-- The primary key of the table. -/
def OutboxRow.key (row : OutboxRow) : String × Nat := (row.caseId, row.attemptNumber)

/-- The column types admit the row: INTEGER is 32 bits wide, TEXT holds no NUL character. -/
def OutboxRow.Fits (row : OutboxRow) : Prop :=
  row.attemptNumber ≤ 2147483647 ∧ '\x00' ∉ row.caseId.toList ∧ '\x00' ∉ row.commitRef.toList

instance (row : OutboxRow) : Decidable row.Fits := inferInstanceAs (Decidable (_ ∧ _))

/-- The row a `commit` inserts. -/
def rowOf (action : RetryDecision) : OutboxRow :=
  ⟨action.caseId, action.attemptNumber, action.commitRef⟩

/-- `commit`: a unique violation is the answer False, every other failure is raised. -/
def commit (action : RetryDecision) (outbox : Table OutboxRow.key)
    : Except PyError Bool × Table OutboxRow.key :=
  if (rowOf action).Fits then
    match outbox.insert? (rowOf action) with
    | some outbox => (.ok true, outbox)
    | none => (.ok false, outbox)
  else (.error .dataError, outbox)

/-- `commit_effect`: the module never imports `datetime`, which the action is built with. -/
def commitEffect (_caseId : String) (_attempt : Nat) (_effect : ε)
    (outbox : Table OutboxRow.key)
    : Except PyError Bool × Table OutboxRow.key :=
  (.error (.nameError "name 'datetime' is not defined"), outbox)

/-- `PostgresOutboxBackend` over an empty outbox. -/
def backend : CommitBackend ε (Table OutboxRow.key) where
  initial := .empty
  commit := commit
  commitEffect := commitEffect

end PostgresOutboxBackend

namespace InMemoryCommitBackend

def commit (action : RetryDecision) (committed : List (String × Nat))
    : Except PyError Bool × List (String × Nat) :=
  let key := (action.caseId, action.attemptNumber)
  if key ∈ committed then (.ok false, committed) else (.ok true, key :: committed)

/-- `commit_effect`: the action it builds has an empty reasoning. `now` is what the wall
clock reads.
-/
def commitEffect (now : Datetime) (caseId : String) (attempt : Nat) (effect : ε)
    (committed : List (String × Nat))
    : Except PyError Bool × List (String × Nat) :=
  match RetryDecision.create caseId attempt now "" .postgresOutbox (dumps effect) with
  | .error raised => (.error raised, committed)
  | .ok action => commit action committed

/-- `InMemoryCommitBackend`, fresh. -/
def backend (now : Datetime) : CommitBackend ε (List (String × Nat)) where
  initial := []
  commit := commit
  commitEffect := commitEffect dumps now

end InMemoryCommitBackend

end Backends

namespace CommitBackend

variable {ε σ : Type} (backend : CommitBackend ε σ)

/-- The answer to one call. -/
def answer (state : σ) : CommitCall ε → Except PyError Bool × σ
  | .commit action => backend.commit action state
  | .commitEffect caseId attempt effect => backend.commitEffect caseId attempt effect state

/-- The answers to a history of calls; a call that raises does not end the history. -/
def answers (state : σ) : List (CommitCall ε) → List (Except PyError Bool)
  | [] => []
  | call :: rest =>
      (backend.answer state call).1 :: answers (backend.answer state call).2 rest

/-- The keys that have won once a call for the key has been answered. -/
def recordWin (won : List (String × Nat)) (key : String × Nat) : List (String × Nat) :=
  if key ∈ won then won else key :: won

theorem mem_recordWin {won : List (String × Nat)} {key k : String × Nat}
    : k ∈ recordWin won key ↔ k = key ∨ k ∈ won := by
  unfold recordWin
  split <;> simp_all

/-- What the calls should be answered, given the keys that have won already. -/
def firstWins (won : List (String × Nat)) : List (CommitCall ε) → List Bool
  | [] => []
  | call :: rest => decide (call.key ∉ won) :: firstWins (recordWin won call.key) rest

/-- Every call returns, and True exactly for the first of its key. -/
def Contract (calls : List (CommitCall ε)) : Prop :=
  backend.answers backend.initial calls = (firstWins [] calls).map .ok

/-- A backend whose state tracks the winning keys on the calls it supports, and which
raises on every other call, meets the contract on the histories of supported calls only.
Witness: induction over the calls with the state tracked.
-/
theorem contract_iff (tracks : σ → List (String × Nat) → Prop)
    (supports : CommitCall ε → Prop) (start : tracks backend.initial [])
    (supported
      : ∀ {state won call},
          tracks state won
          → supports call
          → (backend.answer state call).1 = .ok (decide (call.key ∉ won))
            ∧ tracks (backend.answer state call).2 (recordWin won call.key))
    (raises
      : ∀ {state call}, ¬ supports call → ∃ raised, (backend.answer state call).1 = .error raised)
    (calls : List (CommitCall ε))
    : backend.Contract calls ↔ ∀ call ∈ calls, supports call := by
  unfold Contract
  generalize backend.initial = state at *
  generalize ([] : List (String × Nat)) = won at *
  induction calls generalizing state won with
  | nil => simp [answers, firstWins]
  | cons call rest ih =>
      rw [List.forall_mem_cons, answers, firstWins]
      by_cases plain : supports call
      · obtain ⟨answered, tracked⟩ := supported start plain
        simp [answered, plain, ih _ _ tracked]
      · obtain ⟨raised, failed⟩ := @raises state call plain
        rw [failed]
        simp [plain]

end CommitBackend

namespace EtcdQuorumBackend

/-- Two splits of a list at its last occurrence of an element are the same split. -/
theorem append_cons_inj_of_last {α : Type} {l l' r r' : List α} {a : α} (last : a ∉ r)
    (last' : a ∉ r')
    : l ++ a :: r = l' ++ a :: r' ↔ l = l' ∧ r = r' := by
  constructor
  · intro same
    rcases List.append_eq_append_iff.mp same with ⟨mid, rfl, split⟩ | ⟨mid, rfl, split⟩ <;>
    · cases mid <;> simp_all
  · rintro ⟨rfl, rfl⟩
    rfl

/-- Two splits of a list at its first occurrence of an element have the same front. -/
theorem append_cons_inj_of_first {α : Type} {l l' r r' : List α} {a : α} (first : a ∉ l)
    (first' : a ∉ l') (same : l ++ a :: r = l' ++ a :: r')
    : l = l' := by
  rcases List.append_eq_append_iff.mp same with ⟨mid, rfl, split⟩ | ⟨mid, rfl, split⟩ <;>
  · cases mid <;> simp_all

/-- The key reads back: the digits after its last slash are the attempt. -/
theorem keyFor_inj {caseId caseId' : String} {attempt attempt' : Nat}
    : keyFor caseId attempt = keyFor caseId' attempt'
      ↔ caseId = caseId' ∧ attempt = attempt' := by
  refine ⟨fun same => ?_, fun ⟨same, same'⟩ => by rw [same, same']⟩
  have noSlash (n : Nat) : '/' ∉ Nat.toDigits 10 n := by
    intro member
    have digit : '/'.isDigit = true :=
      Nat.isDigit_of_mem_toDigits (by decide) (by decide) member
    exact absurd digit (by decide)
  have lists := congrArg String.toList same
  rw [keyFor_toList, keyFor_toList] at lists
  obtain ⟨ids, digits⟩ := (append_cons_inj_of_last (noSlash attempt) (noSlash attempt')).mp
    (List.append_cancel_left lists)
  refine ⟨String.toList_inj.mp ids, Nat.repr_inj.mp (String.toList_inj.mp ?_)⟩
  simpa only [Nat.toList_repr] using digits

/-- The prefix of a case, as `reconcile_case` scans it, matches the keys of that case only:
where neither id has a slash, the prefix ends where the case id of the key does.
-/
theorem scan_isPrefix_iff {caseId caseId' : String} (segment : '/' ∉ caseId.toList)
    (segment' : '/' ∉ caseId'.toList) (attempt : Nat)
    : (commitsPrefix ++ caseId ++ "/").toList <+: (keyFor caseId' attempt).toList
      ↔ caseId = caseId' := by
  have front : (commitsPrefix ++ caseId ++ "/").toList
      = commitsPrefix.toList ++ (caseId.toList ++ ['/']) := by
    rw [String.toList_append, String.toList_append, List.append_assoc]
    rfl
  rw [front, keyFor_toList, List.prefix_append_right_inj]
  constructor
  · rintro ⟨rest, scanned⟩
    have parts : caseId.toList ++ '/' :: rest
        = caseId'.toList ++ '/' :: Nat.toDigits 10 attempt := by
      simpa using scanned
    exact String.toList_inj.mp (append_cons_inj_of_first segment segment' parts)
  · rintro rfl
    exact ⟨Nat.toDigits 10 attempt, by simp⟩

/-- The log holds exactly the keys that have won. -/
def Tracks (store : EtcdStore String) (won : List (String × Nat)) : Prop :=
  ∀ caseId attempt,
    (store.find? (keyFor caseId attempt)).isSome = decide ((caseId, attempt) ∈ won)

/-- The transaction on a key of the log answers first-wins and keeps the log tracked. -/
theorem Tracks.transaction {store : EtcdStore String} {won : List (String × Nat)}
    (tracked : Tracks store won) (caseId : String) (attempt : Nat) (value : String)
    : (store.transaction (keyFor caseId attempt) value).1 = decide ((caseId, attempt) ∉ won)
      ∧ Tracks (store.transaction (keyFor caseId attempt) value).2
          (CommitBackend.recordWin won (caseId, attempt)) := by
  constructor
  · rw [EtcdStore.transaction_fst, ← Option.not_isSome, tracked]
    simp
  · intro caseId' attempt'
    rw [EtcdStore.find?_transaction, tracked]
    simp [keyFor_inj, CommitBackend.mem_recordWin]

end EtcdQuorumBackend

section Contracts

variable {ε : Type} (dumps : ε → String)

/-- The etcd backend meets the contract on every history of calls. -/
theorem EtcdQuorumBackend.contract (calls : List (CommitCall ε))
    : (EtcdQuorumBackend.backend dumps).Contract calls := by
  refine ((backend dumps).contract_iff Tracks (fun _ => True) ?_ ?_ ?_ calls).mpr ?_
  · intro caseId attempt
    rfl
  · intro store won call tracked _
    cases call with
    | commit action =>
        obtain ⟨answered, kept⟩
          := tracked.transaction action.caseId action.attemptNumber action.commitRef
        exact ⟨congrArg _ answered, kept⟩
    | commitEffect caseId attempt effect =>
        obtain ⟨answered, kept⟩ := tracked.transaction caseId attempt (dumps effect)
        exact ⟨congrArg _ answered, kept⟩
  · exact fun unsupported => absurd trivial unsupported
  · exact fun _ _ => trivial

/-- A `commit` whose row fits the outbox table; no `commit_effect` does. -/
def PostgresOutboxBackend.Supports : CommitCall ε → Prop
  | .commit action => (rowOf action).Fits
  | .commitEffect .. => False

/-- The outbox holds exactly the keys that have won. -/
def PostgresOutboxBackend.Tracks (outbox : Table OutboxRow.key) (won : List (String × Nat))
    : Prop :=
  ∀ key, (outbox.find? key).isSome = decide (key ∈ won)

/-- A commit whose row fits is answered by the primary key. -/
theorem PostgresOutboxBackend.Tracks.commit {outbox : Table OutboxRow.key}
    {won : List (String × Nat)} (tracked : Tracks outbox won) {action : RetryDecision}
    (fits : (rowOf action).Fits)
    : (PostgresOutboxBackend.commit action outbox).1 = .ok (decide ((rowOf action).key ∉ won))
      ∧ Tracks (PostgresOutboxBackend.commit action outbox).2
          (CommitBackend.recordWin won (rowOf action).key) := by
  have known := tracked (rowOf action).key
  unfold PostgresOutboxBackend.commit
  rw [if_pos fits]
  cases inserted : outbox.insert? (rowOf action) with
  | some outbox' =>
      rw [(Table.insert?_some inserted).1] at known
      refine ⟨by simpa using known, fun key => ?_⟩
      rw [Table.find?_insert inserted]
      by_cases same : key = (rowOf action).key
      · simp [same, CommitBackend.mem_recordWin]
      · simp [same, CommitBackend.mem_recordWin, tracked key]
  | none =>
      obtain ⟨old, found⟩ := Table.insert?_eq_none_iff.mp inserted
      rw [found] at known
      have present : (rowOf action).key ∈ won := by simpa using known.symm
      refine ⟨by simp [present], fun key => ?_⟩
      rw [tracked key]
      simp only [CommitBackend.mem_recordWin, decide_eq_decide]
      exact ⟨.inr, fun either => either.elim (fun same => same ▸ present) id⟩

/-- The outbox backend meets the contract exactly on `commit` calls whose rows fit. -/
theorem PostgresOutboxBackend.contract_iff (calls : List (CommitCall ε))
    : (@PostgresOutboxBackend.backend ε).Contract calls ↔ ∀ call ∈ calls, Supports call := by
  refine CommitBackend.contract_iff _ Tracks Supports (fun _ => rfl) ?_ ?_ calls
  · intro outbox won call tracked supported
    cases call with
    | commit action => exact Tracks.commit tracked supported
    | commitEffect caseId attempt effect => cases supported
  · intro outbox call unsupported
    cases call with
    | commitEffect caseId attempt effect => exact ⟨_, rfl⟩
    | commit action =>
        have wide : ¬ (rowOf action).Fits := unsupported
        exact ⟨.dataError, by simp [CommitBackend.answer, backend, commit, wide]⟩

/-- A `commit` call. -/
def InMemoryCommitBackend.Supports : CommitCall ε → Prop
  | .commit _ => True
  | .commitEffect .. => False

/-- No decision has an empty reasoning. -/
theorem RetryDecision.create_unreasoned (caseId : String) (attempt : Nat)
    (scheduledAt : Datetime) (backend : CommitBackendName) (commitRef : String)
    : ∃ raised,
        RetryDecision.create caseId attempt scheduledAt "" backend commitRef = .error raised := by
  unfold RetryDecision.create
  split
  · exact ⟨_, rfl⟩
  · exact ⟨_, by rw [dif_pos rfl]⟩

/-- The in-memory backend meets the contract exactly on `commit` calls. -/
theorem InMemoryCommitBackend.contract_iff (now : Datetime) (calls : List (CommitCall ε))
    : (InMemoryCommitBackend.backend dumps now).Contract calls
      ↔ ∀ call ∈ calls, Supports call := by
  refine CommitBackend.contract_iff _
    (fun (committed : List (String × Nat)) won => committed = won) Supports rfl ?_ ?_ calls
  · rintro committed won call rfl supported
    cases call with
    | commitEffect caseId attempt effect => cases supported
    | commit action =>
        simp only [CommitBackend.answer, backend, commit, CommitCall.key, CommitBackend.recordWin]
        split
        · next won => exact ⟨by simp [won], (if_pos won).symm⟩
        · next fresh => exact ⟨by simp [fresh], (if_neg fresh).symm⟩
  · intro committed call unsupported
    cases call with
    | commit action => exact absurd trivial unsupported
    | commitEffect caseId attempt effect =>
        obtain ⟨raised, failed⟩
          := RetryDecision.create_unreasoned caseId attempt now .postgresOutbox (dumps effect)
        exact ⟨raised, by simp only [CommitBackend.answer, backend, commitEffect, failed]⟩

/-- Where the three backends keep the first-wins contract: etcd on every history of calls,
the in-memory one while only `commit` is called, and the outbox while, besides, every
row fits its table.
-/
theorem commitBackends_firstWins_iff (now : Datetime) (calls : List (CommitCall ε))
    : (EtcdQuorumBackend.backend dumps).Contract calls
      ∧ ((InMemoryCommitBackend.backend dumps now).Contract calls
        ↔ ∀ call ∈ calls, InMemoryCommitBackend.Supports call)
      ∧ ((@PostgresOutboxBackend.backend ε).Contract calls
        ↔ ∀ call ∈ calls, PostgresOutboxBackend.Supports call) :=
  ⟨EtcdQuorumBackend.contract dumps calls, InMemoryCommitBackend.contract_iff dumps now calls,
    PostgresOutboxBackend.contract_iff calls⟩

/-- A single committed effect is enough for the in-memory backend and the outbox to raise. -/
theorem commitBackends_not_firstWins
    : ¬ ∀ (ε : Type) (dumps : ε → String) (now : Datetime) (calls : List (CommitCall ε)),
        (∀ call ∈ calls, call.key.1 ≠ "" ∧ 1 ≤ call.key.2)
        → (EtcdQuorumBackend.backend dumps).Contract calls
          ∧ (InMemoryCommitBackend.backend dumps now).Contract calls
          ∧ (@PostgresOutboxBackend.backend ε).Contract calls := by
  intro claimed
  obtain ⟨_, inMemory, outbox⟩
    := claimed String id 0 [.commitEffect "pay_1" 1 "effect"] (by decide)
  exact (InMemoryCommitBackend.contract_iff id 0 _).mp inMemory _ (List.mem_singleton.mpr rfl)

end Contracts

end RecoveryAgent
