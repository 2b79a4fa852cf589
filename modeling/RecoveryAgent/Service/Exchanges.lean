import RecoveryAgent.Service.Records
import RecoveryAgent.Service.Runs

/-! What one worker among others does for a case, call by call.
A call is judged by what it finds in the tables and the commit log and by what it leaves there: the
attempts it commits, the moves into RETRY_EXECUTED and the entries about them.
-/

namespace RecoveryAgent

open StateMachine Handler
open StateMachine.Tracked (executions executions_append)

-----------------------------------------------------------------------------------------
-- Exchanges
-----------------------------------------------------------------------------------------

/-- The case is stored in RETRY_EXECUTED. -/
def Shared.Executed (caseId : String) (shared : Shared) : Prop :=
  (shared.store.view caseId).case.map (·.state) = some .retryExecuted

/-- The case is stored in another state than RETRY_EXECUTED. -/
def Shared.Unexecuted (caseId : String) (shared : Shared) : Prop :=
  ∃ row, (shared.store.view caseId).case = some row ∧ row.state ≠ .retryExecuted

instance (caseId : String) (shared : Shared) : Decidable (shared.Executed caseId) :=
  inferInstanceAs (Decidable (_ = _))

instance (caseId : String) (shared : Shared) : Decidable (shared.Unexecuted caseId) :=
  inferInstanceAs (Decidable (∃ row ∈ (shared.store.view caseId).case, row.state ≠ .retryExecuted))

/-- The case that the operation reads. -/
def Op.reads : Op → Option String
  | .getCase caseId => some caseId
  | _ => none

/-- What a worker asks of the service, and what that does to what is shared. -/
abbrev Exchange := Pool.Exchange Op Res Shared

namespace Exchange

variable (caseId : String) (exchange : Exchange)

/-- How many attempts of the case it commits. -/
def commits : Nat :=
  (committedAttempts exchange.after.log caseId).length
    - (committedAttempts exchange.before.log caseId).length

/-- Whether it moves the case into RETRY_EXECUTED. -/
def moves : Nat :=
  (decide (exchange.before.Unexecuted caseId ∧ exchange.after.Executed caseId)).toNat

/-- How many entries into RETRY_EXECUTED it adds to the trail of the case. -/
def enters : Nat :=
  executions (exchange.after.store.view caseId).trail
    - executions (exchange.before.store.view caseId).trail

/-- It is a commit that is refused. -/
def refused : Exchange → Bool
  | ⟨.commitEffect _ _ _, .ok committed, _, _⟩ => !committed
  | _ => false

/-- A worker that has lost a commit finds a case it reads in RETRY_EXECUTED. -/
def ReadsExecuted (lost : Bool) : Prop :=
  lost = true → ∀ caseId ∈ exchange.op.reads, ¬ exchange.before.Unexecuted caseId

instance (lost : Bool) : Decidable (exchange.ReadsExecuted lost) :=
  inferInstanceAs (Decidable (_ → ∀ caseId ∈ exchange.op.reads, _))

/-- A case that is written in RETRY_EXECUTED is stored in another state. -/
def WritesUnexecuted : Prop :=
  match exchange.op with
  | .updateCase case => case.state = .retryExecuted → exchange.before.Unexecuted case.caseId
  | _ => True

/-- No stored entry has the sequence number of an entry into RETRY_EXECUTED that is inserted. -/
def InsertsFree : Prop :=
  match exchange.op with
  | .insertAudit logged =>
      logged.Enters .retryExecuted
      → ∀ caseId, ∀ entry ∈ (exchange.before.store.view caseId).trail,
          entry.sequenceId ≠ logged.sequenceId
  | _ => True

end Exchange

-----------------------------------------------------------------------------------------
-- Records
-----------------------------------------------------------------------------------------

namespace Exchange

variable (caseId : String) (record : List Exchange)

/-- How many attempts of the case the worker has committed. -/
def committed : Nat := (record.map (commits caseId)).sum

/-- How often the worker has moved the case into RETRY_EXECUTED. -/
def moved : Nat := (record.map (moves caseId)).sum

/-- How many entries into RETRY_EXECUTED the worker has added to the trail of the case. -/
def entered : Nat := (record.map (enters caseId)).sum

/-- From a lost commit on, the cases that are read are in RETRY_EXECUTED. -/
def ReadsFrom (lost : Bool) : List Exchange → Prop
  | [] => True
  | exchange :: rest => exchange.ReadsExecuted lost ∧ ReadsFrom (lost || exchange.refused) rest

def Reads : Prop := ReadsFrom false record

instance decidableReadsFrom (lost : Bool)
    : (record : List Exchange) → Decidable (ReadsFrom lost record)
  | [] => isTrue trivial
  | exchange :: rest =>
      have := decidableReadsFrom (lost || exchange.refused) rest
      inferInstanceAs (Decidable (_ ∧ _))

instance : Decidable (Reads record) := inferInstanceAs (Decidable (ReadsFrom _ _))

def Writes : Prop := ∀ exchange ∈ record, exchange.WritesUnexecuted

def Inserts : Prop := ∀ exchange ∈ record, exchange.InsertsFree

/-- Other workers do not come in between: after a lost commit a case is read in RETRY_EXECUTED, one
that is written in RETRY_EXECUTED is in another state until then, and the sequence number of the
entry about it is still free.
-/
structure Undisturbed : Prop where
  reads : Reads record
  writes : Writes record
  inserts : Inserts record

/-- The worker has moved the case and added an entry for each attempt it has committed. -/
structure AppliesOnce : Prop where
  moves : moved caseId record = committed caseId record
  enters : entered caseId record = committed caseId record

instance : Decidable (AppliesOnce caseId record) :=
  decidable_of_iff (_ ∧ _)
    ⟨fun ⟨moves, enters⟩ => ⟨moves, enters⟩, fun once => ⟨once.moves, once.enters⟩⟩

/-- The worker has committed one attempt at most, and moved the case and added an entry for it at
most once.
-/
structure AppliesAtMostOnce : Prop where
  commits : committed caseId record ≤ 1
  moves : moved caseId record ≤ committed caseId record
  enters : entered caseId record ≤ moved caseId record

variable {caseId record} {exchange : Exchange}

@[simp] theorem committed_concat
    : committed caseId (record ++ [exchange])
      = committed caseId record + commits caseId exchange := by
  simp [committed]

@[simp] theorem moved_concat
    : moved caseId (record ++ [exchange]) = moved caseId record + moves caseId exchange := by
  simp [moved]

@[simp] theorem entered_concat
    : entered caseId (record ++ [exchange]) = entered caseId record + enters caseId exchange := by
  simp [entered]

/-- The last exchange of a record is judged by what is lost before it. -/
theorem readsFrom_concat {lost : Bool}
    : ReadsFrom lost (record ++ [exchange])
      ↔ ReadsFrom lost record ∧ exchange.ReadsExecuted (lost || record.any refused) := by
  induction record generalizing lost with
  | nil => simp [ReadsFrom]
  | cons first rest ih => simp [ReadsFrom, ih, and_assoc, Bool.or_assoc]

@[simp] theorem reads_concat
    : Reads (record ++ [exchange])
      ↔ Reads record ∧ exchange.ReadsExecuted (record.any refused) :=
  readsFrom_concat

@[simp] theorem writes_concat
    : Writes (record ++ [exchange]) ↔ Writes record ∧ exchange.WritesUnexecuted := by
  simp [Writes, or_imp, forall_and]

@[simp] theorem inserts_concat
    : Inserts (record ++ [exchange]) ↔ Inserts record ∧ exchange.InsertsFree := by
  simp [Inserts, or_imp, forall_and]

end Exchange

-----------------------------------------------------------------------------------------
-- Operations that execute nothing
-----------------------------------------------------------------------------------------

/-- The operation commits nothing, and puts no case and no entry into RETRY_EXECUTED. -/
def Op.Unexecuting : Op → Prop
  | .commitEffect _ _ _ => False
  | .createCase case => case.state ≠ .retryExecuted
  | .updateCase case => case.state ≠ .retryExecuted
  | .insertAudit entry => ¬ entry.Enters .retryExecuted
  | _ => True

theorem Op.Quiet.unexecuting {op : Op} (quiet : op.Quiet) : op.Unexecuting := by
  cases op with
  | commitEffect | createCase | updateCase | insertAudit => exact quiet.elim
  | _ => trivial

/-- Statements of an append are unexecuting where no entry leads into RETRY_EXECUTED. -/
theorem Op.Appends.unexecuting {entries : List AuditEntry} {op : Op} (appends : op.Appends entries)
    (plain : ∀ entry ∈ entries, ¬ entry.Enters .retryExecuted)
    : op.Unexecuting := by
  cases op with
  | nextSequence | lastEntryHash => trivial
  | insertAudit logged =>
      obtain ⟨entry, member, same⟩ := appends
      intro enters
      have entering : logged.bare.Enters .retryExecuted := enters
      rw [same] at entering
      exact plain entry member entering
  | _ => exact appends.elim

theorem Op.Unexecuting.commits {op : Op} (unexecuting : op.Unexecuting) : op.Commits := by
  cases op with
  | commitEffect => exact unexecuting.elim
  | _ => trivial

/-- The workers are on Postgres, and the commit log is sound. -/
structure Shared.Served (deployment : Deployment) (shared : Shared) : Prop where
  sound : shared.Sound deployment
  postgres : shared.store.isInMemory = false

namespace Shared.Served

variable {deployment : Deployment} {shared : Shared} {op : Op} (own : Worker)

theorem answer (served : shared.Served deployment) (commits : op.Commits)
    : (World.shares deployment op (own, shared)).2.2.Served deployment where
  sound := @Shared.Sound.answer deployment op commits ⟨own, shared⟩ served.sound
  postgres := (World.answer_isInMemory deployment op ⟨own, shared⟩).trans served.postgres

theorem records (served : shared.Served deployment)
    : ∃ records : Records, shared = records.shared := by
  obtain ⟨store, log⟩ := shared
  cases store with
  | inMemory store => cases served.postgres
  | postgres store => exact ⟨⟨store, log⟩, rfl⟩

/-- What an operation that executes nothing leaves as it is. -/
theorem unexecuting (served : shared.Served deployment) (unexecuting : op.Unexecuting)
    (caseId : String)
    : let later := (World.shares deployment op (own, shared)).2.2
      later.log = shared.log
      ∧ executions (later.store.view caseId).trail = executions (shared.store.view caseId).trail
      ∧ (later.Executed caseId → shared.Executed caseId) := by
  obtain ⟨records, rfl⟩ := served.records
  cases op with
  | commitEffect => exact unexecuting.elim
  | createCase case =>
      rcases Records.shares_createCase deployment own records case with
        ⟨cases, inserted, done⟩ | ⟨raised, done⟩
      · rw [done]
        refine ⟨rfl, rfl, fun executed => ?_⟩
        have found : (cases.find? caseId).map (·.state) = some .retryExecuted := executed
        rw [Table.find?_insert inserted] at found
        split at found
        · exact absurd (Option.some.inj found) unexecuting
        · exact found
      · rw [done]
        exact ⟨rfl, rfl, id⟩
  | updateCase case =>
      rw [Records.shares_updateCase]
      refine ⟨rfl, rfl, fun executed => ?_⟩
      have found : ((records.store.recoveryCases.update case).find? caseId).map (·.state)
          = some .retryExecuted := executed
      rw [Table.find?_update] at found
      split at found
      · obtain ⟨row, stored, state⟩ := Option.map_eq_some_iff.mp found
        obtain ⟨old, _, rfl⟩ := Option.map_eq_some_iff.mp stored
        exact absurd state unexecuting
      · exact found
  | insertAudit entry =>
      rcases Records.shares_insertAudit deployment own records entry with
        ⟨entries, inserted, done⟩ | ⟨raised, done⟩
      · rw [done]
        refine ⟨rfl, ?_, id⟩
        have rows := (Table.insert?_some inserted).2
        have plain : ¬ entry.Enters .retryExecuted := unexecuting
        change executions (entries.rows.filter _) = executions (List.filter _ _)
        rw [rows, List.filter_append, executions_append]
        by_cases here : entry.caseId = caseId <;> simp [here, executions, plain]
      · rw [done]
        exact ⟨rfl, rfl, id⟩
  | recordFailure event =>
      rcases Records.shares_recordFailure deployment own records event with
        ⟨_, _, done⟩ | ⟨raised, done⟩ <;>
        rw [done] <;> exact ⟨rfl, rfl, id⟩
  | recordRetryDecision decision =>
      rcases Records.shares_recordRetryDecision deployment own records decision with
        ⟨_, _, done⟩ | ⟨raised, done⟩ <;>
        rw [done] <;> exact ⟨rfl, rfl, id⟩
  | advanceClock delta =>
      simp only [World.shares, World.answer]
      split <;> exact ⟨rfl, rfl, id⟩
  | _ => exact ⟨rfl, rfl, id⟩

end Shared.Served

-----------------------------------------------------------------------------------------
-- What an operation counts for
-----------------------------------------------------------------------------------------

namespace Exchange

variable {deployment : Deployment} {caseId : String} {shared : Shared} {own : Worker}

/-- The exchange that an operation is. -/
def made (deployment : Deployment) (own : Worker) (shared : Shared) (op : Op) : Exchange :=
  ⟨op, (World.shares deployment op (own, shared)).1, shared,
    (World.shares deployment op (own, shared)).2.2⟩

/-- A case that is in RETRY_EXECUTED afterwards only if it was before is not moved there. -/
theorem moves_eq_zero {exchange : Exchange}
    (kept : exchange.after.Executed caseId → exchange.before.Executed caseId)
    : moves caseId exchange = 0 := by
  have never : ¬ (exchange.before.Unexecuted caseId ∧ exchange.after.Executed caseId) := by
    rintro ⟨⟨row, stored, state⟩, later⟩
    have before := kept later
    simp only [Shared.Executed, stored, Option.map_some, Option.some.injEq] at before
    exact state before
  simp [moves, never]

/-- An operation that executes nothing counts for nothing. -/
theorem made_unexecuting (served : shared.Served deployment) {op : Op}
    (unexecuting : op.Unexecuting)
    : let exchange := made deployment own shared op
      commits caseId exchange = 0 ∧ moves caseId exchange = 0 ∧ enters caseId exchange = 0
      ∧ exchange.refused = false ∧ exchange.WritesUnexecuted ∧ exchange.InsertsFree := by
  obtain ⟨log, trail, executed⟩ := served.unexecuting own unexecuting caseId
  refine ⟨?_, ?_, ?_, ?_, ?_, ?_⟩
  · simp [commits, made, log]
  · exact moves_eq_zero executed
  · simp [enters, made, trail]
  · cases op with
    | commitEffect => exact unexecuting.elim
    | _ => rfl
  · cases op with
    | updateCase case => exact fun executed => absurd executed unexecuting
    | _ => trivial
  · cases op with
    | insertAudit logged => exact fun enters => absurd enters unexecuting
    | _ => trivial

@[simp] theorem readsExecuted_false (exchange : Exchange) : exchange.ReadsExecuted false := by
  simp [ReadsExecuted]

/-- Whatever is not a commit leaves the log as it is. -/
theorem made_plain {op : Op} (plain : op.Plain)
    : commits caseId (made deployment own shared op) = 0 := by
  have same : (World.shares deployment op (own, shared)).2.2.log = shared.log := by
    cases op with
    | commitEffect | recordFailure | recordRetryDecision | updateRetryDecision => exact plain.elim
    | advanceClock delta =>
        simp only [World.shares, World.answer]
        split <;> rfl
    | createCase | updateCase | insertAudit => simp [World.shares, World.answer]
    | _ => rfl
  simp [commits, made, same]

/-- A commit is won, lost or raises, and writes nothing but the log. -/
theorem made_commitEffect (served : shared.Served deployment) {attempt : Nat} {effect : Effect}
    (sound : (Op.commitEffect caseId attempt effect).Commits)
    : let op := Op.commitEffect caseId attempt effect
      let exchange := made deployment own shared op
      moves caseId exchange = 0 ∧ enters caseId exchange = 0
      ∧ ((World.shares deployment op (own, shared)).1 = .ok true ∧ commits caseId exchange = 1
        ∨ (World.shares deployment op (own, shared)).1 ≠ .ok true
          ∧ commits caseId exchange = 0) := by
  obtain ⟨records, rfl⟩ := served.records
  simp only [made]
  rcases Records.shares_commitEffect deployment own records caseId attempt effect with
    ⟨log, inserted, done⟩ | ⟨unwon, lost, done⟩
  · have rows := (Table.insert?_some inserted).2
    obtain ⟨named, -⟩ := sound
    rw [done]
    refine ⟨moves_eq_zero id, Nat.sub_self _, .inl ⟨rfl, ?_⟩⟩
    simp [commits, committedAttempts, Records.shared, rows, named]
  · rw [done]
    exact ⟨moves_eq_zero id, Nat.sub_self _, .inr ⟨lost, Nat.sub_self _⟩⟩

/-- The write of a case in RETRY_EXECUTED moves it exactly if it was stored in another state. -/
theorem made_updateCase (served : shared.Served deployment) {case : RecoveryCase}
    (named : case.caseId = caseId) (executed : case.state = .retryExecuted)
    : let exchange := made deployment own shared (.updateCase case)
      moves caseId exchange ≤ 1 ∧ enters caseId exchange = 0
      ∧ (exchange.WritesUnexecuted ↔ moves caseId exchange = 1) := by
  obtain ⟨records, rfl⟩ := served.records
  subst named
  refine ⟨Bool.toNat_le _, Nat.sub_self _, ?_⟩
  have later : records.shared.Unexecuted case.caseId
      → (made deployment own records.shared (.updateCase case)).after.Executed case.caseId := by
    rintro ⟨row, stored, -⟩
    have found : records.store.recoveryCases.find? case.caseId = some row := stored
    change ((records.store.recoveryCases.update case).find? case.caseId).map _ = _
    rw [Table.find?_update, if_pos rfl, found]
    exact congrArg some executed
  have written : (made deployment own records.shared (.updateCase case)).WritesUnexecuted
      ↔ records.shared.Unexecuted case.caseId :=
    ⟨fun writes => writes executed, fun found _ => found⟩
  rw [written]
  have before
      : (made deployment own records.shared (.updateCase case)).before = records.shared := rfl
  simp only [moves, before, Bool.toNat_eq_one, decide_eq_true_eq]
  exact ⟨fun found => ⟨found, later found⟩, And.left⟩

/-- An entry into RETRY_EXECUTED is added exactly if its sequence number is free. -/
theorem made_insertAudit (served : shared.Served deployment) {logged : AuditEntry}
    (named : logged.caseId = caseId) (entering : logged.Enters .retryExecuted)
    : let op := Op.insertAudit logged
      let exchange := made deployment own shared op
      moves caseId exchange = 0
      ∧ ((World.shares deployment op (own, shared)).1 = .ok () ∧ exchange.InsertsFree
          ∧ enters caseId exchange = 1
        ∨ ∃ raised,
            (World.shares deployment op (own, shared)).1 = .error raised
            ∧ ¬ exchange.InsertsFree ∧ enters caseId exchange = 0) := by
  obtain ⟨records, rfl⟩ := served.records
  have free : (made deployment own records.shared (.insertAudit logged)).InsertsFree
      ↔ records.store.auditEntries.find? logged.sequenceId = none := by
    rw [Table.find?_eq_none_iff]
    constructor
    · intro unused taken
      obtain ⟨entry, stored, same⟩ := List.mem_map.mp taken
      exact unused entering entry.caseId entry
        (List.mem_filter.mpr ⟨stored, decide_eq_true rfl⟩) same
    · intro absent _ other entry member same
      exact absent (List.mem_map.mpr ⟨entry, (List.mem_filter.mp member).1, same⟩)
  intro op exchange
  rw [free]
  cases inserted : records.store.auditEntries.insert? logged with
  | none =>
      have answered : World.shares deployment op (own, records.shared)
          = (.error .uniqueViolation, own, records.shared) := by
        simp only [op, World.shares, World.answer, Records.shared, CaseStore.insertAudit,
          PostgresCaseStore.insertAudit, inserted]
        rfl
      obtain ⟨old, taken⟩ := Table.insert?_eq_none_iff.mp inserted
      simp only [exchange, made]
      rw [answered]
      exact ⟨moves_eq_zero id, .inr ⟨_, rfl, by simp [taken], Nat.sub_self _⟩⟩
  | some entries =>
      have answered : World.shares deployment op (own, records.shared)
          = (.ok (), own, Records.shared
              ⟨{ records.store with auditEntries := entries }, records.log⟩) := by
        simp only [op, World.shares, World.answer, Records.shared, CaseStore.insertAudit,
          PostgresCaseStore.insertAudit, inserted]
        rfl
      obtain ⟨fresh, rows⟩ := Table.insert?_some inserted
      simp only [exchange, made]
      rw [answered]
      refine ⟨moves_eq_zero id, .inl ⟨rfl, fresh, ?_⟩⟩
      change executions (entries.rows.filter _) - executions (List.filter _ _) = 1
      rw [rows, List.filter_append, executions_append]
      simp [named, executions, entering]

end Exchange

end RecoveryAgent
