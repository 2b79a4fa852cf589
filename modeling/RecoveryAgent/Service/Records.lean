import RecoveryAgent.Service.Fleet

/-! What the workers share on Postgres: the tables of the store, and the commit log.
Every operation reads them or changes one of them, and nothing that is stored for good is lost.
-/

namespace RecoveryAgent

open StateMachine

/-- The tables and the commit log. -/
structure Records where
  store : PostgresCaseStore := {}
  log : EtcdStore Effect := .empty

namespace Records

/-- The records as what is shared. -/
def shared (records : Records) : Shared := ⟨.postgres records.store, records.log⟩

/-- The case stored under an id. -/
def case? (records : Records) (caseId : String) : Option RecoveryCase :=
  records.store.recoveryCases.find? caseId

/-- The attempts whose failures are recorded for a case. -/
def attempts (records : Records) (caseId : String) : List Nat :=
  (records.store.paymentFailures.rows.filter (·.caseId = caseId)).map (·.attemptNumber)

theorem case?_caseId {records : Records} {caseId : String} {case : RecoveryCase}
    (stored : records.case? caseId = some case)
    : case.caseId = caseId :=
  Table.find?_key stored

theorem mem_attempts {records : Records} {caseId : String} {attempt : Nat}
    : attempt ∈ records.attempts caseId
      ↔ ∃ event ∈ records.store.paymentFailures.rows,
          event.caseId = caseId ∧ event.attemptNumber = attempt := by
  simp [attempts, and_assoc]

section Operations

variable (deployment : Deployment) (own : Worker) (records : Records)

theorem shares_createCase (case : RecoveryCase)
    : (∃ cases,
        records.store.recoveryCases.insert? case = some cases
        ∧ World.shares deployment (.createCase case) (own, records.shared)
          = (.ok (), own, shared ⟨{ records.store with recoveryCases := cases }, records.log⟩))
      ∨ ∃ raised,
          World.shares deployment (.createCase case) (own, records.shared)
            = (.error raised, own, records.shared) := by
  simp only [World.shares, World.answer, shared, CaseStore.createCase,
    PostgresCaseStore.createCase]
  cases records.store.recoveryCases.insert? case with
  | none => exact .inr ⟨_, rfl⟩
  | some cases => exact .inl ⟨cases, rfl, rfl⟩

theorem shares_updateCase (case : RecoveryCase)
    : World.shares deployment (.updateCase case) (own, records.shared)
      = (.ok (), own, shared
          ⟨{ records.store with recoveryCases := records.store.recoveryCases.update case },
            records.log⟩) :=
  rfl

theorem shares_recordFailure (event : PaymentFailureEvent)
    : (∃ failures,
        records.store.paymentFailures.insert? (PostgresCaseStore.failureRow event) = some failures
        ∧ World.shares deployment (.recordFailure event) (own, records.shared)
          = (.ok (), own, shared ⟨{ records.store with paymentFailures := failures }, records.log⟩))
      ∨ ∃ raised,
          World.shares deployment (.recordFailure event) (own, records.shared)
            = (.error raised, own, records.shared) := by
  simp only [World.shares, World.answer, shared, CaseStore.recordFailure,
    PostgresCaseStore.recordFailure]
  cases records.store.paymentFailures.insert? (PostgresCaseStore.failureRow event) with
  | none => exact .inr ⟨_, rfl⟩
  | some failures => exact .inl ⟨failures, rfl, rfl⟩

theorem shares_recordRetryDecision (decision : RetryDecision)
    : (∃ decisions,
        records.store.retryDecisions.insert? decision = some decisions
        ∧ World.shares deployment (.recordRetryDecision decision) (own, records.shared)
          = (.ok (), own, shared ⟨{ records.store with retryDecisions := decisions }, records.log⟩))
      ∨ ∃ raised,
          World.shares deployment (.recordRetryDecision decision) (own, records.shared)
            = (.error raised, own, records.shared) := by
  simp only [World.shares, World.answer, shared, CaseStore.recordRetryDecision,
    PostgresCaseStore.recordRetryDecision]
  cases records.store.retryDecisions.insert? decision with
  | none => exact .inr ⟨_, rfl⟩
  | some decisions => exact .inl ⟨decisions, rfl, rfl⟩

/-- A stored decision is written over itself. -/
theorem shares_updateRetryDecision {decision : RetryDecision}
    (stored : decision ∈ records.store.retryDecisions.rows)
    : World.shares deployment (.updateRetryDecision decision) (own, records.shared)
      = (.ok (), own, records.shared) := by
  have kept : records.store.retryDecisions.update decision = records.store.retryDecisions :=
    Table.update_of_mem stored
  simp only [World.shares, World.answer, shared, CaseStore.updateRetryDecision,
    PostgresCaseStore.updateRetryDecision, kept]
  rfl

theorem shares_insertAudit (entry : AuditEntry)
    : (∃ entries,
        records.store.auditEntries.insert? entry = some entries
        ∧ World.shares deployment (.insertAudit entry) (own, records.shared)
          = (.ok (), own, shared ⟨{ records.store with auditEntries := entries }, records.log⟩))
      ∨ ∃ raised,
          World.shares deployment (.insertAudit entry) (own, records.shared)
            = (.error raised, own, records.shared) := by
  simp only [World.shares, World.answer, shared, CaseStore.insertAudit,
    PostgresCaseStore.insertAudit]
  cases records.store.auditEntries.insert? entry with
  | none => exact .inr ⟨_, rfl⟩
  | some entries => exact .inl ⟨entries, rfl, rfl⟩

/-- A commit is one transaction on its key; without etcd it raises. -/
theorem shares_commitEffect (caseId : String) (attempt : Nat) (effect : Effect)
    : (∃ log,
        records.log.insert? ⟨EtcdQuorumBackend.keyFor caseId attempt, effect⟩ = some log
        ∧ World.shares deployment (.commitEffect caseId attempt effect) (own, records.shared)
          = (.ok true, own, shared ⟨records.store, log⟩))
      ∨ ∃ refused : Except PyError Bool,
          refused ≠ .ok true
          ∧ World.shares deployment (.commitEffect caseId attempt effect) (own, records.shared)
            = (refused, own, records.shared) := by
  by_cases etcd : deployment.useEtcd = true
  · simp only [World.shares, World.answer, World.commitEffect, if_pos etcd, shared,
      EtcdStore.transaction]
    cases records.log.insert? ⟨EtcdQuorumBackend.keyFor caseId attempt, effect⟩ with
    | none => exact .inr ⟨.ok false, by simp, rfl⟩
    | some log => exact .inl ⟨log, rfl, rfl⟩
  · obtain ⟨raised, failed⟩ := Handler.commitEffect_inMemory deployment ⟨own, records.shared⟩
      (Bool.eq_false_of_not_eq_true etcd) caseId attempt effect
    refine .inr ⟨.error raised, by simp, ?_⟩
    simp only [World.shares, World.answer, failed]

end Operations

/-- Nothing that was stored for good is lost: cases stay under their ids with what identifies them,
decisions stay as they are, and failures, audit entries and commits are only added to.
-/
structure Grow (records later : Records) : Prop where
  cases
    : ∀ caseId case,
        records.case? caseId = some case
        → ∃ case', later.case? caseId = some case' ∧ SameCase case case'
  decisions : records.store.retryDecisions.rows ⊆ later.store.retryDecisions.rows
  failures : records.store.paymentFailures.rows <+: later.store.paymentFailures.rows
  audit : records.store.auditEntries.rows <+: later.store.auditEntries.rows
  log : records.log.rows <+: later.log.rows

namespace Grow

variable {records later last : Records}

theorem refl (records : Records) : records.Grow records where
  cases _ case stored := ⟨case, stored, .refl case⟩
  decisions := List.Subset.refl _
  failures := List.prefix_rfl
  audit := List.prefix_rfl
  log := List.prefix_rfl

theorem trans (first : records.Grow later) (second : later.Grow last) : records.Grow last where
  cases caseId case stored := by
    obtain ⟨case', stored', same⟩ := first.cases caseId case stored
    obtain ⟨case'', stored'', same'⟩ := second.cases caseId case' stored'
    exact ⟨case'', stored'', same.trans same'⟩
  decisions := List.Subset.trans first.decisions second.decisions
  failures := first.failures.trans second.failures
  audit := first.audit.trans second.audit
  log := first.log.trans second.log

theorem attempts (grow : records.Grow later) (caseId : String)
    : records.attempts caseId ⊆ later.attempts caseId := by
  intro attempt member
  obtain ⟨event, stored, named⟩ := mem_attempts.mp member
  exact mem_attempts.mpr ⟨event, grow.failures.subset stored, named⟩

/-- A case is opened under an id that was free. -/
theorem opened {case : RecoveryCase} {cases : Table RecoveryCase.caseId}
    (inserted : records.store.recoveryCases.insert? case = some cases)
    : records.Grow ⟨{ records.store with recoveryCases := cases }, records.log⟩ where
  __ := refl records
  cases caseId old stored := by
    obtain ⟨absent, -⟩ := Table.insert?_some inserted
    refine ⟨old, ?_, .refl old⟩
    have other : caseId ≠ case.caseId := by
      rintro rfl
      exact Option.some_ne_none _ (stored.symm.trans absent)
    change cases.find? caseId = some old
    rw [Table.find?_insert inserted, if_neg other]
    exact stored

/-- A case is written over the one that is stored. -/
theorem overwritten {case case' : RecoveryCase} (stored : records.case? case'.caseId = some case)
    (same : SameCase case case')
    : records.Grow
        ⟨{ records.store with recoveryCases := records.store.recoveryCases.update case' },
          records.log⟩ where
  __ := refl records
  cases caseId old found := by
    simp only [case?, Table.find?_update]
    by_cases here : caseId = case'.caseId
    · subst here
      cases stored.symm.trans found
      have row : records.store.recoveryCases.find? case'.caseId = some case := stored
      exact ⟨case', by simp [row], same⟩
    · exact ⟨old, by rw [if_neg here]; exact found, .refl old⟩

theorem failed {event : PaymentFailureEvent} {failures : Table PaymentFailureEvent.paymentId}
    (inserted : records.store.paymentFailures.insert? event = some failures)
    : records.Grow ⟨{ records.store with paymentFailures := failures }, records.log⟩ where
  __ := refl records
  failures := ⟨_, (Table.insert?_some inserted).2.symm⟩

theorem decided {decision : RetryDecision} {decisions : Table RetryDecision.attempt}
    (inserted : records.store.retryDecisions.insert? decision = some decisions)
    : records.Grow ⟨{ records.store with retryDecisions := decisions }, records.log⟩ where
  __ := refl records
  decisions := List.IsPrefix.subset ⟨_, (Table.insert?_some inserted).2.symm⟩

theorem logged {entry : AuditEntry} {entries : Table AuditEntry.sequenceId}
    (inserted : records.store.auditEntries.insert? entry = some entries)
    : records.Grow ⟨{ records.store with auditEntries := entries }, records.log⟩ where
  __ := refl records
  audit := ⟨_, (Table.insert?_some inserted).2.symm⟩

theorem committed {row : EtcdRow Effect} {log : EtcdStore Effect}
    (inserted : records.log.insert? row = some log)
    : records.Grow ⟨records.store, log⟩ where
  __ := refl records
  log := ⟨_, (Table.insert?_some inserted).2.symm⟩

end Grow

/-- The records with their rows in another order, if it is one. -/
theorem exists_reorder (records : Records) (cases : List RecoveryCase)
    (decisions : List RetryDecision)
    : ∃ later : Records,
        records.shared.store.reorder cases decisions = later.shared.store
        ∧ later.log = records.log
        ∧ later.case? = records.case?
        ∧ records.store.retryDecisions.rows.Perm later.store.retryDecisions.rows
        ∧ later.store.paymentFailures = records.store.paymentFailures
        ∧ later.store.auditEntries = records.store.auditEntries := by
  by_cases same : records.store.recoveryCases.rows.Perm cases
    ∧ records.store.retryDecisions.rows.Perm decisions
  · refine ⟨⟨records.store.reorder cases decisions same.1 same.2, records.log⟩, ?_, rfl, ?_,
      same.2, rfl, rfl⟩
    · simp only [shared, CaseStore.reorder, dif_pos same]
    · funext caseId
      exact Table.find?_reorder same.1 caseId
  · refine ⟨records, ?_, rfl, rfl, .refl _, rfl, rfl⟩
    simp only [shared, CaseStore.reorder, dif_neg same]

end Records

end RecoveryAgent
