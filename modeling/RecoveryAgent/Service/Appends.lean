import RecoveryAgent.Lib.Pool
import RecoveryAgent.Service.Operations
import RecoveryAgent.Store.Ledger

/-! Concurrent appends to the Postgres audit log.
A worker reads the next sequence id, then the last hash of its case, and then inserts; other
workers' statements come in between. The primary key refuses every row whose number or link
has gone stale.
-/

namespace RecoveryAgent

-----------------------------------------------------------------------------------------
-- Workers over shared state
-----------------------------------------------------------------------------------------

/-- How the requests of one worker are answered, next to the state it keeps to itself. -/
def World.shares (deployment : Deployment) : Pool.Semantics Op Res Worker Shared :=
  fun op state =>
    let answered := World.answer deployment op ⟨state.1, state.2⟩
    (answered.1, (answered.2.toWorker, answered.2.toShared))

/-- Requests of several workers over the shared state. -/
abbrev Workers (α : Type) := Pool Op Res (Except Raised α) Worker Shared

-----------------------------------------------------------------------------------------
-- One append
-----------------------------------------------------------------------------------------

/-- How `append_audit` ends after its insert. -/
def concluded (reply : Except StoreException Unit) : Program Op Res (Except Raised Unit) :=
  .pure (reply.mapError fun raised => .exception (.store raised))

/-- The insert of an entry under the number and behind the hash that were read. -/
def insertRead (entry : AuditEntry) (id : Nat) (hash : Option String)
    : Program Op Res (Except Raised Unit) :=
  .request (.insertAudit ({ entry with sequenceId := some id }.linked hash)) concluded

/-- The three statements of `append_audit` on an unnumbered entry. -/
theorem appendAudit_run {entry : AuditEntry} (unnumbered : entry.sequenceId = none)
    : (Handler.appendAudit entry).run
      = .request .nextSequence fun id =>
          .request (.lastEntryHash entry.caseId) (insertRead entry id) := by
  unfold Handler.appendAudit
  rw [unnumbered]
  have insert (id : Nat) (hash : Option String)
      : (do Handler.orRaise (← Handler.call
          (.insertAudit ({ entry with sequenceId := some id }.linked hash)))
          : Handler Unit).run
        = insertRead entry id hash := by
    unfold insertRead
    change Program.request _ _ = _
    congr 1
    funext reply
    cases reply <;> rfl
  change Program.request _ _ = _
  congr 1
  funext id
  change Program.request _ _ = _
  congr 1
  funext hash
  exact insert id hash

namespace Handler

variable (deployment : Deployment) {world : World} (entry : AuditEntry)

/-- Executed at once on the in-memory store, the statements are its `append_audit`. -/
theorem exec_appendAudit_inMemory {store : InMemoryCaseStore}
    (inMemory : world.store = .inMemory store)
    : exec deployment (appendAudit entry) world
      = (.ok (), { world with store := .inMemory (store.appendAudit entry) }) := by
  obtain ⟨worker, ⟨_, log⟩⟩ := world
  cases inMemory
  unfold appendAudit InMemoryCaseStore.appendAudit
  cases entry.sequenceId <;> rfl

/-- Executed at once on Postgres, the statements are its `append_audit`. -/
theorem exec_appendAudit_postgres {store : PostgresCaseStore}
    (postgres : world.store = .postgres store)
    : exec deployment (appendAudit entry) world
      = match store.appendAudit entry with
        | some store => (.ok (), { world with store := .postgres store })
        | none => (.error (.exception (.store .uniqueViolation)), world) := by
  obtain ⟨worker, ⟨_, log⟩⟩ := world
  cases postgres
  have inserted (numbered : AuditEntry)
      : exec deployment (do orRaise (← call (.insertAudit numbered)))
          ⟨worker, ⟨.postgres store, log⟩⟩
        = match store.insertAudit numbered with
          | some store => (.ok (), ⟨worker, ⟨.postgres store, log⟩⟩)
          | none =>
              (.error (.exception (.store .uniqueViolation)),
                ⟨worker, ⟨.postgres store, log⟩⟩) := by
    rw [exec_bind]
    change (match (World.stored _ (CaseStore.insertAudit numbered (.postgres store))) with
      | (reply, world) => exec deployment (orRaise reply) world) = _
    unfold CaseStore.insertAudit
    dsimp only
    cases store.insertAudit numbered <;> rfl
  unfold appendAudit PostgresCaseStore.appendAudit
  cases entry.sequenceId with
  | none => exact inserted _
  | some sequenceId => exact inserted _

end Handler

-----------------------------------------------------------------------------------------
-- The stages of an append
-----------------------------------------------------------------------------------------

/-- Where an append stands against the ledger, and whether its entry is in. The number read
may be taken by now; while it is not, the link read is still the last one.
-/
inductive AppendStage (ledger : Ledger) (entry : AuditEntry)
    : Bool → Program Op Res (Except Raised Unit) → Prop where
  | reading
    : AppendStage ledger entry false
        (.request .nextSequence fun id =>
          .request (.lastEntryHash entry.caseId) (insertRead entry id))
  | numbered {id : Nat} (positive : 1 ≤ id) (bound : id ≤ ledger.entries.length + 1)
    : AppendStage ledger entry false
        (.request (.lastEntryHash entry.caseId) (insertRead entry id))
  | linked {id : Nat} {hash : Option String} (positive : 1 ≤ id)
      (bound : id ≤ ledger.entries.length + 1)
      (current : id = ledger.entries.length + 1 → hash = ledger.lastEntryHash entry.caseId)
    : AppendStage ledger entry false
        (.request (.insertAudit ({ entry with sequenceId := some id }.linked hash)) concluded)
  | returned : AppendStage ledger entry true (.pure (.ok ()))
  | raised (raised : Raised) : AppendStage ledger entry false (.pure (.error raised))

/-- Another worker's insert leaves an append at its stage: what it read is merely stale. -/
theorem AppendStage.append {ledger : Ledger} {entry : AuditEntry} {inserted : Bool}
    {program : Program Op Res (Except Raised Unit)}
    (stage : AppendStage ledger entry inserted program) (other : AuditEntry)
    : AppendStage (ledger.append other) entry inserted program := by
  have longer : (ledger.append other).entries.length = ledger.entries.length + 1 := by simp
  cases stage with
  | reading => exact .reading
  | numbered positive bound => exact .numbered positive (by omega)
  | linked positive bound current => exact .linked positive (by omega) fun last => by omega
  | returned => exact .returned
  | raised raised => exact .raised raised

/-- The calls of `append_audit`, each with the worker that makes it. -/
abbrev AppendCalls := List (Worker × AuditEntry)

namespace AppendCalls

variable (calls : AppendCalls)

/-- The calls about to be made on a store. -/
def pool (store : PostgresCaseStore) (log : EtcdStore Effect) : Workers Unit where
  shared := ⟨.postgres store, log⟩
  threads := calls.map fun call => ⟨call.1, (Handler.appendAudit call.2).run⟩

/-- The table is a ledger of the calls in the order in which they inserted. -/
def Logged (shared : Shared) (history : Ledger × List Nat) : Prop :=
  (∃ store, shared.store = .postgres store ∧ store.Holds history.1)
  ∧ history.2.Nodup
  ∧ (∀ i ∈ history.2, i < calls.length)
  ∧ history.1.entries.map AuditEntry.bare
    = history.2.filterMap fun i => calls[i]?.map (·.2.bare)

/-- A call at its stage; it is in the history exactly if its entry is in the table. -/
def Staged (_ : Shared) (history : Ledger × List Nat) (i : Nat)
    (thread : Thread Op Res (Except Raised Unit) Worker) : Prop :=
  ∃ call,
    calls[i]? = some call
    ∧ AppendStage history.1 call.2 (decide (i ∈ history.2)) thread.program

/-- Every statement of an append moves it on and leaves the others where they are. -/
theorem advances (deployment : Deployment)
    : Pool.Advances (World.shares deployment) calls.Logged calls.Staged := by
  rintro shared ⟨ledger, order⟩ i own op next ⟨⟨store, isPostgres, holds⟩, distinct, among, logged⟩
    ⟨call, called, stage⟩
  obtain ⟨_, log⟩ := shared
  cases isPostgres
  dsimp only at holds distinct logged stage
  generalize waiting : decide (i ∈ order) = inserted at stage
  cases stage with
  | reading =>
      have read : store.nextSequence = ledger.entries.length + 1 := holds.nextSequence
      refine ⟨(ledger, order), ⟨⟨store, rfl, holds⟩, distinct, among, logged⟩, ⟨call, called, ?_⟩,
        fun j thread _ staged => staged⟩
      rw [waiting]
      exact .numbered (show 1 ≤ store.nextSequence by omega)
        (show store.nextSequence ≤ ledger.entries.length + 1 by omega)
  | @numbered id positive bound =>
      have read : store.lastEntryHash call.2.caseId = ledger.lastEntryHash call.2.caseId :=
        holds.lastEntryHash call.2.caseId
      refine ⟨(ledger, order), ⟨⟨store, rfl, holds⟩, distinct, among, logged⟩, ⟨call, called, ?_⟩,
        fun j thread _ staged => staged⟩
      rw [waiting]
      exact .linked positive bound fun _ => read
  | @linked id hash positive bound current =>
      by_cases taken : id ≤ ledger.entries.length
      · have refused := @PostgresCaseStore.Holds.insertAudit_taken _ _ holds
          ({ call.2 with sequenceId := some id }.linked hash) id rfl positive taken
        have answered
            : World.shares deployment
                (.insertAudit ({ call.2 with sequenceId := some id }.linked hash))
                (own, ⟨.postgres store, log⟩)
              = (.error .uniqueViolation, (own, ⟨.postgres store, log⟩)) := by
          simp only [World.shares, World.answer, CaseStore.insertAudit, refused, World.stored]
        rw [answered]
        refine ⟨(ledger, order), ⟨⟨store, rfl, holds⟩, distinct, among, logged⟩, ⟨call, called, ?_⟩,
          fun j thread _ staged => staged⟩
        rw [waiting]
        exact .raised _
      · have last : id = ledger.entries.length + 1 := by omega
        have next : { call.2 with sequenceId := some id }.linked hash = ledger.next call.2 := by
          rw [current last, last]
          rfl
        obtain ⟨store', inserted, holds'⟩ := holds.insertAudit call.2
        have answered
            : World.shares deployment
                (.insertAudit ({ call.2 with sequenceId := some id }.linked hash))
                (own, ⟨.postgres store, log⟩)
              = (.ok (), (own, ⟨.postgres store', log⟩)) := by
          simp only [World.shares, World.answer, CaseStore.insertAudit, next, inserted,
            World.stored]
        rw [answered]
        have absent : i ∉ order := by simpa using waiting
        refine ⟨(ledger.append call.2, order ++ [i]), ⟨⟨store', rfl, holds'⟩, ?_, ?_, ?_⟩,
          ⟨call, called, ?_⟩, fun j thread other staged => ?_⟩
        · exact List.nodup_append.mpr ⟨distinct, List.nodup_singleton i,
            fun a member b single same => absent (List.mem_singleton.mp single ▸ same ▸ member)⟩
        · intro j member
          rcases List.mem_append.mp member with old | new
          · exact among j old
          · rw [List.mem_singleton.mp new]
            exact (List.getElem?_eq_some_iff.mp called).1
        · simp [logged, called]
        · rw [show decide (i ∈ order ++ [i]) = true by simp]
          exact .returned
        · obtain ⟨call', called', stage'⟩ := staged
          refine ⟨call', called', ?_⟩
          simpa [other] using stage'.append call.2

variable {calls}

/-- The calls start with nothing logged. -/
theorem staged_start (unnumbered : ∀ call ∈ calls, call.2.sequenceId = none)
    {store : PostgresCaseStore} (empty : store.auditEntries.rows = []) (log : EtcdStore Effect)
    : Pool.Staged calls.Logged calls.Staged (calls.pool store log) (.empty, []) := by
  refine ⟨⟨⟨store, rfl, empty⟩, List.nodup_nil, nofun, rfl⟩, fun i thread found => ?_⟩
  rw [pool, List.getElem?_map, Option.map_eq_some_iff] at found
  obtain ⟨call, called, rfl⟩ := found
  refine ⟨call, called, ?_⟩
  rw [appendAudit_run (unnumbered call (List.mem_of_getElem? called))]
  exact .reading

/-- What holds of the audit table and the calls in every state they reach. -/
structure Chained (calls : AppendCalls) (pool : Workers Unit) (store : PostgresCaseStore)
    : Prop where
  shared : pool.shared.store = .postgres store
  /-- The sequence ids run from 1 without gaps. -/
  numbered
    : store.auditEntries.rows.map (·.sequenceId)
      = (List.range' 1 store.auditEntries.rows.length).map some
  /-- The rows of a case in sequence order pass the check. -/
  valid
    : ∀ caseId,
        store.getAuditTrail caseId ≠ []
        → (verifyChain ((store.getAuditTrail caseId).map AuditEntry.row)).valid = true
  /-- Exactly the calls that returned have inserted their entry, once. -/
  inserted
    : ∃ order : List Nat,
        order.Nodup
        ∧ (∀ i, i ∈ order ↔ ∃ own, pool.threads[i]? = some ⟨own, .pure (.ok ())⟩)
        ∧ store.auditEntries.rows.map AuditEntry.bare
          = order.filterMap fun i => calls[i]?.map (·.2.bare)

/-- Any number of concurrent appends, interleaved statement by statement, keep the audit
table of an initially empty store chained.
-/
theorem concurrentAppends_chained (deployment : Deployment)
    (unnumbered : ∀ call ∈ calls, call.2.sequenceId = none)
    {store : PostgresCaseStore} (empty : store.auditEntries.rows = []) (log : EtcdStore Effect)
    (schedule : List Nat)
    : ∃ store',
        calls.Chained (schedule.foldl (Pool.step (World.shares deployment)) (calls.pool store log))
          store' := by
  obtain ⟨⟨ledger, order⟩, ⟨⟨store', isPostgres, holds⟩, distinct, among, logged⟩, stages⟩ :=
    (staged_start unnumbered empty log).run (calls.advances deployment) schedule
  have length := Pool.length_run (World.shares deployment) (calls.pool store log) schedule
  rw [pool, List.length_map] at length
  rw [pool] at isPostgres stages ⊢
  generalize schedule.foldl (Pool.step (World.shares deployment)) _ = pool
    at isPostgres stages length ⊢
  have rows : store'.auditEntries.rows = ledger.entries := holds
  refine ⟨store', isPostgres, rows ▸ ledger.numbered, fun caseId written => ?_,
    order, distinct, fun i => ?_, rows ▸ logged⟩
  · rw [holds.getAuditTrail] at written ⊢
    exact ledger.trail_valid written
  · constructor
    · intro member
      have bound : i < pool.threads.length := length ▸ among i member
      obtain ⟨call, _, stage⟩ := stages i _ (List.getElem?_eq_getElem bound)
      rw [List.getElem?_eq_getElem bound]
      generalize pool.threads[i] = thread at stage
      obtain ⟨own, program⟩ := thread
      simp only [member, decide_true] at stage
      cases stage
      exact ⟨own, rfl⟩
    · rintro ⟨own, found⟩
      obtain ⟨call, _, stage⟩ := stages i _ found
      generalize waiting : decide (i ∈ order) = inserted at stage
      cases stage
      exact of_decide_eq_true waiting

/-- Two appends for one case by two workers. -/
def racing : AppendCalls :=
  let worker : Worker := ⟨⟨none, fun _ => 0, 0, 0⟩, .new, []⟩
  [(worker, createdEntry), (worker, { createdEntry with timestamp := 1 })]

/-- Two appends that take turns: both read the number 1, and the second insert is refused. -/
theorem concurrentAppends_chained_racing
    : ∃ store,
        racing.Chained
          ([0, 1, 0, 1, 0, 1].foldl (Pool.step (World.shares ⟨shippedConfig .demo, true⟩))
            (racing.pool {} .empty))
          store :=
  concurrentAppends_chained ⟨shippedConfig .demo, true⟩ (by decide) rfl .empty [0, 1, 0, 1, 0, 1]

end AppendCalls

end RecoveryAgent
