import RecoveryAgent.Service.Citing
import RecoveryAgent.Service.Derivations

/-! However its tasks interleave, all that a service holds is accounted for.
One operation of a task keeps the account, by what the task knows when it asks for it; any number
of tasks keep it in any order of their operations.
-/

namespace RecoveryAgent

open StateMachine Handler

/-- The account of the records: where everything in them has come from. -/
structure Accounted (deployment : Deployment) (setting : Setting) (records : Records) : Prop where
  sound : records.shared.Sound deployment
  /-- The audit table is a ledger. -/
  booked : ∃ ledger : Ledger, records.store.Holds ledger
  /-- The attempts of a case have no gap. -/
  gapless
    : ∀ caseId n, n ∈ records.attempts caseId → ∀ k, 1 ≤ k → k ≤ n → k ∈ records.attempts caseId
  /-- The case of a recorded failure is stored. -/
  filed
    : ∀ event ∈ records.store.paymentFailures.rows, ∃ case, records.case? event.caseId = some case
  reported
    : ∀ event ∈ records.store.paymentFailures.rows, ∃ entity, Reported setting.served entity event
  rows
    : ∀ caseId case,
        records.case? caseId = some case
        → Derived deployment.config setting records.archive (.row case)
  archived : ∀ item ∈ records.archive, Derived deployment.config setting records.archive item

namespace Accounted

variable {deployment : Deployment} {setting : Setting} {records later : Records}

/-- Nothing is stored. -/
theorem start : Accounted deployment setting {} where
  sound := ⟨by simp [SoundLog, Records.shared], fun _ => rfl⟩
  booked := ⟨.empty, PostgresCaseStore.holds_empty⟩
  gapless caseId n recorded := by simp [Records.attempts] at recorded
  filed := by simp
  reported := by simp
  rows caseId case stored := by simp [Records.case?] at stored
  archived item stored := by
    cases item <;> simp [Records.archive, Item.OnRecord] at stored

/-- What keeps an account while no failure is recorded. -/
theorem grow (accounted : Accounted deployment setting records) (grow : records.Grow later)
    (sound : later.shared.Sound deployment) (booked : ∃ ledger : Ledger, later.store.Holds ledger)
    (failures : later.store.paymentFailures = records.store.paymentFailures)
    (rows
      : ∀ caseId case,
          later.case? caseId = some case
          → records.case? caseId = some case
            ∨ Derived deployment.config setting later.archive (.row case))
    (archived
      : ∀ item ∈ later.archive,
          item ∈ records.archive ∨ Derived deployment.config setting later.archive item)
    : Accounted deployment setting later where
  sound := sound
  booked := booked
  gapless caseId n recorded := by
    simp only [Records.attempts, failures] at recorded ⊢
    exact accounted.gapless caseId n recorded
  filed event recorded := by
    obtain ⟨case, stored⟩ := accounted.filed event (failures ▸ recorded)
    obtain ⟨case', stored', -⟩ := grow.cases _ _ stored
    exact ⟨case', stored'⟩
  reported event recorded := accounted.reported event (failures ▸ recorded)
  rows caseId case stored := by
    rcases rows caseId case stored with old | derived
    · exact (accounted.rows caseId case old).mono grow.archive
    · exact derived
  archived item stored := by
    rcases archived item stored with old | derived
    · exact (accounted.archived item old).mono grow.archive
    · exact derived

-----------------------------------------------------------------------------------------
-- Operations
-----------------------------------------------------------------------------------------

theorem opened (accounted : Accounted deployment setting records) {case : RecoveryCase}
    {cases : Table RecoveryCase.caseId}
    (inserted : records.store.recoveryCases.insert? case = some cases)
    (derived : Derived deployment.config setting records.archive (.row case))
    : Accounted deployment setting
        ⟨{ records.store with recoveryCases := cases }, records.log⟩ := by
  refine accounted.grow (.opened inserted) ⟨accounted.sound.log, accounted.sound.off⟩
    accounted.booked rfl (fun caseId stored found => ?_) fun item stored => .inl stored
  change cases.find? caseId = some stored at found
  rw [Table.find?_insert inserted] at found
  split at found
  · cases found
    exact .inr (derived.mono (Records.Grow.opened inserted).archive)
  · exact .inl found

theorem overwritten (accounted : Accounted deployment setting records) {case case' : RecoveryCase}
    (stored : records.case? case'.caseId = some case) (same : SameCase case case')
    (derived : Derived deployment.config setting records.archive (.row case'))
    : Accounted deployment setting
        ⟨{ records.store with recoveryCases := records.store.recoveryCases.update case' },
          records.log⟩ := by
  have grow := Records.Grow.overwritten stored same
  refine accounted.grow grow ⟨accounted.sound.log, accounted.sound.off⟩ accounted.booked rfl
    (fun caseId found read => ?_) fun item stored => .inl stored
  change (records.store.recoveryCases.update case').find? caseId = some found at read
  rw [Table.find?_update] at read
  split at read
  · obtain ⟨_, -, rfl⟩ := Option.map_eq_some_iff.mp read
    exact .inr (derived.mono grow.archive)
  · exact .inl read

/-- A failure is recorded under the first number of its case, or the next one. -/
theorem failed (accounted : Accounted deployment setting records) {event : PaymentFailureEvent}
    {failures : Table PaymentFailureEvent.paymentId}
    (inserted
      : records.store.paymentFailures.insert? (PostgresCaseStore.failureRow event) = some failures)
    (stored : ∃ case, records.case? event.caseId = some case)
    (reported : ∃ entity, Reported setting.served entity event)
    (next : ∀ k, 1 ≤ k → k < event.attemptNumber → k ∈ records.attempts event.caseId)
    : Accounted deployment setting
        ⟨{ records.store with paymentFailures := failures }, records.log⟩ := by
  have grow := Records.Grow.failed inserted
  have rows := (Table.insert?_some inserted).2
  have split (event' : PaymentFailureEvent) (member : event' ∈ failures.rows)
      : event' ∈ records.store.paymentFailures.rows
        ∨ event' = PostgresCaseStore.failureRow event := by
    rw [rows] at member
    simpa using member
  refine ⟨⟨accounted.sound.log, accounted.sound.off⟩, accounted.booked, ?_, ?_, ?_, ?_, ?_⟩
  · intro caseId n recorded k positive bound
    obtain ⟨event', member, named, numbered⟩ := Records.mem_attempts.mp recorded
    rcases split event' member with old | rfl
    · exact grow.attempts caseId
        (accounted.gapless caseId n (Records.mem_attempts.mpr ⟨event', old, named, numbered⟩) k
          positive bound)
    · by_cases last : k = n
      · exact last ▸ recorded
      · have owned : event.caseId = caseId := named
        have number : event.attemptNumber = n := numbered
        exact grow.attempts caseId (owned ▸ next k positive (by omega))
  · intro event' member
    rcases split event' member with old | rfl
    · exact accounted.filed event' old
    · exact stored
  · intro event' member
    rcases split event' member with old | rfl
    · exact accounted.reported event' old
    · exact reported
  · exact fun caseId case found => (accounted.rows caseId case found).mono grow.archive
  · exact fun item found => (accounted.archived item found).mono grow.archive

theorem decided (accounted : Accounted deployment setting records) {decision : RetryDecision}
    {decisions : Table RetryDecision.attempt}
    (inserted : records.store.retryDecisions.insert? decision = some decisions)
    (derived
      : ∀ archive,
          records.archive ⊆ archive
          → .decision decision ∈ archive
          → Derived deployment.config setting archive (.decision decision))
    : Accounted deployment setting
        ⟨{ records.store with retryDecisions := decisions }, records.log⟩ := by
  have grow := Records.Grow.decided inserted
  have rows := (Table.insert?_some inserted).2
  refine accounted.grow grow ⟨accounted.sound.log, accounted.sound.off⟩ accounted.booked rfl
    (fun caseId case stored => .inl stored) fun item stored => ?_
  cases item with
  | decision decision' =>
      have member : decision' ∈ decisions.rows := stored
      rw [rows] at member
      rcases List.mem_append.mp member with old | new
      · exact .inl old
      · cases List.mem_singleton.mp new
        exact .inr (derived _ grow.archive stored)
  | row case => exact .inl stored
  | entry entry => exact .inl stored
  | effect effect => exact .inl stored

theorem committed (accounted : Accounted deployment setting records) {row : EtcdRow Effect}
    {log : EtcdStore Effect} (inserted : records.log.insert? row = some log)
    (sound : (Records.mk records.store log).shared.Sound deployment)
    (derived
      : ∀ archive,
          records.archive ⊆ archive
          → .effect row.value ∈ archive
          → Derived deployment.config setting archive (.effect row.value))
    : Accounted deployment setting ⟨records.store, log⟩ := by
  have grow := Records.Grow.committed inserted
  have rows := (Table.insert?_some inserted).2
  refine accounted.grow grow sound accounted.booked rfl (fun caseId case stored => .inl stored)
    fun item stored => ?_
  cases item with
  | effect effect =>
      obtain ⟨row', member, same⟩ := stored
      have member : row' ∈ log.rows := member
      rw [rows] at member
      rcases List.mem_append.mp member with old | new
      · exact .inl ⟨row', old, same⟩
      · cases List.mem_singleton.mp new
        exact .inr (same ▸ derived _ grow.archive ⟨row, Table.mem_of_insert? inserted, rfl⟩)
  | row case => exact .inl stored
  | entry entry => exact .inl stored
  | decision decision => exact .inl stored

/-- An entry is accepted under the next number of the ledger only, and then it is linked to the
last entry of its case.
-/
theorem logged (accounted : Accounted deployment setting records) {entry : AuditEntry} {id : Nat}
    {hash : Option String} {entries : Table AuditEntry.sequenceId} (fresh : entry.Fresh)
    (inserted
      : records.store.auditEntries.insert? ({ entry with sequenceId := some id }.linked hash)
        = some entries)
    (positive : 1 ≤ id) (bound : id ≤ records.store.auditEntries.rows.length + 1)
    (current
      : id = records.store.auditEntries.rows.length + 1
        → hash = records.store.lastEntryHash entry.caseId)
    (derived
      : ∀ archive,
          records.archive ⊆ archive
          → .entry entry ∈ archive
          → Derived deployment.config setting archive (.entry entry))
    : Accounted deployment setting
        ⟨{ records.store with auditEntries := entries }, records.log⟩ := by
  obtain ⟨ledger, holds⟩ := accounted.booked
  have grow := Records.Grow.logged inserted
  have rows := (Table.insert?_some inserted).2
  have length : records.store.auditEntries.rows.length = ledger.entries.length := by rw [holds]
  have last : id = ledger.entries.length + 1 := by
    by_contra earlier
    have number : ({ entry with sequenceId := some id }.linked hash).sequenceId = some id := rfl
    have taken := holds.insertAudit_taken number positive (by omega)
    simp [PostgresCaseStore.insertAudit, inserted] at taken
  have linked : hash = ledger.lastEntryHash entry.caseId := by
    rw [current (by omega), holds.lastEntryHash]
  have next : { entry with sequenceId := some id }.linked hash = ledger.next entry := by
    rw [last, linked]
    rfl
  have bare : ({ entry with sequenceId := some id }.linked hash).bare = entry := fresh
  have booked : PostgresCaseStore.Holds { records.store with auditEntries := entries }
      (ledger.append entry) := by
    change entries.rows = ledger.entries ++ [ledger.next entry]
    rw [rows, next, holds]
  refine accounted.grow grow ⟨accounted.sound.log, accounted.sound.off⟩ ⟨_, booked⟩ rfl
    (fun caseId case stored => .inl stored) fun item stored => ?_
  cases item with
  | entry entry' =>
      obtain ⟨logged, member, same⟩ := stored
      have member : logged ∈ entries.rows := member
      rw [rows] at member
      rcases List.mem_append.mp member with old | new
      · exact .inl ⟨logged, old, same⟩
      · cases List.mem_singleton.mp new
        cases bare.symm.trans same
        exact .inr (derived _ grow.archive ⟨_, Table.mem_of_insert? inserted, bare⟩)
  | row case => exact .inl stored
  | decision decision => exact .inl stored
  | effect effect => exact .inl stored

end Accounted

section Serves

variable {deployment : Deployment} {setting : Setting} {known : Set Finding} {own : Worker}
  {records : Records}

/-- A worker whose clock, if the run is timed, does not go back. -/
def Worker.Fit (setting : Setting) (own : Worker) : Prop := setting.timed → own.clock.Nondecreasing

/-- What an operation leaves: an account of more, and what the reply tells. -/
structure Upkeep (deployment : Deployment) (setting : Setting) (known : Set Finding) (op : Op)
    (own : Worker) (records : Records) (reply : Res op) (own' : Worker) (later : Records)
    : Prop where
  accounted : Accounted deployment setting later
  grow : records.Grow later
  fit : own'.Fit setting
  clock : setting.timed → ∀ k, own.clock.reading k ≤ own'.clock.reading k
  learned
    : ∀ finding ∈ Finding.learned known op reply,
        finding.Holds deployment.config setting own' later

/-- A reply to an operation that leaves the records as they are, and the clock. -/
theorem Upkeep.read {op : Op} {reply : Res op} {own' : Worker} (fit : own.Fit setting)
    (accounted : Accounted deployment setting records) (clock : own'.clock = own.clock)
    (learned
      : ∀ finding ∈ Finding.learned known op reply,
          finding.Holds deployment.config setting own' records)
    : Upkeep deployment setting known op own records reply own' records where
  accounted := accounted
  grow := .refl records
  fit timed := clock ▸ fit timed
  clock _ _ := by rw [clock]
  learned := learned

/-- A reply after which the records have grown. -/
theorem Upkeep.write {op : Op} {reply : Res op} {later : Records} (fit : own.Fit setting)
    (accounted : Accounted deployment setting later) (grow : records.Grow later)
    (learned
      : ∀ finding ∈ Finding.learned known op reply,
          finding.Holds deployment.config setting own later)
    : Upkeep deployment setting known op own records reply own later where
  accounted := accounted
  grow := grow
  fit := fit
  clock _ _ := le_rfl
  learned := learned

/-- What a row says of the case that was read. -/
theorem Accounted.holds_row (accounted : Accounted deployment setting records) {caseId : String}
    {case : RecoveryCase} (stored : records.case? caseId = some case)
    : Finding.Holds deployment.config setting own records (.row caseId case) :=
  ⟨Records.case?_caseId stored, accounted.rows caseId case stored, case, stored, .refl case⟩

theorem served_holds
    (facts : ∀ finding ∈ known, finding.Holds deployment.config setting own records)
    : served known ⊆ setting.served :=
  fun _ serving => facts _ serving

/-- A cited deed is one on a version that has come about, for the case that is stored. -/
theorem Cited.derived {case' : RecoveryCase} {entries : List AuditEntry}
    (cited : Cited deployment.config known case' entries)
    (facts : ∀ finding ∈ known, finding.Holds deployment.config setting own records)
    : ∃ grounds case,
        Derived deployment.config setting records.archive (.row case)
        ∧ grounds.Sound setting case
        ∧ (∀ effect ∈ grounds.effects,
            Derived deployment.config setting records.archive (.effect effect))
        ∧ Deed deployment.config grounds case case' entries
        ∧ ∃ current, records.case? case.caseId = some current ∧ SameCase case current := by
  obtain ⟨caseId, case, found, deed⟩ := cited
  obtain ⟨rfl, derived, current⟩ := facts _ found
  refine ⟨_, case, derived, ⟨served_holds facts, fun text read => Set.mem_singleton_iff.mp read,
    fun mandateId held => ?_, fun effect approval => ?_⟩, fun effect approval => ?_, deed, current⟩
  · exact (facts _ held).symm
  · exact (facts _ approval).1
  · exact (facts _ approval).2

/-- A deed is about its case. -/
theorem Deed.sameCase {config : AppConfig} {grounds : Grounds} {case case' : RecoveryCase}
    {entries : List AuditEntry} (deed : Deed config grounds case case' entries)
    : SameCase case case' := by
  cases deed with
  | succeeded event clock => exact handlePaymentSuccess_sameCase case clock event
  | failed reported named held handled =>
      exact (handleExistingFailure_answer case config _ handled).sameCase
  | noticed asked read sent =>
      rw [sent.case_eq]
      exact ⟨rfl, rfl, rfl, rfl, rfl⟩
  | released fired =>
      exact (@trigger_transition case config _ _ _ .released _ _ _ _ _ fired).sameCase
  | executed | distressed | resolved => exact ⟨rfl, rfl, rfl, rfl, rfl⟩

/-- Both versions of a case are about the same one. -/
theorem StateMachine.SameCase.of_common {case case' current : RecoveryCase}
    (first : SameCase case current) (second : SameCase case case')
    : SameCase current case' where
  caseId := second.caseId.trans first.caseId.symm
  mandateId := second.mandateId.trans first.mandateId.symm
  instrumentId := second.instrumentId.trans first.instrumentId.symm
  originalAmount := second.originalAmount.trans first.originalAmount.symm
  bucket := second.bucket.trans first.bucket.symm

/-- All attempts up to the highest one of a case are recorded. -/
theorem Accounted.holds_counted (accounted : Accounted deployment setting records)
    (caseId : String)
    : Finding.Holds deployment.config setting own records
        (.counted caseId (records.store.getMaxAttemptNumber caseId)) := by
  intro n positive bound
  have highest : (records.attempts caseId).foldl max 0 ∈ 0 :: records.attempts caseId :=
    List.max?_mem List.max?_cons'
  have bound : n ≤ (records.attempts caseId).foldl max 0 := bound
  rcases List.mem_cons.mp highest with none | last
  · omega
  · exact accounted.gapless caseId _ last n positive bound

section Operations

variable (fit : own.Fit setting) (accounted : Accounted deployment setting records)
  (facts : ∀ finding ∈ known, finding.Holds deployment.config setting own records)

include fit accounted

theorem upkeep_createCase {case : RecoveryCase}
    (facts : ∀ finding ∈ known, finding.Holds deployment.config setting own records)
    (permitted : Finding.permitted deployment.config known (.createCase case))
    : ∃ later,
        (World.shares deployment (.createCase case) (own, records.shared)).2 = (own, later.shared)
        ∧ Upkeep deployment setting known (.createCase case) own records
            (World.shares deployment (.createCase case) (own, records.shared)).1 own later := by
  obtain ⟨entity, event, clock, event', entries, reported, first, handled⟩ := permitted
  rcases Records.shares_createCase deployment own records case with
    ⟨cases, inserted, created⟩ | ⟨raised, refused⟩
  · rw [created]
    have derived : Derived deployment.config setting records.archive (.row case) :=
      .opened (reported.mono (served_holds facts)) first handled
    have account := accounted.opened inserted derived
    refine ⟨_, rfl, .write fit account (.opened inserted) ?_⟩
    rintro finding rfl
    refine account.holds_row ?_
    change cases.find? case.caseId = some case
    rw [Table.find?_insert inserted, if_pos rfl]
  · rw [refused]
    exact ⟨records, rfl, .read fit accounted rfl fun _ member => member.elim⟩

theorem upkeep_commitEffect {caseId : String} {attempt : Nat} {effect : Effect}
    (facts : ∀ finding ∈ known, finding.Holds deployment.config setting own records)
    (permitted : Finding.permitted deployment.config known (.commitEffect caseId attempt effect))
    : ∃ later,
        (World.shares deployment (.commitEffect caseId attempt effect) (own, records.shared)).2
          = (own, later.shared)
        ∧ Upkeep deployment setting known (.commitEffect caseId attempt effect) own records
            (World.shares deployment (.commitEffect caseId attempt effect)
              (own, records.shared)).1 own later := by
  obtain ⟨segment, case, decision, due, now, serving, rfl, found, scheduled, pending, owned,
    ordered, reached, rfl, rfl⟩ := permitted
  obtain ⟨named, derived, -⟩ := facts _ found
  have commits : Op.Commits (.commitEffect segment.text decision.attemptNumber
      (retryEffect segment.text decision now)) :=
    ⟨rfl, rfl, rfl, segment.noSlash⟩
  have sound : (World.shares deployment (.commitEffect segment.text decision.attemptNumber
      (retryEffect segment.text decision now)) (own, records.shared)).2.2.Sound deployment :=
    @Shared.Sound.answer deployment _ commits ⟨own, records.shared⟩ accounted.sound
  rcases Records.shares_commitEffect deployment own records segment.text decision.attemptNumber
    (retryEffect segment.text decision now) with ⟨log, inserted, won⟩ | ⟨refused, lost, same⟩
  · rw [won] at sound ⊢
    have committed (archive : Set Item) (more : records.archive ⊆ archive)
        (stored : .effect (retryEffect segment.text decision now) ∈ archive)
        : Derived deployment.config setting archive
            (.effect (retryEffect segment.text decision now)) := by
      rw [← named] at owned stored ⊢
      exact .committed (facts _ serving) named.symm (derived.mono more) scheduled
        (Derived.mono (facts _ pending) more) owned reached (facts _ ordered) stored
    have account := accounted.committed inserted sound committed
    refine ⟨_, rfl, .write fit account (.committed inserted) ?_⟩
    rintro finding rfl
    exact ⟨rfl, account.archived _ ⟨_, Table.mem_of_insert? inserted, rfl⟩⟩
  · rw [same]
    refine ⟨records, rfl, .read fit accounted rfl fun finding member => ?_⟩
    rcases refused with raised | _ | _
    · exact member.elim
    · exact member.elim
    · exact absurd rfl lost

theorem upkeep_insertAudit {entry : AuditEntry}
    (facts : ∀ finding ∈ known, finding.Holds deployment.config setting own records)
    (permitted : Finding.permitted deployment.config known (.insertAudit entry))
    : ∃ later,
        (World.shares deployment (.insertAudit entry) (own, records.shared)).2 = (own, later.shared)
        ∧ Upkeep deployment setting known (.insertAudit entry) own records
            (World.shares deployment (.insertAudit entry) (own, records.shared)).1 own later := by
  obtain ⟨id, hash, base, linked, rfl, fresh, justified⟩ := permitted
  obtain ⟨positive, bound, current⟩ := facts _ linked
  have derived (archive : Set Item) (more : records.archive ⊆ archive)
      (stored : .entry base ∈ archive)
      : Derived deployment.config setting archive (.entry base) := by
    cases justified with
    | deed cited member =>
        obtain ⟨grounds, case, derived, sound, approvals, deed, -⟩ := cited.derived facts
        have approvals := fun effect approval => (approvals effect approval).mono more
        exact .appended (derived.mono more) sound approvals deed member stored
    | opening reported first handled created member =>
        exact .opening (reported.mono (served_holds facts)) first handled member stored
  rcases Records.shares_insertAudit deployment own records
    ({ base with sequenceId := some id }.linked hash) with ⟨entries, inserted, won⟩ | ⟨raised, lost⟩
  · rw [won]
    have account := accounted.logged fresh inserted positive bound current derived
    refine ⟨_, rfl, .write fit account (.logged inserted) ?_⟩
    rintro finding rfl
    exact account.archived _ ⟨_, Table.mem_of_insert? inserted, rfl⟩
  · rw [lost]
    exact ⟨records, rfl, .read fit accounted rfl fun _ member => member.elim⟩

theorem upkeep_updateCase {case' : RecoveryCase}
    (facts : ∀ finding ∈ known, finding.Holds deployment.config setting own records)
    (permitted : Finding.permitted deployment.config known (.updateCase case'))
    : ∃ later,
        (World.shares deployment (.updateCase case') (own, records.shared)).2 = (own, later.shared)
        ∧ Upkeep deployment setting known (.updateCase case') own records
            (World.shares deployment (.updateCase case') (own, records.shared)).1 own later := by
  obtain ⟨entries, cited⟩ := permitted
  obtain ⟨grounds, case, derived, sound, approvals, deed, current, stored, same⟩ :=
    cited.derived facts
  have replaced : SameCase current case' := .of_common same deed.sameCase
  have stored' : records.case? case'.caseId = some current := deed.sameCase.caseId ▸ stored
  rw [Records.shares_updateCase]
  refine ⟨_, rfl, .write fit ?_ (.overwritten stored' replaced) fun _ member => member.elim⟩
  exact accounted.overwritten stored' replaced (.written derived sound approvals deed)

theorem upkeep_recordFailure {event : PaymentFailureEvent}
    (facts : ∀ finding ∈ known, finding.Holds deployment.config setting own records)
    (permitted : Finding.permitted deployment.config known (.recordFailure event))
    : ∃ later,
        (World.shares deployment (.recordFailure event) (own, records.shared)).2
          = (own, later.shared)
        ∧ Upkeep deployment setting known (.recordFailure event) own records
            (World.shares deployment (.recordFailure event) (own, records.shared)).1 own later := by
  obtain ⟨⟨case, found⟩, ⟨entity, reported⟩, number⟩ := permitted
  obtain ⟨-, -, current, stored, -⟩ := facts _ found
  rcases Records.shares_recordFailure deployment own records event with
    ⟨failures, inserted, recorded⟩ | ⟨raised, refused⟩
  · rw [recorded]
    refine ⟨_, rfl, .write fit ?_ (.failed inserted) fun _ member => member.elim⟩
    have reported := reported.mono (served_holds facts)
    refine accounted.failed inserted ⟨current, stored⟩ ⟨entity, reported⟩ fun k positive below => ?_
    rcases number with first | ⟨attempts, counted, next⟩
    · omega
    · exact facts _ counted k positive (by omega)
  · rw [refused]
    exact ⟨records, rfl, .read fit accounted rfl fun _ member => member.elim⟩

theorem upkeep_recordRetryDecision {decision : RetryDecision}
    (facts : ∀ finding ∈ known, finding.Holds deployment.config setting own records)
    (permitted : Finding.permitted deployment.config known (.recordRetryDecision decision))
    : ∃ later,
        (World.shares deployment (.recordRetryDecision decision) (own, records.shared)).2
          = (own, later.shared)
        ∧ Upkeep deployment setting known (.recordRetryDecision decision) own records
            (World.shares deployment (.recordRetryDecision decision) (own, records.shared)).1 own
            later := by
  obtain ⟨segment, draw, case, clock, case', entries, serving, found, read, sent, logged⟩ :=
    permitted
  obtain ⟨named, derived, -⟩ := facts _ found
  obtain ⟨service, rfl, unrewound⟩ := facts _ read
  rcases Records.shares_recordRetryDecision deployment own records decision with
    ⟨decisions, inserted, recorded⟩ | ⟨raised, refused⟩
  · rw [recorded]
    refine ⟨_, rfl, .write fit ?_ (.decided inserted) fun _ member => member.elim⟩
    refine accounted.decided inserted fun archive more stored => ?_
    have noticed (entry : AuditEntry) (member : entry ∈ entries)
        : Derived deployment.config setting archive (.entry entry) :=
      Derived.mono (facts _ (logged entry member)) more
    exact .decided (facts _ serving) named.symm (derived.mono more) unrewound sent noticed stored
  · rw [refused]
    exact ⟨records, rfl, .read fit accounted rfl fun _ member => member.elim⟩

theorem upkeep_readClock (readings : Nat)
    (facts : ∀ finding ∈ known, finding.Holds deployment.config setting own records)
    : ∃ own',
        (World.shares deployment (.readClock readings) (own, records.shared)).2
          = (own', records.shared)
        ∧ Upkeep deployment setting known (.readClock readings) own records own.clock.view own'
            records := by
  have later (timed : setting.timed) (n k : Nat) (le : n ≤ k)
      : own.clock.reading n ≤ own.clock.reading k :=
    add_le_add_left (fit timed _ _ (Nat.add_le_add_left le _)) _
  refine ⟨{ own with clock := own.clock.skip readings }, rfl, accounted, .refl records, fit, ?_, ?_⟩
  · intro timed k
    rw [ServiceClock.reading_skip]
    exact later timed k _ (Nat.le_add_left k readings)
  · rintro finding (rfl | rfl | ⟨earlier, read, rfl⟩)
    · exact ⟨own.clock, rfl, fit⟩
    · intro timed k
      rw [ServiceClock.reading_skip]
      exact later timed 0 _ (Nat.zero_le _)
    · exact fun timed => facts _ read timed 0

theorem upkeep_advanceClock {delta : Timedelta} (forward : 0 ≤ delta)
    : ∃ own',
        (World.shares deployment (.advanceClock delta) (own, records.shared)).2
          = (own', records.shared)
        ∧ Upkeep deployment setting known (.advanceClock delta) own records
            (World.shares deployment (.advanceClock delta) (own, records.shared)).1 own'
            records := by
  cases scale : own.clock.timeScale with
  | none =>
      refine ⟨own, ?_, .read fit accounted rfl fun _ member => member.elim⟩
      simp only [World.shares, World.answer, ServiceClock.advance, scale]
  | some factor =>
      refine ⟨{ own with clock := { own.clock with offset := own.clock.offset + delta } }, ?_, ?_⟩
      · simp only [World.shares, World.answer, ServiceClock.advance, scale]
      refine ⟨accounted, .refl records, fit, fun _ k => ?_, fun _ member => member.elim⟩
      exact Int.add_le_add_left (Int.le_add_of_nonneg_right forward) _

/-- Whatever a task asks for on what it knows, the account is kept, and what it is told is so. -/
theorem upkeep (facts : ∀ finding ∈ known, finding.Holds deployment.config setting own records)
    {op : Op} (permitted : Finding.permitted deployment.config known op)
    : ∃ own' later,
        (World.shares deployment op (own, records.shared)).2 = (own', later.shared)
        ∧ Upkeep deployment setting known op own records
            (World.shares deployment op (own, records.shared)).1 own' later := by
  have reads (own' : Worker) (clock : own'.clock = own.clock)
      (same : (World.shares deployment op (own, records.shared)).2 = (own', records.shared))
      (learned
        : ∀ finding
            ∈ Finding.learned known op (World.shares deployment op (own, records.shared)).1,
            finding.Holds deployment.config setting own' records)
      : ∃ own' later,
          (World.shares deployment op (own, records.shared)).2 = (own', later.shared)
          ∧ Upkeep deployment setting known op own records
              (World.shares deployment op (own, records.shared)).1 own' later :=
    ⟨own', records, same, .read fit accounted clock learned⟩
  cases op with
  | createCase case => exact ⟨own, upkeep_createCase fit accounted facts permitted⟩
  | updateCase case => exact ⟨own, upkeep_updateCase fit accounted facts permitted⟩
  | recordFailure event => exact ⟨own, upkeep_recordFailure fit accounted facts permitted⟩
  | recordRetryDecision decision =>
      exact ⟨own, upkeep_recordRetryDecision fit accounted facts permitted⟩
  | insertAudit entry => exact ⟨own, upkeep_insertAudit fit accounted facts permitted⟩
  | commitEffect caseId attempt effect =>
      exact ⟨own, upkeep_commitEffect fit accounted facts permitted⟩
  | readClock readings =>
      obtain ⟨own', same, upkeep⟩ := upkeep_readClock fit accounted readings facts
      exact ⟨own', records, same, upkeep⟩
  | advanceClock delta =>
      obtain ⟨own', same, upkeep⟩ := upkeep_advanceClock fit accounted permitted
      exact ⟨own', records, same, upkeep⟩
  | updateRetryDecision decision =>
      have stored : decision ∈ records.store.retryDecisions.rows :=
        Derived.stored (facts _ permitted) (by simp)
      have kept := Records.shares_updateRetryDecision deployment own records stored
      exact reads own rfl (by rw [kept]) fun _ member => member.elim
  | getCase caseId =>
      refine reads own rfl rfl ?_
      change ∀ finding ∈ Finding.learned known (.getCase caseId)
        ((records.store.getCase caseId).mapError .postgres), _
      simp only [PostgresCaseStore.getCase]
      cases stored : records.store.recoveryCases.find? caseId with
      | none => exact fun _ member => member.elim
      | some case =>
          rintro finding rfl
          exact accounted.holds_row stored
  | findCaseByMandate mandateId =>
      refine reads own rfl rfl ?_
      change ∀ finding ∈ Finding.learned known (.findCaseByMandate mandateId)
        (records.store.findCaseByMandate mandateId), _
      cases found : records.store.findCaseByMandate mandateId with
      | none => exact fun _ member => member.elim
      | some case =>
          rintro finding (rfl | rfl)
          · exact accounted.holds_row (Table.find?_of_mem (List.mem_of_find?_eq_some found))
          · have mandated : case.mandateId = mandateId := by simpa using List.find?_some found
            exact mandated
  | getMaxAttemptNumber caseId =>
      refine reads own rfl rfl ?_
      rintro finding rfl
      exact accounted.holds_counted caseId
  | getPendingRetries =>
      refine reads own rfl rfl ?_
      rintro finding ⟨decision, member, rfl⟩
      exact accounted.archived (.decision decision) (List.mem_filter.mp member).1
  | getPrefix start =>
      refine reads own rfl rfl ?_
      rintro finding ⟨caseId, effect, member, rfl, named⟩
      have member : effect ∈ records.log.getPrefix start := member
      obtain ⟨row, stored, -, same⟩ := EtcdStore.mem_getPrefix.mp member
      refine ⟨?_, accounted.archived (.effect effect) ⟨row, stored, same⟩⟩
      rcases named with named | ⟨segment, rfl⟩
      · exact named.symm
      · exact ((accounted.sound.log.mem_getPrefix segment).mp member).1
  | nextSequence =>
      refine reads own rfl rfl ?_
      rintro finding rfl
      obtain ⟨ledger, holds⟩ := accounted.booked
      have next : records.store.nextSequence = records.store.auditEntries.rows.length + 1 := by
        rw [holds.nextSequence, holds]
      refine ⟨?_, next.le⟩
      change 1 ≤ records.store.nextSequence
      omega
  | lastEntryHash caseId =>
      refine reads own rfl rfl ?_
      rintro finding ⟨id, drawn, rfl⟩
      obtain ⟨positive, bound⟩ := facts _ drawn
      exact ⟨positive, bound, fun _ => rfl⟩
  | recordDistress instrumentId now =>
      refine reads { own with distress := own.distress.recordFailure instrumentId now } rfl rfl ?_
      exact fun _ member => member.elim
  | mutateCase | findAttemptByPaymentId | failureCount | isDistressed =>
      exact reads own rfl rfl fun _ member => member.elim

end Operations

end Serves

-----------------------------------------------------------------------------------------
-- Whole runs
-----------------------------------------------------------------------------------------

theorem Records.shared_injective {records later : Records} (same : records.shared = later.shared)
    : records = later := by
  obtain ⟨store, log⟩ := records
  obtain ⟨store', log'⟩ := later
  simp only [Records.shared, Shared.mk.injEq, CaseStore.postgres.injEq] at same
  rw [same.1, same.2]

/-- The account as an invariant of tasks, and findings as facts about it. -/
def accounts (deployment : Deployment) (setting : Setting)
    : (findings deployment.config).Meaning (World.shares deployment) where
  inv shared := ∃ records : Records, shared = records.shared ∧ Accounted deployment setting records
  fit := Worker.Fit setting
  grows shared later :=
    ∀ records : Records,
      shared = records.shared → ∃ last : Records, later = last.shared ∧ records.Grow last
  holds own shared finding :=
    ∃ records : Records,
      shared = records.shared ∧ finding.Holds deployment.config setting own records
  refl shared records same := ⟨records, same, .refl records⟩
  trans shared later last first second records same := by
    obtain ⟨mid, same', grow⟩ := first records same
    obtain ⟨final, same'', grow'⟩ := second mid same'
    exact ⟨final, same'', grow.trans grow'⟩
  stable own shared later finding grows holds := by
    obtain ⟨records, same, holds⟩ := holds
    obtain ⟨last, same', grow⟩ := grows records same
    exact ⟨last, same', holds.grow grow fun _ _ => le_rfl⟩
  serves known op own shared inv fit facts permitted := by
    obtain ⟨records, rfl, accounted⟩ := inv
    have facts (finding : Finding) (member : finding ∈ known)
        : finding.Holds deployment.config setting own records := by
      obtain ⟨_, same, holds⟩ := facts finding member
      exact Records.shared_injective same ▸ holds
    obtain ⟨own', later, left, kept⟩ := upkeep fit accounted facts permitted
    rw [left]
    refine ⟨⟨later, rfl, kept.accounted⟩, kept.fit, fun start same => ?_, ?_⟩
    · exact ⟨later, rfl, Records.shared_injective same ▸ kept.grow⟩
    · rintro finding (old | new)
      · exact ⟨later, rfl, (facts finding old).grow kept.grow kept.clock⟩
      · exact ⟨later, rfl, kept.learned finding new⟩

/-- Rows in another order are the same records. -/
theorem Accounted.reorder {deployment : Deployment} {setting : Setting} {records later : Records}
    (accounted : Accounted deployment setting records) (log : later.log = records.log)
    (cases : later.case? = records.case?)
    (decisions : records.store.retryDecisions.rows.Perm later.store.retryDecisions.rows)
    (failures : later.store.paymentFailures = records.store.paymentFailures)
    (audit : later.store.auditEntries = records.store.auditEntries)
    : Accounted deployment setting later ∧ records.Grow later := by
  have grow : records.Grow later := {
    cases := fun caseId case stored => ⟨case, cases ▸ stored, .refl case⟩
    decisions := decisions.subset
    failures := failures ▸ List.prefix_rfl
    audit := audit ▸ List.prefix_rfl
    log := log ▸ List.prefix_rfl
  }
  refine ⟨accounted.grow grow ⟨?_, ?_⟩ ?_ failures (fun caseId case stored => ?_)
    fun item stored => ?_, grow⟩
  · change SoundLog later.log
    exact log.symm ▸ accounted.sound.log
  · exact fun off => log.trans (accounted.sound.off off)
  · obtain ⟨ledger, holds⟩ := accounted.booked
    exact ⟨ledger, by unfold PostgresCaseStore.Holds; rw [audit]; exact holds⟩
  · exact .inl (cases ▸ stored)
  · refine .inl ?_
    cases item with
    | row case => exact stored
    | decision decision => exact decisions.mem_iff.mpr stored
    | entry entry =>
        obtain ⟨logged, member, same⟩ := stored
        exact ⟨logged, audit ▸ member, same⟩
    | effect effect =>
        obtain ⟨row, member, same⟩ := stored
        exact ⟨row, log ▸ member, same⟩

namespace Fleet

variable (deployment : Deployment) {setting : Setting} {workers : Workers Unit}

/-- No worker that begins a task has a clock that goes back. -/
def Unrewound : Event → Prop
  | .begin worker _ => worker.clock.Nondecreasing
  | _ => True

/-- The requests that are begun in a run. -/
def requests (events : List Event) : Set Request :=
  {request | ∃ worker, .begin worker (.request request) ∈ events}

/-- The event is one of a run in the setting. -/
def Admitted (setting : Setting) (event : Event) : Prop :=
  (setting.timed → Unrewound event)
  ∧ ∀ worker request, event = .begin worker (.request request) → request ∈ setting.served

/-- Whatever happens, the account is kept, and nothing is lost. -/
theorem upheld_handle (upheld : (accounts deployment setting).Upheld workers) {event : Event}
    (admitted : Admitted setting event)
    : (accounts deployment setting).Upheld (handle deployment workers event)
      ∧ (accounts deployment setting).grows workers.shared
          (handle deployment workers event).shared := by
  obtain ⟨records, same, accounted⟩ := upheld.inv
  cases event with
  | step i => exact upheld.step i
  | begin worker task =>
      refine ⟨upheld.start ?_, (accounts deployment setting).refl _⟩
      have cases_eq : workers.shared.store.listCases = records.store.recoveryCases.rows := by
        rw [same]
        rfl
      refine Knowledge.Meaning.grounded_of_acts admitted.1 ?_ (cites_task deployment _ task)
      rintro finding (⟨request, rfl, rfl⟩ | ⟨case, member, rfl⟩)
      · exact ⟨records, same, admitted.2 worker request rfl⟩
      · have stored : records.case? case.caseId = some case :=
          Table.find?_of_mem (cases_eq ▸ member)
        exact ⟨records, same, accounted.holds_row stored⟩
  | reorder cases decisions =>
      obtain ⟨later, reordered, log, kept, perm, failures, audit⟩ :=
        records.exists_reorder cases decisions
      obtain ⟨accounted', grow⟩ := accounted.reorder log kept perm failures audit
      have left : (handle deployment workers (.reorder cases decisions)).shared = later.shared := by
        simp only [handle, same, reordered]
        rw [Records.shared, log]
        rfl
      refine ⟨upheld.shift ⟨later, left, accounted'⟩ ?_, ?_⟩
      all_goals
        intro start from_
        exact ⟨later, left, Records.shared_injective (same.symm.trans from_) ▸ grow⟩

/-- A run keeps the account, by induction over its events. -/
theorem upheld_foldl (upheld : (accounts deployment setting).Upheld workers) (events : List Event)
    (admitted : ∀ event ∈ events, Admitted setting event)
    : (accounts deployment setting).Upheld (events.foldl (handle deployment) workers)
      ∧ (accounts deployment setting).grows workers.shared
          (events.foldl (handle deployment) workers).shared := by
  induction events generalizing workers with
  | nil => exact ⟨upheld, (accounts deployment setting).refl _⟩
  | cons event rest ih =>
      obtain ⟨first, later⟩ := List.forall_mem_cons.mp admitted
      obtain ⟨upheld', grows⟩ := upheld_handle deployment upheld first
      obtain ⟨last, grows'⟩ := ih upheld' later
      exact ⟨last, (accounts deployment setting).trans _ _ _ grows grows'⟩

theorem upheld_run {events : List Event} (admitted : ∀ event ∈ events, Admitted setting event)
    : (accounts deployment setting).Upheld (run deployment events) := by
  refine (upheld_foldl deployment ⟨⟨{}, rfl, .start⟩, ?_⟩ events admitted).1
  simp [start, Workers.start]

/-- However the tasks interleave, the records are accounted for, by the requests that were begun. -/
theorem accounted_run (timed : Prop) (events : List Event)
    (unrewound : timed → ∀ event ∈ events, Unrewound event)
    : ∃ records : Records,
        (run deployment events).shared = records.shared
        ∧ Accounted deployment ⟨timed, requests events⟩ records := by
  refine (@upheld_run deployment ⟨timed, requests events⟩ events fun event member => ?_).inv
  refine ⟨fun timed => unrewound timed event member, ?_⟩
  rintro worker request rfl
  exact ⟨worker, member⟩

/-- Between any two states of a run nothing is lost. -/
theorem grow_run (events more : List Event)
    : ∃ records later : Records,
        (run deployment events).shared = records.shared
        ∧ (run deployment (events ++ more)).shared = later.shared
        ∧ records.Grow later := by
  have admitted (event : Event) : Admitted ⟨False, Set.univ⟩ event :=
    ⟨False.elim, fun _ _ _ => trivial⟩
  have upheld := @upheld_run deployment _ events fun event _ => admitted event
  obtain ⟨records, same, -⟩ := upheld.inv
  obtain ⟨-, grows⟩ := upheld_foldl deployment upheld more fun event _ => admitted event
  obtain ⟨later, same', grow⟩ := grows records same
  exact ⟨records, later, same, by rw [run, List.foldl_append]; exact same', grow⟩

end Fleet

end RecoveryAgent
