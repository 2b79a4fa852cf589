import RecoveryAgent.Core.RetryCap
import RecoveryAgent.Store.Interchange
import RecoveryAgent.Store.RowStore

/-! What the Postgres case store reads back.
A record that is stored comes back equal exactly if its values fit the columns, and a failure only
if JSONB keeps its notes.
-/

namespace RecoveryAgent

namespace PostgresRows

variable {database : Database} {rows : PostgresRows}

/-- A method that runs one statement has the outcomes of the statement. -/
theorem exists_ok_bind {ε β γ δ : Type} {statement : Except ε β} {write : β → γ}
    {holds : γ → δ → Prop}
    : (∃ rows' read, (do return write (← statement)) = Except.ok rows' ∧ holds rows' read)
      ↔ ∃ table read, statement = .ok table ∧ holds (write table) read := by
  cases statement <;> simp [bind, Except.bind, pure, Except.pure]

/-- There is a row under the case id. -/
def hasCase (rows : PostgresRows) (caseId : String) : Bool :=
  rows.recoveryCases.rows.any (meets Schema.recoveryCases [("case_id", .text caseId)])

/-- The case that is created is read back. -/
def CaseCreated (database : Database) (rows : PostgresRows) (case : RecoveryCase) : Prop :=
  ∃ rows' read,
    rows.createCase database case = .ok rows'
    ∧ rows'.getCase case.caseId = .ok read
    ∧ read = case

/-- The case that is updated is read back. -/
def CaseUpdated (database : Database) (rows : PostgresRows) (case : RecoveryCase) : Prop :=
  ∃ rows' read,
    rows.updateCase database case = .ok rows'
    ∧ rows'.getCase case.caseId = .ok read
    ∧ read = case

/-- A row of a case begins with its id. -/
theorem meets_caseId (database : Database) (caseId : String) (cell : Cell) (row : Row)
    : meets Schema.recoveryCases [("case_id", .text caseId)] (cell :: row) = true
      ↔ database.store .text (.text caseId) = some cell := by
  rw [← equals_text_iff database]
  simp [meets, Schema.recoveryCases, cellOf_self]

/-- A case is read back from the cells of its values exactly if these fit. -/
theorem case_iff {case : RecoveryCase}
    : (∃ row read,
          database.dialect.cells Schema.recoveryCases case.insertValues = some row
          ∧ rowToCase row = some read
          ∧ read = case)
      ↔ case.FitsColumns := by
  constructor
  · rintro ⟨row, _, stored, _⟩
    exact RecoveryCase.fits_of_cells stored
  · exact fun fits => ⟨_, case, RecoveryCase.cells_eq fits, case.rowToCase_row fits, rfl⟩

/-- What a case's row is selected by is sent, and selects it. -/
theorem case_selected {case : RecoveryCase} {row : Row}
    (stored : database.dialect.cells Schema.recoveryCases case.insertValues = some row)
    : ([("case_id", Param.text case.caseId)].map (·.2)).all Param.sent = true
      ∧ meets Schema.recoveryCases [("case_id", .text case.caseId)] row = true := by
  obtain ⟨cell, here, taken⟩ := Dialect.cells_getElem? _ stored 0 rfl rfl
  cases row with
  | nil => cases here
  | cons first rest =>
      cases here
      have sent : (Param.text case.caseId).sent = true :=
        @sent_of_store database .text _ _ taken
      exact ⟨by simpa using sent, (meets_caseId database _ _ _).mpr taken⟩

theorem caseCreated_iff {case : RecoveryCase} (fresh : rows.hasCase case.caseId = false)
    : CaseCreated database rows case ↔ case.FitsColumns := by
  have declared : RecoveryCase.insertNames = Schema.recoveryCases.map (·.name) := rfl
  exact exists_ok_bind.trans
    ((inserted_iff declared (by decide) rfl fresh fresh (fun _ => case_selected) (· = case)).trans
      case_iff)

/-- The cells of one column. -/
theorem cells_singleton {column : Column ColumnType} {value : Param} {old : Row}
    : database.dialect.cells [column] [value] = some old
      ↔ ∃ cell, old = [cell] ∧ database.store column.type value = some cell := by
  simp only [Dialect.cells, Database.dialect]
  cases database.store column.type value <;> simp [eq_comm]

theorem selectsKey_case (caseId : String)
    : SelectsKey database [⟨"case_id", .text⟩] Schema.recoveryCases.tail
        [("case_id", .text caseId)] [.text caseId] where
  begins row complete selected := by
    cases row with
    | nil => cases complete
    | cons cell others =>
        exact ⟨[cell], others, rfl,
          cells_singleton.mpr ⟨cell, rfl, (meets_caseId database caseId cell others).mp selected⟩⟩
  selected old others stored := by
    obtain ⟨cell, rfl, taken⟩ := cells_singleton.mp stored
    exact (meets_caseId database caseId cell others).mpr taken

theorem caseUpdated_iff {case : RecoveryCase} (stored : rows.hasCase case.caseId = true)
    : CaseUpdated database rows case ↔ case.FitsColumns := by
  have declared : RecoveryCase.updateNames = Schema.recoveryCases.tail.map (·.name) := rfl
  exact exists_ok_bind.trans
    ((updated_iff declared (by decide) rfl (by decide) (selectsKey_case case.caseId)
      (by simp) stored (· = case)).trans case_iff)

-----------------------------------------------------------------------------------------
-- Attempts
-----------------------------------------------------------------------------------------

/-- There is a row under the attempt. -/
def hasDecision (rows : PostgresRows) (caseId : String) (attemptNumber : Nat) : Bool :=
  rows.retryDecisions.rows.any (meets Schema.retryDecisions (ofAttempt caseId attemptNumber))

/-- The decision that is recorded is read back. -/
def DecisionRecorded (database : Database) (rows : PostgresRows) (decision : RetryDecision)
    : Prop :=
  ∃ rows' read,
    rows.recordRetryDecision database decision = .ok rows'
    ∧ rows'.getRetryDecision decision.caseId decision.attemptNumber = .ok read
    ∧ read = decision

/-- The decision that is updated is read back. -/
def DecisionUpdated (database : Database) (rows : PostgresRows) (decision : RetryDecision)
    : Prop :=
  ∃ rows' read,
    rows.updateRetryDecision database decision = .ok rows'
    ∧ rows'.getRetryDecision decision.caseId decision.attemptNumber = .ok read
    ∧ read = decision

/-- A row under an attempt begins with its case and its number. -/
theorem meets_attempt {columns : List (Column ColumnType)} (database : Database)
    (caseId : String) (attemptNumber : Nat) (first second : Cell) (row : Row)
    : meets (⟨"case_id", .text⟩ :: ⟨"attempt_number", .integer⟩ :: columns)
          (ofAttempt caseId attemptNumber) (first :: second :: row)
        = true
      ↔ database.store .text (.text caseId) = some first
        ∧ database.store .integer (.integer attemptNumber) = some second := by
  rw [← equals_text_iff database, ← equals_integer_iff database]
  simp [meets, ofAttempt, cellOf_self, cellOf_ne]

/-- What a row under an attempt is selected by is sent, and selects it. -/
theorem attempt_selected {columns : List (Column ColumnType)} {caseId : String}
    {attemptNumber : Nat} {values : List Param} {row : Row}
    (stored
      : database.dialect.cells
          (⟨"case_id", .text⟩ :: ⟨"attempt_number", .integer⟩ :: columns)
          (.text caseId :: .integer attemptNumber :: values)
        = some row)
    : ((ofAttempt caseId attemptNumber).map (·.2)).all Param.sent = true
      ∧ meets (⟨"case_id", .text⟩ :: ⟨"attempt_number", .integer⟩ :: columns)
            (ofAttempt caseId attemptNumber) row
          = true := by
  obtain ⟨first, here, taken⟩ := Dialect.cells_getElem? _ stored 0 rfl rfl
  obtain ⟨second, next, takenNext⟩ := Dialect.cells_getElem? _ stored 1 rfl rfl
  match row, here, next with
  | first' :: second' :: row, here, next =>
      cases here
      cases next
      have sent : (Param.text caseId).sent = true := @sent_of_store database .text _ _ taken
      exact ⟨by simp [ofAttempt, sent],
        (meets_attempt database _ _ _ _ _).mpr ⟨taken, takenNext⟩⟩

/-- A decision is read back from the cells of its values exactly if these fit. -/
theorem decision_iff {decision : RetryDecision}
    : (∃ row read,
          database.dialect.cells Schema.retryDecisions decision.insertValues = some row
          ∧ rowToDecision row = some read
          ∧ read = decision)
      ↔ decision.FitsColumns := by
  constructor
  · rintro ⟨row, _, stored, _⟩
    exact RetryDecision.fits_of_cells stored
  · exact fun fits =>
      ⟨_, decision, RetryDecision.cells_eq fits, decision.rowToDecision_row fits, rfl⟩

theorem decisionRecorded_iff {decision : RetryDecision}
    (fresh : rows.hasDecision decision.caseId decision.attemptNumber = false)
    : DecisionRecorded database rows decision ↔ decision.FitsColumns := by
  have declared : RetryDecision.insertNames = Schema.retryDecisions.map (·.name) := rfl
  exact exists_ok_bind.trans
    ((inserted_iff declared (by decide) rfl fresh fresh (fun _ => attempt_selected)
      (· = decision)).trans decision_iff)

/-- The cells of two columns. -/
theorem cells_pair {column column' : Column ColumnType} {value value' : Param} {old : Row}
    : database.dialect.cells [column, column'] [value, value'] = some old
      ↔ ∃ first second,
          old = [first, second]
          ∧ database.store column.type value = some first
          ∧ database.store column'.type value' = some second := by
  simp only [Dialect.cells, Database.dialect]
  cases database.store column.type value <;> cases database.store column'.type value' <;>
    simp [eq_comm]

theorem selectsKey_attempt {columns : List (Column ColumnType)} (caseId : String)
    (attemptNumber : Nat)
    : SelectsKey database [⟨"case_id", .text⟩, ⟨"attempt_number", .integer⟩] columns
        (ofAttempt caseId attemptNumber) [.text caseId, .integer attemptNumber] where
  begins row complete selected := by
    match row, complete, selected with
    | first :: second :: others, _, selected =>
        obtain ⟨taken, takenNext⟩ := (meets_attempt database caseId attemptNumber _ _ _).mp selected
        exact ⟨[first, second], others, rfl,
          cells_pair.mpr ⟨first, second, rfl, taken, takenNext⟩⟩
  selected old others stored := by
    obtain ⟨first, second, rfl, taken⟩ := cells_pair.mp stored
    exact (meets_attempt database caseId attemptNumber first second others).mpr taken

theorem decisionUpdated_iff {decision : RetryDecision}
    (stored : rows.hasDecision decision.caseId decision.attemptNumber = true)
    : DecisionUpdated database rows decision ↔ decision.FitsColumns := by
  have declared : RetryDecision.updateNames = (Schema.retryDecisions.drop 2).map (·.name) := rfl
  exact exists_ok_bind.trans
    ((updated_iff declared (by decide) rfl (by decide)
      (selectsKey_attempt decision.caseId decision.attemptNumber) (by simp [ofAttempt]) stored
      (· = decision)).trans decision_iff)

-----------------------------------------------------------------------------------------
-- Failures
-----------------------------------------------------------------------------------------

/-- There is a row of the payment. -/
def hasPayment (rows : PostgresRows) (paymentId : String) : Bool :=
  rows.paymentFailures.rows.any
    (meets Schema.paymentFailures [("payment_id", .text paymentId)])

/-- There is a failure under the attempt. -/
def hasFailure (rows : PostgresRows) (caseId : String) (attemptNumber : Nat) : Bool :=
  rows.paymentFailures.rows.any
    (meets Schema.paymentFailures (ofAttempt caseId attemptNumber))

/-- The failure that is recorded is read back, its notes as an equal dictionary. A payment or a
mandate that is no text never is, since what is read is text.
-/
def FailureRecorded (database : Database) (rows : PostgresRows) (failure : SentFailure) : Prop :=
  ∃ rows' read,
    rows.recordFailure database failure = .ok rows'
    ∧ rows'.getFailure failure.event.caseId failure.event.attemptNumber = .ok read
    ∧ ∃ event, failure.Is event ∧ read.Equal event

/-- An event is read back from the cells of its values exactly if these fit, and its notes are
kept.
-/
theorem failure_iff {event : PaymentFailureEvent}
    : (∃ row read,
          database.dialect.cells Schema.paymentFailures event.insertValues = some row
          ∧ rowToFailure row = some read
          ∧ read.Equal event)
      ↔ event.FitsColumns ∧ NotesKept event.notes := by
  constructor
  · rintro ⟨row, read, stored, mapped, equal⟩
    exact PaymentFailureEvent.fits_of_equal stored mapped equal
  · rintro ⟨fits, kept⟩
    obtain ⟨row, notes, stored, mapped, equal⟩ :=
      @PaymentFailureEvent.exists_row database event fits
    exact ⟨row, _, stored, mapped, rfl, kept.read_equal equal⟩

theorem failureRecorded_iff {failure : SentFailure}
    (unpaid : ∀ paymentId, failure.payment = .str paymentId → rows.hasPayment paymentId = false)
    (fresh : rows.hasFailure failure.event.caseId failure.event.attemptNumber = false)
    : FailureRecorded database rows failure
      ↔ ∃ event, failure.Is event ∧ event.FitsColumns ∧ NotesKept event.notes := by
  have declared : PaymentFailureEvent.insertNames = Schema.paymentFailures.map (·.name) := rfl
  have recorded {event : PaymentFailureEvent} (same : failure.Is event)
      : (∃ rows' read,
            rows.recordFailure database failure = .ok rows'
            ∧ rows'.getFailure failure.event.caseId failure.event.attemptNumber = .ok read
            ∧ read.Equal event)
        ↔ event.FitsColumns ∧ NotesKept event.notes := by
    have unpaid := unpaid event.paymentId same.payment
    have caseId : failure.event.caseId = event.caseId := congrArg (·.caseId) same.rest.symm
    have attemptNumber : failure.event.attemptNumber = event.attemptNumber :=
      congrArg (·.attemptNumber) same.rest.symm
    rw [caseId, attemptNumber] at fresh ⊢
    have key : database.asText failure.payment = .text event.paymentId := by
      rw [same.payment]
      rfl
    unfold recordFailure
    rw [key, same.insertValues]
    exact exists_ok_bind.trans
      ((inserted_iff declared (by decide) rfl unpaid fresh (fun _ => attempt_selected)
        fun read : PaymentFailureEvent => read.Equal event).trans failure_iff)
  constructor
  · rintro ⟨rows', read, taken, found, event, same, equal⟩
    exact ⟨event, same, (recorded same).mp ⟨rows', read, taken, found, equal⟩⟩
  · rintro ⟨event, same, fits⟩
    obtain ⟨rows', read, taken, found, equal⟩ := (recorded same).mpr fits
    exact ⟨rows', read, taken, found, event, same, equal⟩

-----------------------------------------------------------------------------------------
-- Audit entries
-----------------------------------------------------------------------------------------

/-- The rows of the audit table are those of entries, as every append leaves them. -/
def Readable (rows : PostgresRows) : Prop :=
  ∀ row ∈ rows.auditEntries.rows, ∃ entry, rowToAudit row = some entry

/-- There is an entry under the sequence id. -/
def hasEntry (rows : PostgresRows) (sequenceId : Nat) : Bool :=
  rows.auditEntries.rows.any (meets Schema.auditEntries [("sequence_id", .integer sequenceId)])

/-- The entry that is appended is read back, as the call left it, and the rows stay readable. -/
def EntryAppended (database : Database) (rows : PostgresRows) (entry : AuditEntry) : Prop :=
  ∃ rows' trail,
    rows.appendAudit database entry = .ok rows'
    ∧ rows'.Readable
    ∧ rows'.getAuditTrail entry.caseId = .ok trail
    ∧ rows.taken entry ∈ trail

/-- A row is under a sequence id if that is what its first cell holds. -/
theorem sequenceOf_of_meets {row : Row} {n : Nat}
    (met : meets Schema.auditEntries [("sequence_id", .integer n)] row = true)
    : sequenceOf row = n := by
  cases row with
  | nil => simp [meets, cellOf] at met
  | cons cell row =>
      simp only [meets, Schema.auditEntries, cellOf_self, List.all_cons, List.all_nil,
        Bool.and_true, Option.any_some] at met
      simp only [sequenceOf, Schema.auditEntries, cellOf_self, Option.bind_some]
      cases cell with
      | integer held =>
          have same : held.value = n := by simpa [Cell.equals, Param.integer] using met
          simp [Cell.nat?, Cell.integer?, same]
      | _ => cases met

/-- The next sequence id is above all that are taken. -/
theorem nextSequence_fresh (rows : PostgresRows) : rows.hasEntry rows.nextSequence = false := by
  rw [hasEntry, List.any_eq_false]
  intro row member met
  have listed : rows.nextSequence ∈ rows.auditEntries.rows.map sequenceOf :=
    List.mem_map.mpr ⟨row, member, sequenceOf_of_meets met⟩
  exact absurd (InMemoryCaseStore.le_foldl_max (.inr listed)) (Nat.not_succ_le_self _)

/-- The entry that is taken has the number it was given, or the next. -/
theorem taken_sequenceId (rows : PostgresRows) (entry : AuditEntry)
    : (rows.taken entry).sequenceId = some (entry.sequenceId.getD rows.nextSequence) :=
  rfl

theorem clean_hexdigest (text : String) : Clean (Sha256.hexdigest text) := by
  intro nul
  rw [Sha256.hexdigest, String.toList_ofList] at nul
  exact (Sha256.hexDigits_ascii _ _ _ nul).1 rfl

/-- What the store adds to an entry has no NUL character. -/
theorem taken_inserts {entry : AuditEntry}
    (sequence : FitsInteger (entry.sequenceId.getD rows.nextSequence))
    (fits : entry.FitsColumns)
    : (rows.taken entry).Inserts (entry.sequenceId.getD rows.nextSequence) where
  numbered := rfl
  sequence := sequence
  fits := ⟨fits.caseId, fits.ruleFired, fits.ruleVersion⟩
  prevHash hash given := by
    obtain ⟨held, _, rfl⟩ := Option.map_eq_some_iff.mp given
    exact held.clean
  entryHash hash given := by
    rw [taken, AuditEntry.linked] at given
    rw [← Option.some.inj given]
    exact clean_hexdigest _

/-- A row of an entry is selected by its case. -/
theorem meets_entry {entry : AuditEntry} {row : Row}
    (stored : database.dialect.cells Schema.auditEntries entry.insertValues = some row)
    : meets Schema.auditEntries [("case_id", .text entry.caseId)] row = true := by
  obtain ⟨second, next, taken⟩ := Dialect.cells_getElem? _ stored 1 rfl rfl
  match row, next with
  | first :: second' :: row, next =>
      cases next
      have equal := (equals_text_iff database).mpr taken
      simp [meets, Schema.auditEntries, cellOf_self, cellOf_ne, equal]

/-- Where every row is readable, so is the trail, and it has the entry of each row. -/
theorem mapM_readable {read : Row → Option AuditEntry} {rows : List Row}
    (readable : ∀ row ∈ rows, ∃ entry, read row = some entry)
    : ∃ trail,
        rows.mapM read = some trail
        ∧ ∀ row ∈ rows, ∀ entry, read row = some entry → entry ∈ trail := by
  induction rows with
  | nil => exact ⟨[], rfl, by simp⟩
  | cons row rows ih =>
      obtain ⟨entry, here⟩ := readable row List.mem_cons_self
      obtain ⟨trail, later, listed⟩ :=
        ih fun other member => readable other (List.mem_cons_of_mem _ member)
      refine ⟨entry :: trail, by simp [List.mapM_cons, here, later], ?_⟩
      refine List.forall_mem_cons.mpr ⟨?_, ?_⟩
      · rintro entry' here'
        cases here.symm.trans here'
        exact List.mem_cons_self
      · exact fun other member entry' there =>
          List.mem_cons_of_mem _ (listed other member entry' there)

theorem entryAppended_iff {entry : AuditEntry} (readable : rows.Readable)
    (fresh : ∀ n, entry.sequenceId = some n → rows.hasEntry n = false)
    : EntryAppended database rows entry
      ↔ FitsInteger (entry.sequenceId.getD rows.nextSequence) ∧ entry.FitsColumns := by
  have unnumbered : rows.hasEntry (entry.sequenceId.getD rows.nextSequence) = false := by
    cases numbered : entry.sequenceId with
    | none => exact rows.nextSequence_fresh
    | some n => exact fresh n numbered
  have declared : AuditEntry.insertNames = Schema.auditEntries.map (·.name) := rfl
  have inserted := @insertInto_cases _ _ _ (rows.taken entry).insertValues rows.auditEntries
    database declared (by decide) rfl unnumbered
  constructor
  · rintro ⟨rows', _, appended, _⟩
    rcases inserted with ⟨_, failed⟩ | ⟨row, _, stored, _⟩
    · simp [appendAudit, taken_sequenceId, Param.optional, failed, bind, Except.bind] at appended
    · obtain ⟨sequence, fits⟩ := AuditEntry.fits_of_cells (rows.taken_sequenceId entry) stored
      exact ⟨sequence, fits.caseId, fits.ruleFired, fits.ruleVersion⟩
  · rintro ⟨sequence, fits⟩
    obtain ⟨row, stored, mapped⟩ :=
      @AuditEntry.exists_row database _ _ (taken_inserts sequence fits)
    rcases inserted with ⟨refused, _⟩ | ⟨row', table, stored', accepted, appended⟩
    · cases stored.symm.trans refused
    cases stored.symm.trans stored'
    have readable' : ∀ other ∈ table.rows, ∃ entry, rowToAudit other = some entry := by
      rw [appended]
      exact List.forall_mem_append.mpr ⟨readable, by simpa using ⟨_, mapped⟩⟩
    have selected : row ∈ ({ rows with auditEntries := table } : PostgresRows).entriesOf
        entry.caseId := by
      rw [entriesOf, List.mem_mergeSort, List.mem_filter, appended]
      have met := @meets_entry database (rows.taken entry) row stored
      exact ⟨by simp, met⟩
    obtain ⟨trail, read, listed⟩ := @mapM_readable rowToAudit
      (({ rows with auditEntries := table } : PostgresRows).entriesOf entry.caseId)
      fun other member => by
        rw [entriesOf, List.mem_mergeSort, List.mem_filter] at member
        exact readable' other member.1
    refine ⟨{ rows with auditEntries := table }, trail, ?_, readable', ?_,
      listed row selected _ mapped⟩
    · simp [appendAudit, taken_sequenceId, Param.optional, accepted, bind, Except.bind, pure,
        Except.pure]
    · rw [getAuditTrail, if_pos fits.caseId, read]

-----------------------------------------------------------------------------------------
-- Round trips
-----------------------------------------------------------------------------------------

/-- What is stored is read back exactly if it fits the columns, in any store: a case that is
created or updated, a failure with identifiers that are text and notes that are kept, a decision
that is recorded or updated, and an entry that is appended. Witness: names and positions are in one
order, and every column that takes a value without a refusal gives it back, but for values that
are no text in a TEXT column, and floats that JSONB turns into other numbers.
-/
theorem roundTrip_iff (database : Database) (rows : PostgresRows)
    : (∀ case : RecoveryCase,
          rows.hasCase case.caseId = false
          → (CaseCreated database rows case ↔ case.FitsColumns))
      ∧ (∀ case : RecoveryCase,
          rows.hasCase case.caseId = true
          → (CaseUpdated database rows case ↔ case.FitsColumns))
      ∧ (∀ failure : SentFailure,
          (∀ paymentId, failure.payment = .str paymentId → rows.hasPayment paymentId = false)
          → rows.hasFailure failure.event.caseId failure.event.attemptNumber = false
          → (FailureRecorded database rows failure
            ↔ ∃ event, failure.Is event ∧ event.FitsColumns ∧ NotesKept event.notes))
      ∧ (∀ decision : RetryDecision,
          rows.hasDecision decision.caseId decision.attemptNumber = false
          → (DecisionRecorded database rows decision ↔ decision.FitsColumns))
      ∧ (∀ decision : RetryDecision,
          rows.hasDecision decision.caseId decision.attemptNumber = true
          → (DecisionUpdated database rows decision ↔ decision.FitsColumns))
      ∧ ∀ entry : AuditEntry,
          rows.Readable
          → (∀ n, entry.sequenceId = some n → rows.hasEntry n = false)
          → (EntryAppended database rows entry
            ↔ FitsInteger (entry.sequenceId.getD rows.nextSequence) ∧ entry.FitsColumns) :=
  ⟨fun _ fresh => caseCreated_iff fresh, fun _ stored => caseUpdated_iff stored,
    fun _ unpaid fresh => failureRecorded_iff unpaid fresh,
    fun _ fresh => decisionRecorded_iff fresh, fun _ stored => decisionUpdated_iff stored,
    fun _ readable fresh => entryAppended_iff readable fresh⟩

/-- A database that spells out no value that is not text, and returns documents as it keeps them.
-/
def plainDatabase : Database where
  spelled _ := none
  jsonb document := if document.storable then some document.inJsonb else none
  jsonb_equal document storable :=
    ⟨document.inJsonb, if_pos storable, Json.Equal.inJsonb_self storable⟩
  jsonb_refused document refused := if_neg (by simp [refused])

/-- A decline without notes. -/
def plainDecline : PaymentFailureEvent := { StateMachine.technicalDecline with notes := none }

theorem plainDecline_fits : plainDecline.FitsColumns where
  caseId := by decide
  attemptNumber := by decide
  paymentId := by decide
  reasonCode := by
    show Clean "upi_timeout"
    decide
  amount := by decide
  mandateId _ given := by
    cases given
    decide
  instrumentId := by decide
  errorReason := trivial
  errorSource := trivial
  errorStep := trivial
  notes := nofun

theorem firstDecision_fits : StateMachine.firstDecision.FitsColumns where
  caseId := by decide
  attemptNumber := by decide
  reasoning := by decide
  commitRef := by decide

theorem createdEntry_fits : createdEntry.FitsColumns where
  caseId := by decide
  ruleFired := by decide
  ruleVersion := by decide

/-- The store with the rows of one case and one decision. -/
def openedRows : PostgresRows where
  recoveryCases := ⟨[StorePair.openedCase.row StorePair.openedCase_fits], by decide⟩
  retryDecisions := ⟨[StateMachine.firstDecision.row firstDecision_fits], by decide⟩

/-- A case, a decline, a decision and an entry of its first attempt are all read back. -/
theorem roundTrip_iff_first
    : CaseCreated plainDatabase {} StorePair.openedCase
      ∧ CaseUpdated plainDatabase openedRows StorePair.openedCase
      ∧ FailureRecorded plainDatabase {} plainDecline.sent
      ∧ DecisionRecorded plainDatabase {} StateMachine.firstDecision
      ∧ DecisionUpdated plainDatabase openedRows StateMachine.firstDecision
      ∧ EntryAppended plainDatabase {} createdEntry := by
  have new := roundTrip_iff plainDatabase {}
  have opened := roundTrip_iff plainDatabase openedRows
  exact ⟨(new.1 _ rfl).mpr StorePair.openedCase_fits,
    (opened.2.1 _ (by decide)).mpr StorePair.openedCase_fits,
    (new.2.2.1 _ (fun _ _ => rfl) rfl).mpr
      ⟨plainDecline, .of_sent plainDecline, plainDecline_fits, fun _ given => by cases given⟩,
    (new.2.2.2.1 _ rfl).mpr firstDecision_fits,
    (opened.2.2.2.2.1 _ (by decide)).mpr firstDecision_fits,
    (new.2.2.2.2.2 _ (fun _ member => nomatch member) (fun _ _ => rfl)).mpr
      ⟨by decide, createdEntry_fits⟩⟩

/-- What is stored is read back, whatever it is: fails for an amount past 32 bits, which is
refused, and for notes without keys, which come back as None.
-/
theorem not_roundTrip
    : ¬ (∀ (database : Database) (rows : PostgresRows) (case : RecoveryCase),
          rows.hasCase case.caseId = false → CaseCreated database rows case)
      ∧ ¬ ∀ (database : Database) (rows : PostgresRows) (event : PaymentFailureEvent),
          rows.hasPayment event.paymentId = false
          → rows.hasFailure event.caseId event.attemptNumber = false
          → FailureRecorded database rows event.sent := by
  constructor
  · intro created
    have stored := created plainDatabase {}
      { StorePair.openedCase with
        originalAmount := 2147483648
        originalAmount_pos := by decide } rfl
    exact absurd ((caseCreated_iff rfl).mp stored).originalAmount (by decide)
  · intro recorded
    have stored := recorded plainDatabase {} { plainDecline with notes := some [] } rfl rfl
    obtain ⟨event, same, _, kept⟩ := (failureRecorded_iff (fun _ _ => rfl) rfl).mp stored
    exact (kept [] (congrArg (·.notes) same.rest)).1 rfl

end PostgresRows

end RecoveryAgent
