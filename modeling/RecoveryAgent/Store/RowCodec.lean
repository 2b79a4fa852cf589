import RecoveryAgent.Store.Columns
import RecoveryAgent.Store.AuditText

/-! What comes back from the row a record is written to.
A record whose values fit its columns is read back from its row, but for notes without keys; one
with a value that does not fit is refused, or comes back with another text.
-/

namespace RecoveryAgent

namespace Cell

/-- The cell of an optional value. -/
def optional {α : Type} (cell : α → Cell) : Option α → Cell
  | none => .null
  | some value => cell value

def spelled {α : Type} [Spelled α] (value : α) : Cell :=
  .text ⟨Spelled.spell value, Spelled.clean value⟩

@[simp] theorem text?_text (text : PgText) : (Cell.text text).text? = some text.value := rfl

@[simp] theorem integer?_integer (n : PgInteger) : (Cell.integer n).integer? = some n.value := rfl

@[simp] theorem timestamp?_timestamptz (t : Datetime) : (Cell.timestamptz t).timestamp? = some t :=
  rfl

@[simp] theorem nat?_natCast {n : Nat} {fits : FitsInteger n}
    : (Cell.integer ⟨n, fits⟩).nat? = some n := by
  simp [nat?]

@[simp] theorem optional?_integer {α : Type} (read : Cell → Option α) (n : PgInteger)
    : (Cell.integer n).optional? read = (read (.integer n)).map some :=
  rfl

@[simp] theorem spelled?_spelled {α : Type} [Spelled α] (value : α)
    : (Cell.spelled value).spelled? = some value :=
  Spelled.read_spell value

@[simp] theorem optional?_spelled {α : Type} [Spelled α] (given : Option α)
    : (Cell.optional Cell.spelled given).optional? Cell.spelled? = some given := by
  cases given with
  | none => rfl
  | some value => exact congrArg (Option.map some) (spelled?_spelled value)

@[simp] theorem optional?_timestamptz (given : Option Datetime)
    : (Cell.optional Cell.timestamptz given).optional? Cell.timestamp? = some given := by
  cases given <;> rfl

end Cell

namespace Database

variable (database : Database)

theorem store_text {text : String} (clean : Clean text)
    : database.store .text (.text text) = some (.text ⟨text, clean⟩) := by
  simp [store, Param.text, PgText.of?, clean]

theorem store_integer {n : Int} (fits : FitsInteger n)
    : database.store .integer (.integer n) = some (.integer ⟨n, fits⟩) := by
  simp [store, Param.integer, PgInteger.of?, fits]

theorem store_serial {n : Int} (fits : FitsInteger n)
    : database.store .serial (.integer n) = some (.integer ⟨n, fits⟩) := by
  simp [store, Param.integer, PgInteger.of?, fits]

@[simp] theorem store_datetime (t : Datetime)
    : database.store .timestamptz (.datetime t) = some (.timestamptz t) :=
  rfl

@[simp] theorem store_spelled {α : Type} [Spelled α] (value : α)
    : database.store .text (.spelled value) = some (.spelled value) :=
  database.store_text (Spelled.clean value)

/-- An optional parameter is stored when the value is. -/
theorem store_optional {α : Type} {type : ColumnType} {param : α → Param} {cell : α → Cell}
    {given : Option α}
    (stored : ∀ value, given = some value → database.store type (param value) = some (cell value))
    : database.store type (.optional param given) = some (.optional cell given) := by
  cases given with
  | none => cases type <;> rfl
  | some value => exact stored value rfl

@[simp] theorem store_optional_spelled {α : Type} [Spelled α] (given : Option α)
    : database.store .text (.optional .spelled given) = some (.optional .spelled given) :=
  database.store_optional fun value _ => database.store_spelled value

@[simp] theorem store_optional_datetime (given : Option Datetime)
    : database.store .timestamptz (.optional .datetime given)
      = some (.optional .timestamptz given) :=
  database.store_optional fun _ _ => rfl

/-- An optional text is stored, and read back, where it has no NUL character. -/
theorem store_optional_text {given : Option String}
    (clean : ∀ text, given = some text → Clean text)
    : ∃ cell,
        database.store .text (.optional .text given) = some cell
        ∧ cell.optional? Cell.text? = some given := by
  cases given with
  | none => exact ⟨.null, rfl, rfl⟩
  | some text => exact ⟨_, database.store_text (clean text rfl), rfl⟩

variable {database}

/-- A TEXT column takes no text with a NUL character. -/
theorem clean_of_store {text : String} {cell : Cell}
    (stored : database.store .text (.text text) = some cell)
    : Clean text := by
  by_contra unclean
  simp [store, Param.text, PgText.of?, unclean] at stored

/-- An INTEGER column takes no number out of its range. -/
theorem fits_of_store {n : Int} {cell : Cell}
    (stored : database.store .integer (.integer n) = some cell)
    : FitsInteger n := by
  by_contra wide
  simp [store, Param.integer, PgInteger.of?, wide] at stored

/-- A code that comes back as it was is text or None. -/
theorem fitsText_of_store {code : Json} {cell : Cell}
    (stored : database.store .text (.value code) = some cell) (read : cell.code? = some code)
    : code.FitsText := by
  cases code with
  | null => trivial
  | str text => exact clean_of_store stored
  | _ =>
      -- it was spelled out as a text
      simp only [store, Option.map_eq_some_iff] at stored
      obtain ⟨text, _, rfl⟩ := stored
      cases read

/-- Text and None come back as they were. -/
theorem store_code {code : Json} (fits : code.FitsText)
    : ∃ cell, database.store .text (.value code) = some cell ∧ cell.code? = some code := by
  cases code with
  | null => exact ⟨.null, rfl, rfl⟩
  | str text => exact ⟨_, database.store_text fits, rfl⟩
  | _ => cases fits

end Database

section Records

variable {database : Database}

/-- The row of a case. -/
def RecoveryCase.row (case : RecoveryCase) (fits : case.FitsColumns) : Row := [
  .text ⟨case.caseId, fits.caseId⟩, .text ⟨case.mandateId, fits.mandateId⟩,
  .text ⟨case.instrumentId, fits.instrumentId⟩,
  .integer ⟨case.originalAmount, fits.originalAmount⟩, .timestamptz case.openedAt,
  .integer ⟨case.retriesUsed, fits.retriesUsed⟩, .spelled case.state,
  .optional .spelled case.bucket, .optional .spelled case.controlOutcome,
  .optional .timestamptz case.controlObservationDeadline,
  .optional .spelled case.resolutionNote]

theorem RecoveryCase.cells_eq {case : RecoveryCase} (fits : case.FitsColumns)
    : database.dialect.cells Schema.recoveryCases case.insertValues = some (case.row fits) := by
  simp [Schema.recoveryCases, insertValues, updateValues, Dialect.cells, Database.dialect, row,
    database.store_text fits.caseId, database.store_text fits.mandateId,
    database.store_text fits.instrumentId, database.store_integer fits.originalAmount,
    database.store_integer fits.retriesUsed]

theorem RecoveryCase.fits_of_cells {case : RecoveryCase} {row : Row}
    (stored : database.dialect.cells Schema.recoveryCases case.insertValues = some row)
    : case.FitsColumns := by
  have column (i : Nat) {column : Column ColumnType} {value : Param}
      (typed : Schema.recoveryCases[i]? = some column)
      (given : case.insertValues[i]? = some value)
      : ∃ cell, database.store column.type value = some cell :=
    (Dialect.cells_getElem? _ stored i typed given).imp fun _ => And.right
  exact {
    caseId := Database.clean_of_store (column 0 rfl rfl).choose_spec
    mandateId := Database.clean_of_store (column 1 rfl rfl).choose_spec
    instrumentId := Database.clean_of_store (column 2 rfl rfl).choose_spec
    originalAmount := Database.fits_of_store (column 3 rfl rfl).choose_spec
    retriesUsed := Database.fits_of_store (column 5 rfl rfl).choose_spec
  }

/-- A case is read back from its row. -/
theorem RecoveryCase.rowToCase_row (case : RecoveryCase) (fits : case.FitsColumns)
    : rowToCase (case.row fits) = some case := by
  obtain ⟨id, mandate, instrument, amount, _, _, _, _, _, _, _, idNe, mandateNe, instrumentNe,
    amountPos⟩ := case
  have positive := not_le.mpr amountPos
  simp [rowToCase, row, RecoveryCase.create, idNe, mandateNe, instrumentNe, positive,
    Except.toOption]

/-- The row of a decision. -/
def RetryDecision.row (decision : RetryDecision) (fits : decision.FitsColumns) : Row := [
  .text ⟨decision.caseId, fits.caseId⟩, .integer ⟨decision.attemptNumber, fits.attemptNumber⟩,
  .timestamptz decision.scheduledAt, .text ⟨decision.reasoning, fits.reasoning⟩,
  .spelled decision.commitBackend, .text ⟨decision.commitRef, fits.commitRef⟩,
  .optional .timestamptz decision.executedAt, .spelled decision.outcome]

theorem RetryDecision.cells_eq {decision : RetryDecision} (fits : decision.FitsColumns)
    : database.dialect.cells Schema.retryDecisions decision.insertValues
      = some (decision.row fits) := by
  simp [Schema.retryDecisions, insertValues, updateValues, Dialect.cells, Database.dialect, row,
    database.store_text fits.caseId, database.store_text fits.reasoning,
    database.store_text fits.commitRef, database.store_integer fits.attemptNumber]

theorem RetryDecision.fits_of_cells {decision : RetryDecision} {row : Row}
    (stored : database.dialect.cells Schema.retryDecisions decision.insertValues = some row)
    : decision.FitsColumns := by
  have column (i : Nat) {column : Column ColumnType} {value : Param}
      (typed : Schema.retryDecisions[i]? = some column)
      (given : decision.insertValues[i]? = some value)
      : ∃ cell, database.store column.type value = some cell :=
    (Dialect.cells_getElem? _ stored i typed given).imp fun _ => And.right
  exact {
    caseId := Database.clean_of_store (column 0 rfl rfl).choose_spec
    attemptNumber := Database.fits_of_store (column 1 rfl rfl).choose_spec
    reasoning := Database.clean_of_store (column 3 rfl rfl).choose_spec
    commitRef := Database.clean_of_store (column 5 rfl rfl).choose_spec
  }

/-- A decision is read back from its row. -/
theorem RetryDecision.rowToDecision_row (decision : RetryDecision)
    (fits : decision.FitsColumns)
    : rowToDecision (decision.row fits) = some decision := by
  obtain ⟨id, attempt, _, reasoning, _, ref, _, _, attemptPos, reasoningNe, refNe⟩ := decision
  have positive : attempt ≠ 0 := Nat.one_le_iff_ne_zero.mp attemptPos
  simp [rowToDecision, row, RetryDecision.create, positive, reasoningNe, refNe, Except.toOption]

end Records

namespace AuditEntry

variable {database : Database}

/-- An entry as it is inserted: under a sequence id, its hashes without a NUL character. -/
structure Inserts (entry : AuditEntry) (sequenceId : Nat) : Prop where
  numbered : entry.sequenceId = some sequenceId
  sequence : FitsInteger sequenceId
  fits : entry.FitsColumns
  prevHash : ∀ hash, entry.prevHash = some hash → Clean hash
  entryHash : ∀ hash, entry.entryHash = some hash → Clean hash

/-- An entry that fits is stored, and read back. -/
theorem exists_row {entry : AuditEntry} {sequenceId : Nat} (inserts : entry.Inserts sequenceId)
    : ∃ row,
        database.dialect.cells Schema.auditEntries entry.insertValues = some row
        ∧ rowToAudit row = some entry := by
  obtain ⟨numbered, sequence, ⟨caseId, ruleFired, ruleVersion⟩, prev, hash⟩ := inserts
  obtain ⟨prevCell, prevStored, prevRead⟩ := database.store_optional_text prev
  obtain ⟨hashCell, hashStored, hashRead⟩ := database.store_optional_text hash
  have numberStored
      : database.store .serial (.optional (fun n : Nat => .integer n) entry.sequenceId)
        = some (.integer ⟨sequenceId, sequence⟩) := by
    rw [numbered]
    exact database.store_serial sequence
  refine ⟨[.integer ⟨sequenceId, sequence⟩, .text ⟨entry.caseId, caseId⟩,
    .spelled entry.fromState, .spelled entry.toState, .text ⟨entry.ruleFired, ruleFired⟩,
    .integer ⟨entry.ruleVersion, ruleVersion⟩, .timestamptz entry.timestamp,
    .spelled entry.actor, .optional .timestamptz entry.scheduledAt, prevCell, hashCell], ?_, ?_⟩
  · simp [Schema.auditEntries, insertValues, Dialect.cells, Database.dialect, numberStored,
      prevStored, hashStored, database.store_text caseId, database.store_text ruleFired,
      database.store_integer ruleVersion]
  · have rebuilt : { entry with sequenceId := some sequenceId } = entry := by rw [← numbered]
    simp only [rowToAudit, Cell.optional?_integer, prevRead, hashRead, Cell.text?_text,
      Cell.nat?_natCast, Cell.spelled?_spelled, Cell.timestamp?_timestamptz,
      Cell.optional?_timestamptz, Option.bind_eq_bind, Option.bind_some, Option.map_some]
    rw [dif_pos ⟨entry.ruleFired_ne, entry.ruleVersion_pos⟩]
    exact congrArg some rebuilt

theorem fits_of_cells {entry : AuditEntry} {sequenceId : Nat} {row : Row}
    (numbered : entry.sequenceId = some sequenceId)
    (stored : database.dialect.cells Schema.auditEntries entry.insertValues = some row)
    : FitsInteger sequenceId ∧ entry.FitsColumns := by
  have column (i : Nat) {column : Column ColumnType} {value : Param}
      (typed : Schema.auditEntries[i]? = some column)
      (given : entry.insertValues[i]? = some value)
      : ∃ cell, database.store column.type value = some cell :=
    (Dialect.cells_getElem? _ stored i typed given).imp fun _ => And.right
  refine ⟨?_, ?_⟩
  · obtain ⟨cell, taken⟩ := column 0 rfl rfl
    rw [numbered] at taken
    by_contra wide
    simp [Database.store, Param.optional, Param.integer, PgInteger.of?, wide] at taken
  · exact {
      caseId := Database.clean_of_store (column 1 rfl rfl).choose_spec
      ruleFired := Database.clean_of_store (column 4 rfl rfl).choose_spec
      ruleVersion := Database.fits_of_store (column 5 rfl rfl).choose_spec
    }

end AuditEntry

namespace PaymentFailureEvent

variable {database : Database}

/-- Notes come back as those of their row. -/
theorem store_notes {given : Option Notes}
    (storable : ∀ notes, given = some notes → (Json.obj notes).storable = true)
    : ∃ cell read,
        database.store .jsonb (.notes given) = some cell
        ∧ cell.notes? = some read
        ∧ NotesEqual read (rowNotes given) := by
  match given, storable with
  | none, _ => exact ⟨.null, none, rfl, rfl, .none⟩
  | some [], _ => exact ⟨.null, none, rfl, rfl, .none⟩
  | some (field :: fields), storable =>
      obtain ⟨document, kept, equal⟩ := database.jsonb_equal _ (storable _ rfl)
      obtain ⟨read, rfl, filled⟩ := equal.exists_fields (by simp [Json.fieldsInJsonb])
      refine ⟨.jsonb (.obj read), some read, ?_, ?_, .some equal⟩
      · simp [Database.store, Param.notes, kept]
      · simp [Cell.notes?, filled]

/-- A failure that fits is stored, and read back but for its notes. -/
theorem exists_row {event : PaymentFailureEvent} (fits : event.FitsColumns)
    : ∃ row notes,
        database.dialect.cells Schema.paymentFailures event.insertValues = some row
        ∧ rowToFailure row = some { event with notes }
        ∧ NotesEqual notes (rowNotes event.notes) := by
  obtain ⟨reasonCell, reasonStored, reasonRead⟩ := @Database.store_code database _ fits.reasonCode
  obtain ⟨errorCell, errorStored, errorRead⟩ := @Database.store_code database _ fits.errorReason
  obtain ⟨sourceCell, sourceStored, sourceRead⟩ := @Database.store_code database _ fits.errorSource
  obtain ⟨stepCell, stepStored, stepRead⟩ := @Database.store_code database _ fits.errorStep
  obtain ⟨mandateCell, mandateStored, mandateRead⟩ := database.store_optional_text fits.mandateId
  obtain ⟨notesCell, notes, notesStored, notesRead, equal⟩ := @store_notes database _ fits.notes
  refine ⟨[.text ⟨event.caseId, fits.caseId⟩,
    .integer ⟨event.attemptNumber, fits.attemptNumber⟩, .text ⟨event.paymentId, fits.paymentId⟩,
    reasonCell, .spelled event.declineClass, .integer ⟨event.amount, fits.amount⟩,
    .timestamptz event.receivedAt, mandateCell, .text ⟨event.instrumentId, fits.instrumentId⟩,
    errorCell, sourceCell, stepCell, notesCell], notes, ?_, ?_, equal⟩
  · simp [Schema.paymentFailures, insertValues, valuesUnder, Dialect.cells, Database.dialect, reasonStored,
      errorStored, sourceStored, stepStored, mandateStored, notesStored,
      database.store_text fits.caseId, database.store_text fits.paymentId,
      database.store_text fits.instrumentId, database.store_integer fits.attemptNumber,
      database.store_integer fits.amount]
  · simp only [rowToFailure, reasonRead, errorRead, sourceRead, stepRead, mandateRead, notesRead,
      Cell.text?_text, Cell.nat?_natCast, Cell.integer?_integer, Cell.spelled?_spelled,
      Cell.timestamp?_timestamptz, Option.bind_eq_bind, Option.bind_some]
    rw [dif_pos ⟨event.attemptNumber_pos, event.amount_pos, event.paymentId_ne, event.caseId_ne⟩]
    rfl

/-- What the row mapper reads from the columns that are not text or numbers for sure. -/
theorem rowToFailure_read {row : Row} {read : PaymentFailureEvent}
    (mapped : rowToFailure row = some read)
    : row[3]?.bind Cell.code? = some read.reasonCode
      ∧ row[9]?.bind Cell.code? = some read.errorReason
      ∧ row[10]?.bind Cell.code? = some read.errorSource
      ∧ row[11]?.bind Cell.code? = some read.errorStep
      ∧ row[12]?.bind Cell.notes? = some read.notes := by
  unfold rowToFailure at mapped
  split at mapped
  · obtain ⟨_, _, mapped⟩ := Option.bind_eq_some_iff.mp mapped
    obtain ⟨_, _, mapped⟩ := Option.bind_eq_some_iff.mp mapped
    obtain ⟨_, _, mapped⟩ := Option.bind_eq_some_iff.mp mapped
    obtain ⟨_, _, mapped⟩ := Option.bind_eq_some_iff.mp mapped
    split at mapped
    · obtain ⟨_, reason, mapped⟩ := Option.bind_eq_some_iff.mp mapped
      obtain ⟨_, _, mapped⟩ := Option.bind_eq_some_iff.mp mapped
      obtain ⟨_, _, mapped⟩ := Option.bind_eq_some_iff.mp mapped
      obtain ⟨_, _, mapped⟩ := Option.bind_eq_some_iff.mp mapped
      obtain ⟨_, _, mapped⟩ := Option.bind_eq_some_iff.mp mapped
      obtain ⟨_, error, mapped⟩ := Option.bind_eq_some_iff.mp mapped
      obtain ⟨_, source, mapped⟩ := Option.bind_eq_some_iff.mp mapped
      obtain ⟨_, step, mapped⟩ := Option.bind_eq_some_iff.mp mapped
      obtain ⟨_, notes, mapped⟩ := Option.bind_eq_some_iff.mp mapped
      cases mapped
      exact ⟨reason, error, source, step, notes⟩
    · cases mapped
  · cases mapped

/-- Only what can be stored, and is kept, comes back as equal notes. -/
theorem storable_of_store {given notes : Option Notes} {cell : Cell}
    (stored : database.store .jsonb (.notes given) = some cell)
    (read : cell.notes? = some notes) (equal : NotesEqual notes given)
    : (∀ notes, given = some notes → (Json.obj notes).storable = true) ∧ NotesKept given := by
  match given, stored, equal with
  | none, _, _ => exact ⟨nofun, fun _ given => nomatch given⟩
  | some [], stored, equal =>
      -- notes without keys were stored as NULL
      cases stored
      cases read
      cases equal
  | some (field :: fields), stored, equal =>
      have storable : (Json.obj (field :: fields)).storable = true := by
        by_contra unstorable
        have refused := database.jsonb_refused _ (Bool.not_eq_true _ ▸ unstorable)
        simp [Database.store, Param.notes, refused] at stored
      obtain ⟨document, kept, inJsonb⟩ := database.jsonb_equal _ storable
      obtain ⟨found, rfl, filled⟩ := inJsonb.exists_fields (by simp [Json.fieldsInJsonb])
      have cellular : cell = .jsonb (.obj found) := by
        simpa [Database.store, Param.notes, kept, eq_comm] using stored
      rw [cellular] at read
      simp only [Cell.notes?, List.isEmpty_iff, filled, if_false, Option.some.injEq] at read
      cases read
      cases equal with
      | some equal =>
          refine ⟨fun notes same => ?_, fun notes same => ?_⟩
          · cases same
            exact storable
          · cases same
            exact ⟨by simp, Json.exact_of_read storable inJsonb equal⟩

/-- A failure that comes back equal fits its columns, and its notes are kept. -/
theorem fits_of_equal {event read : PaymentFailureEvent} {row : Row}
    (stored : database.dialect.cells Schema.paymentFailures event.insertValues = some row)
    (mapped : rowToFailure row = some read) (equal : read.Equal event)
    : event.FitsColumns ∧ NotesKept event.notes := by
  have column (i : Nat) {column : Column ColumnType} {value : Param}
      (typed : Schema.paymentFailures[i]? = some column)
      (given : event.insertValues[i]? = some value)
      : ∃ cell, row[i]? = some cell ∧ database.store column.type value = some cell :=
    Dialect.cells_getElem? _ stored i typed given
  have taken (i : Nat) {column' : Column ColumnType} {value : Param}
      (typed : Schema.paymentFailures[i]? = some column')
      (given : event.insertValues[i]? = some value)
      : ∃ cell, database.store column'.type value = some cell :=
    (column i typed given).imp fun _ => And.right
  have code (i : Nat) {name : String} {code : Json}
      (typed : Schema.paymentFailures[i]? = some ⟨name, .text⟩)
      (given : event.insertValues[i]? = some (.value code))
      (same : row[i]?.bind Cell.code? = some code)
      : code.FitsText := by
    obtain ⟨cell, here, kept⟩ := column i typed given
    rw [here] at same
    exact Database.fitsText_of_store kept same
  obtain ⟨reason, error, source, step, notes⟩ := rowToFailure_read mapped
  obtain ⟨fields, notesEqual⟩ := equal
  have mandate (mandateId : String) (given : event.mandateId = some mandateId)
      : Clean mandateId := by
    obtain ⟨cell, kept⟩ := taken 7 rfl rfl
    rw [given] at kept
    exact Database.clean_of_store kept
  obtain ⟨notesCell, here, notesStored⟩ := column 12 rfl rfl
  rw [here] at notes
  obtain ⟨storable, notesKept⟩ := storable_of_store notesStored notes notesEqual
  rw [fields] at reason error source step
  refine ⟨{
    caseId := Database.clean_of_store (taken 0 rfl rfl).choose_spec
    attemptNumber := Database.fits_of_store (taken 1 rfl rfl).choose_spec
    paymentId := Database.clean_of_store (taken 2 rfl rfl).choose_spec
    reasonCode := code 3 rfl rfl reason
    amount := Database.fits_of_store (taken 5 rfl rfl).choose_spec
    mandateId := mandate
    instrumentId := Database.clean_of_store (taken 8 rfl rfl).choose_spec
    errorReason := code 9 rfl rfl error
    errorSource := code 10 rfl rfl source
    errorStep := code 11 rfl rfl step
    notes := storable
  }, notesKept⟩

end PaymentFailureEvent

end RecoveryAgent
