import RecoveryAgent.Store.RowCodec

/-! The Postgres case store row by row (`app/core/postgres_case_store.py`).
A row that is inserted or updated under a key is the one that is fetched under the key.
-/

namespace RecoveryAgent

-----------------------------------------------------------------------------------------
-- Statements
-----------------------------------------------------------------------------------------

/-- Why a method fails: a value the columns refuse, a taken key, no row, an illegal record. -/
inductive RowError where
  | dataError
  | uniqueViolation
  | notFound
  | invalid
  deriving DecidableEq

/-- `column = %s`; NULL equals nothing. -/
def Cell.equals : Cell → Param → Bool
  | .text held, .value (.str given) => held.value = given
  | .integer held, .value (.int n) => held.value = n
  | _, _ => false

/-- The driver sends no text with a NUL character. -/
def Param.sent : Param → Bool
  | .value (.str given) => decide (Clean given)
  | _ => true

@[simp] theorem Param.sent_integer (n : Int) : (Param.integer n).sent = true := rfl

section Statements

variable {columns : List (Column ColumnType)}

/-- The cell of a column. -/
def cellOf (columns : List (Column ColumnType)) (name : String) (row : Row) : Option Cell :=
  ((columns.map (·.name)).zip row).lookup name

/-- The row meets every condition of a WHERE clause. -/
def meets (columns : List (Column ColumnType)) (conditions : List (String × Param)) (row : Row)
    : Bool :=
  conditions.all fun condition =>
    (cellOf columns condition.1 row).any fun cell => cell.equals condition.2

/-- An INSERT under a primary key. -/
def insertInto (database : Database) (key : List (String × Param)) (names : List String)
    (values : List Param) (table : RowTable columns Cell)
    : Except RowError (RowTable columns Cell) :=
  match table.insert? database.dialect (names.zip values) with
  | none => .error .dataError
  | some inserted =>
      if table.rows.any (meets columns key) then .error .uniqueViolation else .ok inserted

/-- An UPDATE of the rows that meet the conditions. -/
def updateWhere (database : Database) (conditions : List (String × Param))
    (names : List String) (values : List Param) (table : RowTable columns Cell)
    : Except RowError (RowTable columns Cell) :=
  if (conditions.map (·.2) ++ values).all Param.sent then
    match table.update? database.dialect (meets columns conditions) (names.zip values) with
    | none => .error .dataError
    | some updated => .ok updated
  else .error .dataError

/-- `fetchone` of a `SELECT *`, through a row mapper. -/
def fetchOne {α : Type} (conditions : List (String × Param)) (map : Row → Option α)
    (table : RowTable columns Cell)
    : Except RowError α :=
  if (conditions.map (·.2)).all Param.sent then
    match table.rows.find? (meets columns conditions) with
    | none => .error .notFound
    | some row =>
        match map row with
        | none => .error .invalid
        | some record => .ok record
  else .error .dataError

end Statements

-----------------------------------------------------------------------------------------
-- The store
-----------------------------------------------------------------------------------------

/-- The four tables. -/
structure PostgresRows where
  recoveryCases : RowTable Schema.recoveryCases Cell := .empty
  paymentFailures : RowTable Schema.paymentFailures Cell := .empty
  retryDecisions : RowTable Schema.retryDecisions Cell := .empty
  auditEntries : RowTable Schema.auditEntries Cell := .empty

/-- A value as a TEXT column compares it. -/
def Database.asText (database : Database) (value : Json) : Param :=
  match value with
  | .str text => .text text
  | other => ((database.spelled other).map fun text => .text text.value).getD (.value other)

namespace PostgresRows

/-- `create_case`. -/
def createCase (database : Database) (rows : PostgresRows) (case : RecoveryCase)
    : Except RowError PostgresRows := do
  let recoveryCases ← insertInto database [("case_id", .text case.caseId)]
    RecoveryCase.insertNames case.insertValues rows.recoveryCases
  return { rows with recoveryCases }

/-- `update_case`. -/
def updateCase (database : Database) (rows : PostgresRows) (case : RecoveryCase)
    : Except RowError PostgresRows := do
  let recoveryCases ← updateWhere database [("case_id", .text case.caseId)]
    RecoveryCase.updateNames case.updateValues rows.recoveryCases
  return { rows with recoveryCases }

/-- `get_case`. -/
def getCase (rows : PostgresRows) (caseId : String) : Except RowError RecoveryCase :=
  fetchOne [("case_id", .text caseId)] rowToCase rows.recoveryCases

/-- `record_failure`. -/
def recordFailure (database : Database) (rows : PostgresRows) (failure : SentFailure)
    : Except RowError PostgresRows := do
  let paymentFailures ← insertInto database [("payment_id", database.asText failure.payment)]
    PaymentFailureEvent.insertNames failure.insertValues rows.paymentFailures
  return { rows with paymentFailures }

/-- The conditions that select an attempt. -/
def ofAttempt (caseId : String) (attemptNumber : Nat) : List (String × Param) :=
  [("case_id", .text caseId), ("attempt_number", .integer attemptNumber)]

/-- `get_failure`. -/
def getFailure (rows : PostgresRows) (caseId : String) (attemptNumber : Nat)
    : Except RowError PaymentFailureEvent :=
  fetchOne (ofAttempt caseId attemptNumber) rowToFailure rows.paymentFailures

/-- `record_retry_decision`. -/
def recordRetryDecision (database : Database) (rows : PostgresRows) (decision : RetryDecision)
    : Except RowError PostgresRows := do
  let retryDecisions ← insertInto database (ofAttempt decision.caseId decision.attemptNumber)
    RetryDecision.insertNames decision.insertValues rows.retryDecisions
  return { rows with retryDecisions }

/-- `update_retry_decision`. -/
def updateRetryDecision (database : Database) (rows : PostgresRows) (decision : RetryDecision)
    : Except RowError PostgresRows := do
  let retryDecisions ← updateWhere database (ofAttempt decision.caseId decision.attemptNumber)
    RetryDecision.updateNames decision.updateValues rows.retryDecisions
  return { rows with retryDecisions }

/-- `get_retry_decision`. -/
def getRetryDecision (rows : PostgresRows) (caseId : String) (attemptNumber : Nat)
    : Except RowError RetryDecision :=
  fetchOne (ofAttempt caseId attemptNumber) rowToDecision rows.retryDecisions

/-- The sequence id of an entry's row, of which every row has one. -/
def sequenceOf (row : Row) : Nat :=
  ((cellOf Schema.auditEntries "sequence_id" row).bind Cell.nat?).getD 0

/-- `SELECT COALESCE(MAX(sequence_id), 0) + 1`. -/
def nextSequence (rows : PostgresRows) : Nat :=
  (rows.auditEntries.rows.map sequenceOf).foldl max 0 + 1

/-- The rows of a case's entries, `ORDER BY sequence_id`. -/
def entriesOf (rows : PostgresRows) (caseId : String) : List Row :=
  (rows.auditEntries.rows.filter (meets Schema.auditEntries [("case_id", .text caseId)])).mergeSort
    (fun row next => sequenceOf row ≤ sequenceOf next)

/-- The hash of a case's entry with the highest sequence id. -/
def lastEntryHash (rows : PostgresRows) (caseId : String) : Option PgText := do
  let row ← (rows.entriesOf caseId).getLast?
  let cell ← cellOf Schema.auditEntries "entry_hash" row
  match cell with
  | .text hash => some hash
  | _ => none

/-- The entry as `append_audit` leaves it: numbered, linked and hashed. -/
def taken (rows : PostgresRows) (entry : AuditEntry) : AuditEntry :=
  let sequenceId := entry.sequenceId.getD rows.nextSequence
  { entry with sequenceId := some sequenceId }.linked
    ((rows.lastEntryHash entry.caseId).map PgText.value)

/-- `append_audit`. -/
def appendAudit (database : Database) (rows : PostgresRows) (entry : AuditEntry)
    : Except RowError PostgresRows := do
  let entry := rows.taken entry
  let auditEntries ← insertInto database
    [("sequence_id", .optional (fun n : Nat => .integer n) entry.sequenceId)]
    AuditEntry.insertNames entry.insertValues rows.auditEntries
  return { rows with auditEntries }

/-- `get_audit_trail`. -/
def getAuditTrail (rows : PostgresRows) (caseId : String)
    : Except RowError (List AuditEntry) :=
  if Clean caseId then
    match (rows.entriesOf caseId).mapM rowToAudit with
    | none => .error .invalid
    | some trail => .ok trail
  else .error .dataError

end PostgresRows

section Cells

theorem cellOf_self (name : String) (type : ColumnType) (columns : List (Column ColumnType))
    (cell : Cell) (row : Row)
    : cellOf (⟨name, type⟩ :: columns) name (cell :: row) = some cell := by
  simp [cellOf]

theorem cellOf_ne {name other : String} (apart : name ≠ other) (type : ColumnType)
    (columns : List (Column ColumnType)) (cell : Cell) (row : Row)
    : cellOf (⟨other, type⟩ :: columns) name (cell :: row) = cellOf columns name row := by
  simp [cellOf, List.lookup_cons, beq_false_of_ne apart]

variable (database : Database)

/-- A stored text equals what was stored, and nothing else does. -/
theorem equals_text_iff {text : String} {cell : Cell}
    : cell.equals (.text text) = true ↔ database.store .text (.text text) = some cell := by
  constructor
  · intro equal
    cases cell with
    | text held =>
        obtain ⟨value, clean⟩ := held
        have same : value = text := by simpa [Cell.equals, Param.text] using equal
        subst same
        exact database.store_text clean
    | _ => cases equal
  · intro stored
    rw [database.store_text (Database.clean_of_store stored), Option.some.injEq] at stored
    rw [← stored]
    simp [Cell.equals, Param.text]

theorem equals_integer_iff {n : Int} {cell : Cell}
    : cell.equals (.integer n) = true ↔ database.store .integer (.integer n) = some cell := by
  constructor
  · intro equal
    cases cell with
    | integer held =>
        obtain ⟨value, fits⟩ := held
        have same : value = n := by simpa [Cell.equals, Param.integer] using equal
        subst same
        exact database.store_integer fits
    | _ => cases equal
  · intro stored
    rw [database.store_integer (Database.fits_of_store stored), Option.some.injEq] at stored
    rw [← stored]
    simp [Cell.equals, Param.integer]

end Cells

section Stored

variable {columns : List (Column ColumnType)} {α : Type} {map : Row → Option α}
  {conditions key : List (String × Param)} {names : List String} {values : List Param}
  {table : RowTable columns Cell} {database : Database}

/-- An INSERT appends the cells of its values, and fails where they are refused. -/
theorem insertInto_cases (declared : names = columns.map (·.name))
    (distinct : (columns.map (·.name)).Nodup) (paired : values.length = columns.length)
    (fresh : table.rows.any (meets columns key) = false)
    : (database.dialect.cells columns values = none
        ∧ insertInto database key names values table = .error .dataError)
      ∨ ∃ row inserted,
          database.dialect.cells columns values = some row
          ∧ insertInto database key names values table = .ok inserted
          ∧ inserted.rows = table.rows ++ [row] := by
  have rows := @RowTable.insert?_rows _ _ _ _ database.dialect (names.zip values) table
  rw [declared, database.dialect.insertCells_declared distinct paired] at rows
  unfold insertInto
  rw [declared]
  cases stored : database.dialect.cells columns values with
  | none =>
      rw [stored, Option.map_none, Option.map_eq_none_iff] at rows
      exact .inl ⟨rfl, by rw [rows]⟩
  | some row =>
      rw [stored] at rows
      obtain ⟨inserted, accepted, appended⟩ := Option.map_eq_some_iff.mp rows
      refine .inr ⟨row, inserted, rfl, ?_, appended⟩
      rw [accepted]
      simp [fresh]

/-- The record that is fetched is the one the mapper reads from the first selected row. -/
theorem fetchOne_iff {row : Row} (sent : (conditions.map (·.2)).all Param.sent = true)
    (found : table.rows.find? (meets columns conditions) = some row) (record : α)
    : fetchOne conditions map table = .ok record ↔ map row = some record := by
  rw [fetchOne, if_pos sent, found]
  cases mapped : map row <;> simp [mapped]

/-- A record that is inserted under a new key comes back as the mapper reads its cells. -/
theorem inserted_iff (declared : names = columns.map (·.name))
    (distinct : (columns.map (·.name)).Nodup) (paired : values.length = columns.length)
    (unique : table.rows.any (meets columns key) = false)
    (fresh : table.rows.any (meets columns conditions) = false)
    (selected
      : ∀ row,
          database.dialect.cells columns values = some row
          → (conditions.map (·.2)).all Param.sent = true ∧ meets columns conditions row = true)
    (same : α → Prop)
    : (∃ inserted read,
          insertInto database key names values table = .ok inserted
          ∧ fetchOne conditions map inserted = .ok read
          ∧ same read)
      ↔ ∃ row read,
          database.dialect.cells columns values = some row ∧ map row = some read ∧ same read := by
  rcases @insertInto_cases _ key names values table database declared distinct paired unique with
    ⟨refused, failed⟩ | ⟨row, inserted, stored, accepted, appended⟩
  · simp [refused, failed]
  · obtain ⟨sent, met⟩ := selected row stored
    have found : inserted.rows.find? (meets columns conditions) = some row := by
      rw [appended, List.find?_append, List.find?_eq_none.mpr, Option.none_or,
        List.find?_cons_of_pos met]
      intro old member
      simpa using List.any_eq_false.mp fresh old member
    have fetched := @fetchOne_iff _ _ map conditions inserted row sent found
    simp [accepted, stored, fetched]

end Stored

section Updated

variable {keyColumns rest : List (Column ColumnType)} {α : Type} {map : Row → Option α}
  {conditions : List (String × Param)} {names : List String} {keyValues values : List Param}
  {database : Database}

/-- The conditions select the rows that begin with the cells of a key. -/
structure SelectsKey (database : Database) (keyColumns rest : List (Column ColumnType))
    (conditions : List (String × Param)) (keyValues : List Param)
    : Prop where
  begins
    : ∀ row,
        row.length = (keyColumns ++ rest).length
        → meets (keyColumns ++ rest) conditions row = true
        → ∃ old others,
            row = old ++ others ∧ database.dialect.cells keyColumns keyValues = some old
  selected
    : ∀ old others,
        database.dialect.cells keyColumns keyValues = some old
        → meets (keyColumns ++ rest) conditions (old ++ others) = true

/-- What a column takes was sent. -/
theorem sent_of_store {type : ColumnType} {param : Param} {cell : Cell}
    (stored : database.store type param = some cell)
    : param.sent = true := by
  cases param with
  | value value =>
      cases value with
      | str text =>
          cases type with
          | text => exact decide_eq_true (Database.clean_of_store stored)
          | _ => cases stored
      | _ => rfl
  | _ => rfl

theorem sent_of_cells {columns : List (Column ColumnType)} {values : List Param} {row : Row}
    (stored : database.dialect.cells columns values = some row)
    : values.all Param.sent = true := by
  induction columns generalizing values row with
  | nil =>
      cases values with
      | nil => rfl
      | cons value values => cases stored
  | cons column columns ih =>
      cases values with
      | nil => rfl
      | cons value values =>
          simp only [Dialect.cells, Option.bind_eq_bind, Option.bind_eq_some_iff] at stored
          obtain ⟨cell, taken, rest, later, _⟩ := stored
          rw [List.all_cons, sent_of_store taken, ih later, Bool.and_self]

/-- A row that is selected by its key is updated to the key's cells and those of the values. -/
theorem updateCells_selected (declared : names = rest.map (·.name))
    (distinct : (rest.map (·.name)).Nodup) (paired : values.length = rest.length)
    (apart : ∀ column ∈ keyColumns, column.name ∉ names)
    (key : SelectsKey database keyColumns rest conditions keyValues) {row : Row}
    (complete : row.length = (keyColumns ++ rest).length)
    (selected : meets (keyColumns ++ rest) conditions row = true)
    : database.dialect.updateCells (names.zip values) (keyColumns ++ rest) row
      = database.dialect.cells (keyColumns ++ rest) (keyValues ++ values) := by
  obtain ⟨old, others, rfl, stored⟩ := key.begins row complete selected
  obtain ⟨given, aligned⟩ := database.dialect.cells_length stored
  have others_length : others.length = rest.length := by
    simp only [List.length_append] at complete
    omega
  rw [database.dialect.updateCells_append apart aligned, declared,
    database.dialect.updateCells_declared distinct paired others_length,
    database.dialect.cells_append given, stored]
  cases database.dialect.cells rest values <;> rfl

/-- A stored record that is updated comes back as the mapper reads the cells of its key and of
the new values.
-/
theorem updated_iff {table : RowTable (keyColumns ++ rest) Cell}
    (declared : names = rest.map (·.name)) (distinct : (rest.map (·.name)).Nodup)
    (paired : values.length = rest.length) (apart : ∀ column ∈ keyColumns, column.name ∉ names)
    (key : SelectsKey database keyColumns rest conditions keyValues)
    (exposed : keyValues.all Param.sent → (conditions.map (·.2)).all Param.sent)
    (stored : table.rows.any (meets (keyColumns ++ rest) conditions) = true)
    (same : α → Prop)
    : (∃ updated read,
          updateWhere database conditions names values table = .ok updated
          ∧ fetchOne conditions map updated = .ok read
          ∧ same read)
      ↔ ∃ row read,
          database.dialect.cells (keyColumns ++ rest) (keyValues ++ values) = some row
          ∧ map row = some read
          ∧ same read := by
  have becomes {row : Row} (member : row ∈ table.rows)
      (selected : meets (keyColumns ++ rest) conditions row = true)
      : database.dialect.updateCells (names.zip values) (keyColumns ++ rest) row
        = database.dialect.cells (keyColumns ++ rest) (keyValues ++ values) :=
    updateCells_selected declared distinct paired apart key (table.complete row member) selected
  obtain ⟨row, member, selected⟩ := List.any_eq_true.mp stored
  obtain ⟨old, others, _, kept⟩ := key.begins row (table.complete row member) selected
  have rows := @RowTable.update?_rows _ _ _ _ database.dialect
    (meets (keyColumns ++ rest) conditions) (names.zip values) table
  have keySent := exposed (sent_of_cells kept)
  cases cells : database.dialect.cells (keyColumns ++ rest) (keyValues ++ values) with
  | none =>
      have failed : database.dialect.updateRows (keyColumns ++ rest)
          (meets (keyColumns ++ rest) conditions) (names.zip values) table.rows = none := by
        rw [Option.eq_none_iff_forall_ne_some]
        intro rows' accepted
        obtain ⟨row', here⟩ :=
          database.dialect.updateRows_isSome.mp ⟨rows', accepted⟩ row member selected
        cases (becomes member selected).symm.trans here |>.symm.trans cells
      rw [failed, Option.map_eq_none_iff] at rows
      simp only [updateWhere, rows]
      split <;> simp
  | some new =>
      obtain ⟨rows', accepted⟩ := database.dialect.updateRows_isSome.mpr
        fun other member selected => ⟨new, (becomes member selected).trans cells⟩
      rw [accepted] at rows
      obtain ⟨updated, updatedTo, rowsTo⟩ := Option.map_eq_some_iff.mp rows
      have newSelected : meets (keyColumns ++ rest) conditions new = true := by
        have appended := cells
        rw [database.dialect.cells_append (database.dialect.cells_length kept).1, kept]
          at appended
        obtain ⟨_, same, appended⟩ := Option.bind_eq_some_iff.mp appended
        obtain ⟨others', _, joined⟩ := Option.bind_eq_some_iff.mp appended
        cases same
        cases joined
        exact key.selected old others' kept
      have found : updated.rows.find? (meets (keyColumns ++ rest) conditions) = some new := by
        rw [rowsTo, database.dialect.find?_updateRows ?_ accepted]
        · obtain ⟨first, here⟩ := Option.isSome_iff_exists.mp
            (List.find?_isSome.mpr ⟨row, member, selected⟩)
          rw [here]
          exact (becomes (List.mem_of_find?_eq_some here) (List.find?_some here)).trans cells
        · intro other member row' selected here
          cases ((becomes member selected).symm.trans here).symm.trans cells
          exact newSelected
      have valuesSent := sent_of_cells cells
      rw [List.all_append, Bool.and_eq_true] at valuesSent
      have sent : (conditions.map (·.2) ++ values).all Param.sent = true := by
        rw [List.all_append, keySent, valuesSent.2, Bool.and_self]
      have fetched := @fetchOne_iff _ _ map conditions updated new keySent found
      simp [updateWhere, sent, updatedTo, fetched]

end Updated

end RecoveryAgent
