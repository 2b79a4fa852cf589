import Mathlib.Data.List.Nodup

/-! Rows under declared columns.
A statement names the columns it gives values for, in an order of its own; a row holds its cells
in the order of the declaration, which is how they are read back.
-/

universe u v w

/-- A declared column. -/
structure Column (τ : Type u) where
  name : String
  type : τ

/-- What a database keeps of a value in a column of a type, if it takes it, and its NULL. -/
structure Dialect (τ : Type u) (π : Type v) (ν : Type w) where
  store : τ → π → Option ν
  null : ν

namespace Dialect

variable {τ : Type u} {π : Type v} {ν : Type w} (dialect : Dialect τ π ν)

/-- The cells of values that stand in the order of their columns. -/
def cells : List (Column τ) → List π → Option (List ν)
  | [], [] => some []
  | column :: columns, value :: values => do
      let cell ← dialect.store column.type value
      let rest ← cells columns values
      return cell :: rest
  | _, _ => none

/-- The value given under the name of a column, else the cell it has without one. -/
def assign (given : List (String × π)) (column : Column τ) (cell : ν) : Option ν :=
  match given.lookup column.name with
  | some value => dialect.store column.type value
  | none => some cell

/-- The row an INSERT makes: the value given under the name of each column, else NULL. -/
def insertCells (given : List (String × π)) : List (Column τ) → Option (List ν)
  | [] => some []
  | column :: columns => do
      let cell ← dialect.assign given column dialect.null
      let rest ← insertCells given columns
      return cell :: rest

/-- The row an UPDATE leaves: the value given under the name of each column, else the old. -/
def updateCells (given : List (String × π)) : List (Column τ) → List ν → Option (List ν)
  | column :: columns, old :: row => do
      let cell ← dialect.assign given column old
      let rest ← updateCells given columns row
      return cell :: rest
  | _, row => some row

/-- A value given for another column does not matter. -/
theorem assign_cons_ne {column : Column τ} {name : String} (apart : column.name ≠ name)
    (value : π) (given : List (String × π)) (cell : ν)
    : dialect.assign ((name, value) :: given) column cell = dialect.assign given column cell := by
  rw [assign, assign, List.lookup_cons, beq_false_of_ne apart]

theorem assign_cons_self (column : Column τ) (value : π) (given : List (String × π)) (cell : ν)
    : dialect.assign ((column.name, value) :: given) column cell
      = dialect.store column.type value := by
  rw [assign, List.lookup_cons_self]

/-- Values given for other columns do not matter. -/
theorem insertCells_cons {columns : List (Column τ)} {name : String} {value : π}
    {given : List (String × π)} (unnamed : name ∉ columns.map (·.name))
    : dialect.insertCells ((name, value) :: given) columns
      = dialect.insertCells given columns := by
  induction columns with
  | nil => rfl
  | cons column columns ih =>
      simp only [List.map_cons, List.mem_cons, not_or] at unnamed
      rw [insertCells, insertCells, assign_cons_ne _ (Ne.symm unnamed.1), ih unnamed.2]

theorem updateCells_cons {columns : List (Column τ)} {name : String} {value : π}
    {given : List (String × π)} (unnamed : name ∉ columns.map (·.name)) (row : List ν)
    : dialect.updateCells ((name, value) :: given) columns row
      = dialect.updateCells given columns row := by
  induction columns generalizing row with
  | nil => rfl
  | cons column columns ih =>
      simp only [List.map_cons, List.mem_cons, not_or] at unnamed
      cases row with
      | nil => rfl
      | cons old row =>
          rw [updateCells, updateCells, assign_cons_ne _ (Ne.symm unnamed.1), ih unnamed.2]

/-- An INSERT that names the columns in the order of their declaration gives each column its
value, by induction over them.
-/
theorem insertCells_declared {columns : List (Column τ)}
    (distinct : (columns.map (·.name)).Nodup) {values : List π}
    (paired : values.length = columns.length)
    : dialect.insertCells ((columns.map (·.name)).zip values) columns
      = dialect.cells columns values := by
  induction columns generalizing values with
  | nil =>
      cases values with
      | nil => rfl
      | cons value values => cases paired
  | cons column columns ih =>
      cases values with
      | nil => cases paired
      | cons value values =>
          rw [List.map_cons, List.nodup_cons] at distinct
          rw [List.map_cons, List.zip_cons_cons, insertCells, insertCells_cons _ distinct.1,
            ih distinct.2 (Nat.succ.inj paired), cells, assign_cons_self]

/-- An UPDATE that names the columns in the order of their declaration does the same. -/
theorem updateCells_declared {columns : List (Column τ)}
    (distinct : (columns.map (·.name)).Nodup) {values : List π}
    (paired : values.length = columns.length) {row : List ν}
    (complete : row.length = columns.length)
    : dialect.updateCells ((columns.map (·.name)).zip values) columns row
      = dialect.cells columns values := by
  induction columns generalizing values row with
  | nil =>
      cases values with
      | nil => cases row with
        | nil => rfl
        | cons old row => cases complete
      | cons value values => cases paired
  | cons column columns ih =>
      cases values with
      | nil => cases paired
      | cons value values =>
          cases row with
          | nil => cases complete
          | cons old row =>
              rw [List.map_cons, List.nodup_cons] at distinct
              rw [List.map_cons, List.zip_cons_cons, updateCells,
                updateCells_cons _ distinct.1, ih distinct.2 (Nat.succ.inj paired)
                  (Nat.succ.inj complete), cells, assign_cons_self]

/-- The columns an UPDATE does not name keep their cells. -/
theorem updateCells_append {key columns : List (Column τ)} {names : List String}
    {values : List π} (unnamed : ∀ column ∈ key, column.name ∉ names) {old row : List ν}
    (aligned : old.length = key.length)
    : dialect.updateCells (names.zip values) (key ++ columns) (old ++ row)
      = (dialect.updateCells (names.zip values) columns row).map (old ++ ·) := by
  induction key generalizing old with
  | nil =>
      cases old with
      | nil => simp
      | cons cell old => cases aligned
  | cons column key ih =>
      cases old with
      | nil => cases aligned
      | cons cell old =>
          have absent : (names.zip values).lookup column.name = none := by
            rw [List.lookup_eq_none_iff]
            intro pair member
            have named := List.of_mem_zip member
            exact bne_iff_ne.mpr fun same =>
              unnamed column List.mem_cons_self (same ▸ named.1)
          rw [List.cons_append, List.cons_append, updateCells, assign, absent,
            ih (fun other member => unnamed other (List.mem_cons_of_mem _ member))
              (Nat.succ.inj aligned)]
          cases dialect.updateCells (names.zip values) columns row <;> rfl

/-- Every column took a value. -/
theorem cells_length {columns : List (Column τ)} {values : List π} {row : List ν}
    (stored : dialect.cells columns values = some row)
    : values.length = columns.length ∧ row.length = columns.length := by
  induction columns generalizing values row with
  | nil =>
      cases values with
      | nil =>
          cases stored
          exact ⟨rfl, rfl⟩
      | cons value values => cases stored
  | cons column columns ih =>
      cases values with
      | nil => cases stored
      | cons value values =>
          simp only [cells, Option.bind_eq_bind, Option.bind_eq_some_iff] at stored
          obtain ⟨cell, _, rest, later, same⟩ := stored
          cases same
          exact (ih later).imp (congrArg Nat.succ) (congrArg Nat.succ)

/-- The cell at a position is what the column there keeps of the value there. -/
theorem cells_getElem? {columns : List (Column τ)} {values : List π} {row : List ν}
    (stored : dialect.cells columns values = some row) (i : Nat) {column : Column τ} {value : π}
    (typed : columns[i]? = some column) (given : values[i]? = some value)
    : ∃ cell, row[i]? = some cell ∧ dialect.store column.type value = some cell := by
  induction columns generalizing values row i with
  | nil => cases typed
  | cons first columns ih =>
      cases values with
      | nil => cases given
      | cons held values =>
          simp only [cells, Option.bind_eq_bind, Option.bind_eq_some_iff] at stored
          obtain ⟨cell, taken, rest, later, same⟩ := stored
          cases same
          cases i with
          | zero =>
              cases typed
              cases given
              exact ⟨cell, rfl, taken⟩
          | succ i => exact ih later i typed given

/-- The cells of the first columns and of the others. -/
theorem cells_append {key columns : List (Column τ)} {first values : List π}
    (aligned : first.length = key.length)
    : dialect.cells (key ++ columns) (first ++ values)
      = do
          let old ← dialect.cells key first
          let row ← dialect.cells columns values
          return old ++ row := by
  induction key generalizing first with
  | nil =>
      cases first with
      | nil => simp [cells]
      | cons value first => cases aligned
  | cons column key ih =>
      cases first with
      | nil => cases aligned
      | cons value first =>
          rw [List.cons_append, List.cons_append, cells, cells, ih (Nat.succ.inj aligned)]
          cases dialect.store column.type value with
          | none => rfl
          | some cell =>
              cases dialect.cells key first with
              | none => rfl
              | some old => cases dialect.cells columns values <;> rfl

theorem insertCells_length {given : List (String × π)} {columns : List (Column τ)}
    {row : List ν} (stored : dialect.insertCells given columns = some row)
    : row.length = columns.length := by
  induction columns generalizing row with
  | nil =>
      cases stored
      rfl
  | cons column columns ih =>
      simp only [insertCells, Option.bind_eq_bind, Option.bind_eq_some_iff] at stored
      obtain ⟨cell, _, rest, later, same⟩ := stored
      cases same
      exact congrArg Nat.succ (ih later)

theorem updateCells_length {given : List (String × π)} {columns : List (Column τ)}
    {row row' : List ν} (stored : dialect.updateCells given columns row = some row')
    : row'.length = row.length := by
  induction columns generalizing row row' with
  | nil =>
      cases stored
      rfl
  | cons column columns ih =>
      cases row with
      | nil =>
          cases stored
          rfl
      | cons old row =>
          simp only [updateCells, Option.bind_eq_bind, Option.bind_eq_some_iff] at stored
          obtain ⟨cell, _, rest, later, same⟩ := stored
          cases same
          exact congrArg Nat.succ (ih later)

/-- A row after an UPDATE of those that a condition selects. -/
def updateRow (columns : List (Column τ)) (selects : List ν → Bool) (given : List (String × π))
    (row : List ν)
    : Option (List ν) :=
  if selects row then dialect.updateCells given columns row else some row

/-- The rows after it. -/
def updateRows (columns : List (Column τ)) (selects : List ν → Bool)
    (given : List (String × π))
    : List (List ν) → Option (List (List ν))
  | [] => some []
  | row :: rows => do
      let row ← dialect.updateRow columns selects given row
      let rows ← updateRows columns selects given rows
      return row :: rows

theorem updateRows_length {columns : List (Column τ)} {selects : List ν → Bool}
    {given : List (String × π)} {n : Nat} {rows rows' : List (List ν)}
    (updated : dialect.updateRows columns selects given rows = some rows')
    (complete : ∀ row ∈ rows, row.length = n)
    : ∀ row ∈ rows', row.length = n := by
  induction rows generalizing rows' with
  | nil =>
      cases updated
      simp
  | cons row rows ih =>
      simp only [updateRows, Option.bind_eq_bind, Option.bind_eq_some_iff] at updated
      obtain ⟨row', here, rest, later, same⟩ := updated
      cases same
      have first := complete row List.mem_cons_self
      have others := ih later fun other member => complete other (List.mem_cons_of_mem _ member)
      refine List.forall_mem_cons.mpr ⟨?_, others⟩
      unfold updateRow at here
      split at here
      · rw [dialect.updateCells_length here, first]
      · cases here
        exact first

/-- Where the condition does not depend on what is updated, it selects the row that the first
selected row became, by induction over the rows.
-/
theorem find?_updateRows {columns : List (Column τ)} {selects : List ν → Bool}
    {given : List (String × π)} {rows rows' : List (List ν)}
    (keeps
      : ∀ row ∈ rows, ∀ row',
          selects row = true → dialect.updateCells given columns row = some row'
          → selects row' = true)
    (updated : dialect.updateRows columns selects given rows = some rows')
    : rows'.find? selects = (rows.find? selects).bind (dialect.updateCells given columns) := by
  induction rows generalizing rows' with
  | nil =>
      cases updated
      rfl
  | cons row rows ih =>
      simp only [updateRows, Option.bind_eq_bind, Option.bind_eq_some_iff] at updated
      obtain ⟨row', here, rest, later, same⟩ := updated
      cases same
      unfold updateRow at here
      cases selected : selects row with
      | true =>
          rw [if_pos selected] at here
          rw [List.find?_cons_of_pos (keeps row List.mem_cons_self row' selected here),
            List.find?_cons_of_pos selected]
          exact here.symm
      | false =>
          rw [if_neg (by simp [selected])] at here
          cases here
          rw [List.find?_cons_of_neg (by simp [selected]),
            List.find?_cons_of_neg (by simp [selected])]
          exact ih (fun other member => keeps other (List.mem_cons_of_mem _ member)) later

/-- An UPDATE is accepted exactly if it is for every row it is made to. -/
theorem updateRows_isSome {columns : List (Column τ)} {selects : List ν → Bool}
    {given : List (String × π)} {rows : List (List ν)}
    : (∃ rows', dialect.updateRows columns selects given rows = some rows')
      ↔ ∀ row ∈ rows,
          selects row = true → ∃ row', dialect.updateCells given columns row = some row' := by
  induction rows with
  | nil => simp [updateRows]
  | cons row rows ih =>
      rw [List.forall_mem_cons, ← ih, updateRows, updateRow]
      generalize dialect.updateRows columns selects given rows = later
      cases selects row with
      | true => cases dialect.updateCells given columns row <;> cases later <;> simp
      | false => cases later <;> simp

end Dialect

/-- The rows of a table: each has a cell for every column. -/
structure RowTable {τ : Type u} (columns : List (Column τ)) (ν : Type w) where
  rows : List (List ν)
  complete : ∀ row ∈ rows, row.length = columns.length

namespace RowTable

variable {τ : Type u} {π : Type v} {ν : Type w} {columns : List (Column τ)}

def empty : RowTable columns ν := ⟨[], by simp⟩

/-- The table with the row of an INSERT, if its values are accepted. -/
def insert? (dialect : Dialect τ π ν) (given : List (String × π)) (table : RowTable columns ν)
    : Option (RowTable columns ν) :=
  match stored : dialect.insertCells given columns with
  | none => none
  | some row =>
      some {
        rows := table.rows ++ [row]
        complete := List.forall_mem_append.mpr ⟨table.complete, by
          simpa using dialect.insertCells_length stored⟩
      }

theorem insert?_rows {dialect : Dialect τ π ν} {given : List (String × π)}
    {table : RowTable columns ν}
    : (table.insert? dialect given).map (·.rows)
      = (dialect.insertCells given columns).map fun row => table.rows ++ [row] := by
  unfold insert?
  split <;> simp [*]

/-- The table after an UPDATE of the selected rows, if its values are accepted. -/
def update? (dialect : Dialect τ π ν) (selects : List ν → Bool) (given : List (String × π))
    (table : RowTable columns ν)
    : Option (RowTable columns ν) :=
  match updated : dialect.updateRows columns selects given table.rows with
  | none => none
  | some rows => some ⟨rows, dialect.updateRows_length updated table.complete⟩

theorem update?_rows {dialect : Dialect τ π ν} {selects : List ν → Bool}
    {given : List (String × π)} {table : RowTable columns ν}
    : (table.update? dialect selects given).map (·.rows)
      = dialect.updateRows columns selects given table.rows := by
  unfold update?
  split <;> simp [*]

end RowTable
