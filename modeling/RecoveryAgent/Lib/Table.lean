import Mathlib.Data.List.Nodup
import Mathlib.Data.List.Perm.Basic

/-! Rows under a primary key, kept in insertion order.
One structure serves a dictionary that remembers the order of its insertions and a
relation with a declared key: no two rows of a table share their key.
-/

universe u v

/-- Rows in the order of their insertion, with pairwise distinct keys. -/
structure Table {κ : Type u} {ρ : Type v} (key : ρ → κ) where
  rows : List ρ
  unique : (rows.map key).Nodup

namespace Table

variable {κ : Type u} {ρ : Type v} {key : ρ → κ}

/-- The table without rows. -/
def empty : Table key := ⟨[], List.nodup_nil⟩

@[simp] theorem rows_empty : (empty : Table key).rows = [] := rfl

/-- Another order of the same rows. -/
def reorder (table : Table key) (rows : List ρ) (same : table.rows.Perm rows) : Table key :=
  ⟨rows, (same.map key).nodup_iff.mp table.unique⟩

variable [DecidableEq κ]

/-- The row stored under a key. -/
def find? (table : Table key) (k : κ) : Option ρ :=
  table.rows.find? (fun row => key row = k)

/-- Overwrites the row that has the key of `row`, in its place; absent keys stay absent. -/
def update (table : Table key) (row : ρ) : Table key where
  rows := table.rows.map (fun old => if key old = key row then row else old)
  unique := by
    have same : (table.rows.map (fun old => if key old = key row then row else old)).map key
        = table.rows.map key := by
      rw [List.map_map]
      apply List.map_congr_left
      intro old _
      by_cases h : key old = key row <;> simp [h]
    rw [same]
    exact table.unique

/-- Appends a row whose key is fresh; a key already present is refused. -/
def insert? (table : Table key) (row : ρ) : Option (Table key) :=
  if fresh : key row ∉ table.rows.map key then
    some {
      rows := table.rows ++ [row]
      unique := by
        rw [List.map_append, List.nodup_append]
        refine ⟨table.unique, List.nodup_singleton _, ?_⟩
        intro a member b single same
        have : b = key row := by simpa using single
        exact fresh (this ▸ same ▸ member)
    }
  else none

/-- Dictionary assignment: an existing key keeps its place, a new one goes last. -/
def put (table : Table key) (row : ρ) : Table key :=
  (table.insert? row).getD (table.update row)

@[simp] theorem find?_empty (k : κ) : (empty : Table key).find? k = none := rfl

/-- A row found under a key carries that key. -/
theorem find?_key {table : Table key} {k : κ} {row : ρ} (found : table.find? k = some row)
    : key row = k := by
  simpa using List.find?_some found

/-- A row found is one of the rows. -/
theorem mem_of_find? {table : Table key} {k : κ} {row : ρ}
    (found : table.find? k = some row)
    : row ∈ table.rows :=
  List.mem_of_find?_eq_some found

/-- Every stored row is the one its own key finds, since keys do not repeat.
Witness: induction over the rows, the head being the only row of its key.
-/
theorem find?_of_mem {table : Table key} {row : ρ} (member : row ∈ table.rows)
    : table.find? (key row) = some row := by
  obtain ⟨rows, unique⟩ := table
  unfold find?
  dsimp only at member ⊢
  induction rows with
  | nil => cases member
  | cons head tail ih =>
      rw [List.map_cons, List.nodup_cons] at unique
      by_cases same : key head = key row
      · rcases List.mem_cons.mp member with rfl | later
        · simp
        · exact absurd (same ▸ List.mem_map_of_mem later) unique.1
      · have later : row ∈ tail := by
          rcases List.mem_cons.mp member with rfl | later
          · exact absurd rfl same
          · exact later
        rw [List.find?_cons_of_neg (by simpa using same)]
        exact ih unique.2 later

/-- A key is absent exactly when no row carries it. -/
theorem find?_eq_none_iff {table : Table key} {k : κ}
    : table.find? k = none ↔ k ∉ table.rows.map key := by
  simp [find?]

/-- Lookups do not depend on the order of the rows. -/
theorem find?_reorder {table : Table key} {rows : List ρ} (same : table.rows.Perm rows)
    (k : κ)
    : (table.reorder rows same).find? k = table.find? k := by
  cases found : table.find? k with
  | none =>
      rw [find?_eq_none_iff] at found ⊢
      exact fun member => found ((same.map key).mem_iff.mpr member)
  | some row =>
      have member : row ∈ (table.reorder rows same).rows := same.mem_iff.mp (mem_of_find? found)
      rw [← find?_key found]
      exact find?_of_mem member

/-- Tables with the same rows in any order answer every lookup alike. -/
theorem find?_perm {table table' : Table key} (same : table.rows.Perm table'.rows) (k : κ)
    : table'.find? k = table.find? k :=
  find?_reorder same k

/-- An update changes the lookup of its own key only, and only where there is a row. -/
theorem find?_update (table : Table key) (row : ρ) (k : κ)
    : (table.update row).find? k
      = if k = key row then (table.find? k).map (fun _ => row) else table.find? k := by
  obtain ⟨rows, unique⟩ := table
  unfold update find?
  dsimp only
  clear unique
  induction rows with
  | nil => simp
  | cons head tail ih =>
      by_cases hk : k = key row <;> by_cases hh : key head = key row <;>
        by_cases hx : key head = k <;> simp_all

/-- Writing back a stored row leaves the table as it was. -/
theorem update_of_mem {table : Table key} {row : ρ} (member : row ∈ table.rows)
    : table.update row = table := by
  have rows : (table.update row).rows = table.rows := by
    unfold update
    dsimp only
    conv_rhs => rw [← List.map_id table.rows]
    apply List.map_congr_left
    intro old stored
    by_cases same : key old = key row
    · have := (find?_of_mem stored).symm.trans (same ▸ find?_of_mem member)
      simp [Option.some.inj this]
    · simp [same]
  cases table
  simp only [update, mk.injEq] at rows ⊢
  exact rows

/-- What an update leaves of the row it overwrites, it leaves of all rows. -/
theorem map_update {β : Type*} {f : ρ → β} {table : Table key} {row : ρ}
    (same : ∀ old, table.find? (key row) = some old → f row = f old)
    : (table.update row).rows.map f = table.rows.map f := by
  unfold update
  rw [List.map_map]
  refine List.map_congr_left fun old stored => ?_
  rw [Function.comp_apply]
  split
  · next overwritten => exact same old (overwritten ▸ find?_of_mem stored)
  · rfl

/-- An accepted insertion: the key was fresh and the row goes last. -/
theorem insert?_some {table table' : Table key} {row : ρ}
    (inserted : table.insert? row = some table')
    : table.find? (key row) = none ∧ table'.rows = table.rows ++ [row] := by
  unfold insert? at inserted
  split at inserted
  · next fresh =>
      cases inserted
      exact ⟨find?_eq_none_iff.mpr fresh, rfl⟩
  · cases inserted

/-- The row that was inserted is there. -/
theorem mem_of_insert? {table table' : Table key} {row : ρ}
    (inserted : table.insert? row = some table')
    : row ∈ table'.rows := by
  rw [(insert?_some inserted).2]
  exact List.mem_append_right _ (List.mem_singleton.mpr rfl)

/-- Insertion is refused exactly when the key is taken. -/
theorem insert?_eq_none_iff {table : Table key} {row : ρ}
    : table.insert? row = none ↔ ∃ old, table.find? (key row) = some old := by
  rw [← Option.isSome_iff_exists, Option.isSome_iff_ne_none, Ne, find?_eq_none_iff]
  unfold insert?
  split <;> simp_all

/-- After an accepted insertion the new row answers its own key. -/
theorem find?_insert {table table' : Table key} {row : ρ}
    (inserted : table.insert? row = some table') (k : κ)
    : table'.find? k = if k = key row then some row else table.find? k := by
  obtain ⟨fresh, rows⟩ := insert?_some inserted
  unfold find? at fresh ⊢
  rw [rows, List.find?_append]
  by_cases same : k = key row
  · subst same
    simp [fresh]
  · simp [same, Ne.symm same]

/-- Tables with the same rows in any order accept the same insertions, and stay so. -/
theorem insert?_perm {table table' : Table key} (same : table.rows.Perm table'.rows) (row : ρ)
    : (table.insert? row = none ∧ table'.insert? row = none)
      ∨ ∃ new new',
          table.insert? row = some new ∧ table'.insert? row = some new'
          ∧ new.rows.Perm new'.rows := by
  cases inserted : table.insert? row with
  | none =>
      refine .inl ⟨rfl, insert?_eq_none_iff.mpr ?_⟩
      rw [find?_perm same]
      exact insert?_eq_none_iff.mp inserted
  | some new =>
      cases inserted' : table'.insert? row with
      | none =>
          obtain ⟨old, found⟩ := insert?_eq_none_iff.mp inserted'
          rw [find?_perm same, (insert?_some inserted).1] at found
          cases found
      | some new' =>
          refine .inr ⟨new, new', rfl, rfl, ?_⟩
          rw [(insert?_some inserted).2, (insert?_some inserted').2]
          exact same.append_right [row]

/-- The same update of tables with the same rows keeps them so. -/
theorem update_perm {table table' : Table key} (same : table.rows.Perm table'.rows) (row : ρ)
    : (table.update row).rows.Perm (table'.update row).rows :=
  same.map _

end Table
