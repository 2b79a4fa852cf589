import Mathlib.Data.List.Forall2
import Mathlib.Data.Option.Basic
import RecoveryAgent.Core.Models
import RecoveryAgent.Lib.Binary64

/-! Documents in a JSONB column: what `json.dumps` writes, as PostgreSQL keeps it.
A number is kept as its decimal digits, so a float that is written with an exponent comes back as
an integer, which is not always the number the float is.
-/

namespace RecoveryAgent

/-- A text without the NUL character. -/
def Clean (text : String) : Prop := '\x00' ∉ text.toList

instance (text : String) : Decidable (Clean text) := inferInstanceAs (Decidable (¬ _))

namespace Json

-----------------------------------------------------------------------------------------
-- Values
-----------------------------------------------------------------------------------------

/-- The number that a Python value equals, if any. -/
def number? : Json → Option Rat
  | .bool value => some (if value then 1 else 0)
  | .int value => some value
  | .float (.finite value) => some value
  | _ => none

/-- Python's `==`: numbers by value, dictionaries without the order of their keys. -/
inductive Equal : Json → Json → Prop where
  | null : Equal .null .null
  | str (text : String) : Equal (.str text) (.str text)
  | number {first second : Json} {value : Rat} (left : first.number? = some value)
      (right : second.number? = some value)
    : Equal first second
  | infinite (negative : Bool)
    : Equal (.float (.infinite negative)) (.float (.infinite negative))
  | arr {items items' : List Json} (each : List.Forall₂ Equal items items')
    : Equal (.arr items) (.arr items')
  | obj {fields fields' : List (String × Json)}
      (each : ∀ key, Option.Rel Equal (fields.lookup key) (fields'.lookup key))
    : Equal (.obj fields) (.obj fields')

/-- Induction over a value, its items, and what is found under its keys. -/
@[elab_as_elim]
theorem induct {motive : Json → Prop} (null : motive .null) (bool : ∀ value, motive (.bool value))
    (int : ∀ value, motive (.int value)) (float : ∀ value, motive (.float value))
    (str : ∀ value, motive (.str value))
    (arr : ∀ items, (∀ item ∈ items, motive item) → motive (.arr items))
    (obj
      : ∀ fields, (∀ key value, fields.lookup key = some value → motive value)
        → motive (.obj fields))
    : (value : Json) → motive value
  | .null => null
  | .bool value => bool value
  | .int value => int value
  | .float value => float value
  | .str value => str value
  | .arr items => arr items fun item _ => induct null bool int float str arr obj item
  | .obj fields =>
      obj fields fun _ value _ => induct null bool int float str arr obj value
termination_by value => sizeOf value
decreasing_by
  · next member =>
      have smaller := List.sizeOf_lt_of_mem member
      simp only [Json.arr.sizeOf_spec]
      omega
  · next found =>
      obtain ⟨front, rest, split, _⟩ := List.lookup_eq_some_iff.mp found
      have smaller := List.sizeOf_lt_of_mem (split ▸ List.mem_append_cons_self)
      simp only [Prod.mk.sizeOf_spec] at smaller
      simp only [Json.obj.sizeOf_spec]
      omega

-----------------------------------------------------------------------------------------
-- What the column takes
-----------------------------------------------------------------------------------------

mutual
/-- A document that is written and a JSONB column holds: no NUL character, no number that is
not finite, and no integer past the digits that Python turns into text.
-/
def storable : Json → Bool
  | .int value => decide ((toString value.natAbs).length ≤ 4300)
  | .float (.finite _) => true
  | .float _ => false
  | .str text => decide (Clean text)
  | .arr items => storableItems items
  | .obj fields => storableFields fields
  | _ => true

def storableItems : List Json → Bool
  | [] => true
  | item :: items => storable item && storableItems items

def storableFields : List (String × Json) → Bool
  | [] => true
  | field :: fields => decide (Clean field.1) && storable field.2 && storableFields fields
end

/-- A list that is stored has items that are. -/
theorem storable_item {items : List Json} (stored : storableItems items = true)
    : ∀ item ∈ items, item.storable = true := by
  induction items with
  | nil => simp
  | cons item items ih =>
      rw [storableItems, Bool.and_eq_true] at stored
      exact List.forall_mem_cons.mpr ⟨stored.1, ih stored.2⟩

/-- A dictionary that is stored has values that are. -/
theorem storable_value {fields : List (String × Json)} (stored : storableFields fields = true)
    {key : String} {value : Json} (found : fields.lookup key = some value)
    : value.storable = true := by
  induction fields with
  | nil => simp at found
  | cons field fields ih =>
      rw [storableFields, Bool.and_eq_true, Bool.and_eq_true] at stored
      rw [List.lookup_cons] at found
      split at found
      · cases found
        exact stored.1.2
      · exact ih stored.2 found

-----------------------------------------------------------------------------------------
-- What the column gives back
-----------------------------------------------------------------------------------------

/-- The integer that the `repr` of a float spells when it has an exponent. -/
def spelledOut (value : Rat) : Int :=
  if value < 0 then -Binary64.shortest (-value) else Binary64.shortest value

mutual
/-- The document as the column keeps it: floats from `1e16` on are written with an exponent, and
are integers from then on.
-/
def inJsonb : Json → Json
  | .float (.finite value) =>
      if 10 ^ 16 ≤ |value| then .int (spelledOut value) else .float (.finite value)
  | .arr items => .arr (itemsInJsonb items)
  | .obj fields => .obj (fieldsInJsonb fields)
  | value => value

def itemsInJsonb : List Json → List Json
  | [] => []
  | item :: items => inJsonb item :: itemsInJsonb items

def fieldsInJsonb : List (String × Json) → List (String × Json)
  | [] => []
  | (key, value) :: fields => (key, inJsonb value) :: fieldsInJsonb fields
end

example : (spelledOut (Binary64.round (10 ^ 23)) : Rat) ≠ Binary64.round (10 ^ 23) := by
  decide +kernel

theorem itemsInJsonb_eq (items : List Json) : itemsInJsonb items = items.map inJsonb := by
  induction items with
  | nil => rfl
  | cons item items ih => rw [itemsInJsonb, ih, List.map_cons]

theorem lookup_fieldsInJsonb (fields : List (String × Json)) (key : String)
    : (fieldsInJsonb fields).lookup key = (fields.lookup key).map inJsonb := by
  induction fields with
  | nil => rfl
  | cons field fields ih =>
      rw [fieldsInJsonb, List.lookup_cons, List.lookup_cons, ih]
      split <;> rfl

/-- A document without a float that the column turns into another number. -/
inductive Exact : Json → Prop where
  | null : Exact .null
  | bool (value : Bool) : Exact (.bool value)
  | int (value : Int) : Exact (.int value)
  | float {value : Rat} (same : 10 ^ 16 ≤ |value| → (spelledOut value : Rat) = value)
    : Exact (.float (.finite value))
  | str (text : String) : Exact (.str text)
  | arr {items : List Json} (each : ∀ item ∈ items, Exact item) : Exact (.arr items)
  | obj {fields : List (String × Json)}
      (each : ∀ key value, fields.lookup key = some value → Exact value)
    : Exact (.obj fields)

/-- The column keeps such a document as an equal one. -/
theorem Exact.equal {document : Json} (exact_ : document.Exact)
    : document.inJsonb.Equal document := by
  induction exact_ with
  | null => exact .null
  | bool _ => exact .number rfl rfl
  | int _ => exact .number rfl rfl
  | str text => exact .str text
  | @float value same =>
      unfold inJsonb
      split
      · next large => exact .number (congrArg some (same large)) rfl
      · exact .number rfl rfl
  | @arr items _ ih =>
      rw [inJsonb, itemsInJsonb_eq]
      exact .arr (List.forall₂_map_left_iff.mpr (List.forall₂_same.mpr ih))
  | @obj fields _ ih =>
      rw [inJsonb]
      refine .obj fun key => ?_
      rw [lookup_fieldsInJsonb]
      cases found : fields.lookup key with
      | none => exact .none
      | some value => exact .some (ih key value found)

theorem rel_some_iff {α β : Type} {related : α → β → Prop} {left : Option α} {right : β}
    : Option.Rel related left (some right) ↔ ∃ value, left = some value ∧ related value right := by
  constructor
  · intro rel
    cases rel with
    | some held => exact ⟨_, rfl, held⟩
  · rintro ⟨value, rfl, held⟩
    exact .some held

/-- What is read of such a document equals it. -/
theorem Exact.read_equal {document read : Json} (exact_ : document.Exact)
    (equal : read.Equal document.inJsonb)
    : read.Equal document := by
  induction exact_ generalizing read with
  | null => exact equal
  | bool _ => exact equal
  | int _ => exact equal
  | str _ => exact equal
  | @float value same =>
      unfold inJsonb at equal
      split at equal
      · next large =>
          cases equal with
          | number left right =>
              refine .number left ?_
              rw [← right]
              exact congrArg some (same large).symm
      · exact equal
  | @arr items _ ih =>
      rw [inJsonb, itemsInJsonb_eq] at equal
      cases equal with
      | number left right => cases right
      | arr each =>
          obtain ⟨length, each⟩ := List.forall₂_iff_get.mp (List.forall₂_map_right_iff.mp each)
          exact .arr (List.forall₂_iff_get.mpr ⟨length, fun i bound bound' =>
            ih _ (List.get_mem items ⟨i, bound'⟩) (each i bound bound')⟩)
  | @obj fields _ ih =>
      rw [inJsonb] at equal
      cases equal with
      | number left right => cases right
      | obj each =>
          refine .obj fun key => ?_
          have here := each key
          rw [lookup_fieldsInJsonb] at here
          cases found : fields.lookup key with
          | none =>
              rw [found] at here
              exact here
          | some value =>
              rw [found] at here
              obtain ⟨_, looked, equal⟩ := rel_some_iff.mp here
              exact looked ▸ .some (ih key value found equal)

/-- A document that is stored is such a one where what is read of it equals it. -/
theorem exact_of_read {document read : Json} (stored : document.storable = true)
    (kept : read.Equal document.inJsonb) (equal : read.Equal document)
    : document.Exact := by
  induction document using induct generalizing read with
  | null => exact .null
  | bool value => exact .bool value
  | int value => exact .int value
  | str text => exact .str text
  | float value =>
      cases value with
      | finite value =>
          refine .float fun large => ?_
          rw [inJsonb, if_pos large] at kept
          cases kept with
          | number left right =>
              cases equal with
              | number left' right' =>
                  rw [left] at left'
                  exact (Option.some.inj (right.trans (left'.trans right'.symm)))
      | _ => cases stored
  | arr items ih =>
      rw [inJsonb, itemsInJsonb_eq] at kept
      cases kept with
      | number left right => cases right
      | arr kept =>
          cases equal with
          | number left right => cases right
          | arr equal =>
              obtain ⟨_, kept⟩ := List.forall₂_iff_get.mp (List.forall₂_map_right_iff.mp kept)
              obtain ⟨length, equal⟩ := List.forall₂_iff_get.mp equal
              refine .arr fun item member => ?_
              obtain ⟨⟨i, bound⟩, rfl⟩ := List.get_of_mem member
              exact ih _ member (storable_item stored _ member) (kept i (length ▸ bound) bound)
                (equal i (length ▸ bound) bound)
  | obj fields ih =>
      rw [inJsonb] at kept
      cases kept with
      | number left right => cases right
      | obj kept =>
          cases equal with
          | number left right => cases right
          | obj equal =>
              refine .obj fun key value found => ?_
              have here := kept key
              rw [lookup_fieldsInJsonb, found] at here
              obtain ⟨_, looked, kept⟩ := rel_some_iff.mp here
              have here := equal key
              rw [found] at here
              obtain ⟨_, looked', equal⟩ := rel_some_iff.mp here
              cases looked.symm.trans looked'
              exact ih key value found (storable_value stored found) kept equal

/-- The column keeps a document once and for all. -/
theorem Equal.inJsonb_self {document : Json} (stored : document.storable = true)
    : document.inJsonb.Equal document.inJsonb := by
  induction document using induct with
  | null => exact .null
  | bool value => exact .number rfl rfl
  | int value => exact .number rfl rfl
  | str text => exact .str text
  | float value =>
      cases value with
      | finite value =>
          unfold inJsonb
          split <;> exact .number rfl rfl
      | _ => cases stored
  | arr items ih =>
      rw [inJsonb, itemsInJsonb_eq]
      refine .arr (List.forall₂_map_left_iff.mpr (List.forall₂_map_right_iff.mpr
        (List.forall₂_same.mpr fun item member => ?_)))
      exact ih item member (storable_item stored item member)
  | obj fields ih =>
      rw [inJsonb]
      refine .obj fun key => ?_
      rw [lookup_fieldsInJsonb]
      cases found : fields.lookup key with
      | none => exact .none
      | some value => exact .some (ih key value found (storable_value stored found))

/-- What equals a dictionary with keys is one. -/
theorem Equal.exists_fields {value : Json} {fields : List (String × Json)}
    (equal : Equal value (.obj fields)) (filled : fields ≠ [])
    : ∃ fields', value = .obj fields' ∧ fields' ≠ [] := by
  cases equal with
  | number left right => cases right
  | obj each =>
      refine ⟨_, rfl, ?_⟩
      rintro rfl
      obtain ⟨⟨key, held⟩, rest, rfl⟩ := List.exists_cons_of_ne_nil filled
      have first := each key
      rw [List.lookup_cons_self] at first
      cases first

end Json

-----------------------------------------------------------------------------------------
-- Notes
-----------------------------------------------------------------------------------------

/-- Notes that are equal as dictionaries, or both absent. -/
def NotesEqual (read given : Option Notes) : Prop :=
  Option.Rel (fun read given => Json.Equal (.obj read) (.obj given)) read given

/-- The failures are equal, their notes as dictionaries. -/
structure PaymentFailureEvent.Equal (read event : PaymentFailureEvent) : Prop where
  fields : read = { event with notes := read.notes }
  notes : NotesEqual read.notes event.notes

/-- The notes of a row: notes without keys are stored as NULL, and come back as None. -/
def rowNotes (notes : Option Notes) : Option Notes :=
  (notes.filter fun notes => !notes.isEmpty).map Json.fieldsInJsonb

/-- Notes that come back as they were given: they are absent, or have keys and no float that the
column turns into another number.
-/
def NotesKept (notes : Option Notes) : Prop :=
  ∀ given, notes = some given → given ≠ [] ∧ (Json.obj given).Exact

/-- Such notes are equal to those of their row. -/
theorem NotesKept.equal {notes : Option Notes} (kept : NotesKept notes)
    : NotesEqual (rowNotes notes) notes := by
  cases notes with
  | none => exact .none
  | some given =>
      obtain ⟨filled, same⟩ := kept given rfl
      obtain ⟨note, rest, rfl⟩ := List.exists_cons_of_ne_nil filled
      exact .some same.equal

/-- Notes that are read from the row of such notes are equal to them. -/
theorem NotesKept.read_equal {notes read : Option Notes} (kept : NotesKept notes)
    (equal : NotesEqual read (rowNotes notes))
    : NotesEqual read notes := by
  cases notes with
  | none => exact equal
  | some given =>
      obtain ⟨filled, same⟩ := kept given rfl
      obtain ⟨note, rest, rfl⟩ := List.exists_cons_of_ne_nil filled
      obtain ⟨found, rfl, same'⟩ := Json.rel_some_iff.mp equal
      exact .some (same.read_equal same')

end RecoveryAgent
