import Mathlib.Data.List.Infix
import RecoveryAgent.Core.Config

/-! Operations of the language on decoded values of any shape.
What a document or a payload holds is only known when it is used, and each use raises on the
shapes it is not made for.
-/

namespace RecoveryAgent

namespace Json

/-- `value[key]` with a text key. -/
def item (value : Json) (key : String) : Except PyError Json :=
  match value with
  | .obj fields =>
      match fields.lookup key with
      | some found => .ok found
      | none => .error (.keyError key)
  | _ => .error .typeError

/-- `value.get(key, default)`. -/
def get (value : Json) (key : String) (default : Json := .null) : Except PyError Json :=
  match value with
  | .obj fields => .ok ((fields.lookup key).getD default)
  | _ => .error .attributeError

/-- `value.items()`. -/
def fields (value : Json) : Except PyError (List (String × Json)) :=
  match value with
  | .obj fields => .ok fields
  | _ => .error .attributeError

/-- `for item in value`: a dictionary is iterated over its keys, text over its characters. -/
def iterate (value : Json) : Except PyError (List Json) :=
  match value with
  | .arr items => .ok items
  | .obj fields => .ok (fields.map fun field => .str field.1)
  | .str text => .ok (text.toList.map fun c => .str (String.singleton c))
  | _ => .error .typeError

/-- Text, where the value is text. -/
def text? : Json → Option String
  | .str text => some text
  | _ => none

/-- `key in value`: a key of a dictionary, an item of a list, a part of a text. -/
def contains (value : Json) (key : String) : Except PyError Bool :=
  match value with
  | .obj fields => .ok (fields.lookup key).isSome
  | .arr items => .ok (items.any fun item => item.text? = some key)
  | .str text => .ok (decide (key.toList <:+: text.toList))
  | _ => .error .typeError

end Json

/-- The digits that a text begins with, with single underscores between them, and what follows;
`ended` says whether they may end here.
-/
def takeDigits (ended : Bool) : List Char → Option (List Nat × List Char)
  | [] => if ended then some ([], []) else none
  | c :: rest =>
      match Unicode.decimal? c with
      | some digit => (takeDigits true rest).map fun taken => (digit :: taken.1, taken.2)
      | none =>
          if c = '_' ∧ ended then takeDigits false rest
          else if ended then some ([], c :: rest)
          else none

/-- The number that digits spell; the interpreter converts no more than 4300 at once. -/
def intOf (digits : List Nat) : Except PyError Int :=
  if 4300 < digits.length then
    .error (.valueError ("Exceeds the limit (4300 digits) for integer string conversion: value has "
      ++ toString digits.length ++ " digits; use sys.set_int_max_str_digits() to increase the limit"))
  else .ok (Unicode.number digits)

/-- White space around a number: the separators of ASCII are none. -/
def isBlank (c : Char) : Bool := isSpace c && !(28 ≤ c.toNat && c.toNat ≤ 31)

/-- `int(text)`, in base 10. -/
def parseInt (text : String) : Except PyError Int :=
  let invalid : Except PyError Int :=
    .error (.valueErrorOf "invalid literal for int() with base 10: " (some text) "")
  let (sign, unsigned) :=
    match stripOf isBlank text.toList with
    | '-' :: unsigned => (-1, unsigned)
    | '+' :: unsigned => (1, unsigned)
    | unsigned => (1, unsigned)
  match takeDigits false unsigned with
  | none => invalid
  | some (digits, rest) =>
      match intOf digits with
      | .error raised => .error raised
      | .ok n => if rest = [] then .ok (sign * n) else invalid

/-- `int(value)`: a float is truncated. -/
def pyInt (value : Json) : Except PyError Int :=
  match value with
  | .int n => .ok n
  | .bool flag => .ok (if flag then 1 else 0)
  | .float (.finite q) => .ok (q.num.tdiv q.den)
  | .float (.infinite _) => .error .overflowError
  | .float .nan => .error (.valueError "cannot convert float NaN to integer")
  | .str text => parseInt text
  | .null => .error .typeError
  | .arr _ => .error .typeError
  | .obj _ => .error .typeError

example : pyInt (.str " -1_000\n") = .ok (-1000) := by decide +kernel

/-- `\d+`: at least one digit, and nothing else. -/
def digits? (chars : List Char) : Option (List Nat) :=
  if chars = [] then none else chars.mapM Unicode.decimal?

end RecoveryAgent
