import RecoveryAgent.Core.TimeText
import RecoveryAgent.Store.InMemoryCaseStore

/-! JSON strings are read back.
Escaping is undone character by character, so the text of a quoted string tells the string
and where it ends.
-/

namespace RecoveryAgent.AuditEntry

/-- The value of hexadecimal digits. -/
def ofHex (digits : List Char) : Nat :=
  digits.foldl (fun n c => n * 16 + (if c.isDigit then c.toNat - 48 else c.toNat - 87)) 0

theorem ofHex_concat (digits : List Char) {d : Nat} (bound : d < 16)
    : ofHex (digits ++ [Nat.digitChar d]) = ofHex digits * 16 + d := by
  have value : ∀ d < 16,
      (if (Nat.digitChar d).isDigit then (Nat.digitChar d).toNat - 48
        else (Nat.digitChar d).toNat - 87) = d := by
    decide
  simp only [ofHex, List.foldl_append, List.foldl_cons, List.foldl_nil, value d bound]

/-- Digits are read back, by induction on the number with its last digit cut off. -/
theorem ofHex_toDigits (n : Nat) : ofHex (Nat.toDigits 16 n) = n := by
  induction n using Nat.strongRecOn with
  | ind n ih =>
      by_cases small : n < 16
      · rw [Nat.toDigits_of_lt_base small]
        have single := ofHex_concat [] small
        simpa [ofHex] using single
      · rw [Nat.toDigits_of_base_le (by decide) (by omega), ofHex_concat _ (by omega),
          ih (n / 16) (by omega)]
        omega

theorem ofHex_zeros (count : Nat) (digits : List Char)
    : ofHex (List.replicate count '0' ++ digits) = ofHex digits := by
  induction count with
  | zero => rfl
  | succ count ih =>
      rw [List.replicate_succ, List.cons_append, ← ih]
      simp [ofHex]

/-- An escaped code unit is read back from its four digits. -/
theorem escapeUnit_toList {unit : Nat} (bound : unit < 65536)
    : ∃ digits : List Char,
        digits.length = 4 ∧ ofHex digits = unit
        ∧ (escapeUnit unit).toList = '\\' :: 'u' :: digits := by
  have length : (Nat.toDigits 16 unit).length ≤ 4 :=
    (Nat.length_toDigits_le_iff (by decide) (by decide)).mpr (by simpa using bound)
  refine ⟨_, ?_, ?_, by simp [escapeUnit, String.toList_append]; rfl⟩
  · simp only [List.length_append, List.length_replicate]
    omega
  · rw [ofHex_zeros, ofHex_toDigits]

/-- The character behind an escaping backslash. -/
def unescaped (c : Char) : Char :=
  if c = 'n' then '\n' else if c = 'r' then '\r' else if c = 't' then '\t'
  else if c = 'b' then Char.ofNat 8 else if c = 'f' then Char.ofNat 12 else c

/-- Reads one character of a JSON string. -/
def readChar : List Char → Option (Char × List Char)
  | '\\' :: 'u' :: text =>
      let unit := ofHex (text.take 4)
      if 55296 ≤ unit ∧ unit < 56320 then
        some (Char.ofNat
            (65536 + (unit - 55296) * 1024 + (ofHex ((text.drop 6).take 4) - 56320)),
          text.drop 10)
      else some (Char.ofNat unit, text.drop 4)
  | '\\' :: c :: text => some (unescaped c, text)
  | c :: text => some (c, text)
  | [] => none

/-- An escaped code unit outside the high surrogates is read as its character. -/
theorem readChar_escapeUnit {unit : Nat} (bound : unit < 65536)
    (lone : ¬(55296 ≤ unit ∧ unit < 56320)) (text : List Char)
    : readChar ((escapeUnit unit).toList ++ text) = some (Char.ofNat unit, text) := by
  obtain ⟨digits, length, value, escaped⟩ := escapeUnit_toList bound
  have front : (digits ++ text).take 4 = digits := List.take_left' length
  have rest : (digits ++ text).drop 4 = text := List.drop_left' length
  rw [escaped, List.cons_append, List.cons_append, readChar]
  simp only [front, rest, value, if_neg lone]

/-- Two code units are read as one character where the first is a high surrogate. -/
theorem readChar_escapePair {high low : Nat} (bound : high < 65536) (bound' : low < 65536)
    (surrogate : 55296 ≤ high ∧ high < 56320) (text : List Char)
    : readChar ((escapeUnit high ++ escapeUnit low).toList ++ text)
      = some (Char.ofNat (65536 + (high - 55296) * 1024 + (low - 56320)), text) := by
  obtain ⟨digits, length, value, escaped⟩ := escapeUnit_toList bound
  obtain ⟨digits', length', value', escaped'⟩ := escapeUnit_toList bound'
  have front (text : List Char) : (digits ++ text).take 4 = digits := List.take_left' length
  have rest : (digits ++ ('\\' :: 'u' :: (digits' ++ text))).drop 6 = digits' ++ text := by
    rw [show 6 = digits.length + 2 by omega, List.drop_append]
    simp
  have front' : (digits' ++ text).take 4 = digits' := List.take_left' length'
  have rest' : (digits ++ ('\\' :: 'u' :: (digits' ++ text))).drop 10 = text := by
    rw [show 10 = 6 + 4 from rfl, ← List.drop_drop, rest, List.drop_left' length']
  rw [String.toList_append, escaped, escaped', List.cons_append, List.cons_append,
    List.append_assoc, List.cons_append, List.cons_append, readChar, List.cons_append]
  simp only [front, value, rest, front', value', rest', if_pos surrogate]

/-- Reading undoes escaping. -/
theorem readChar_escapeChar (c : Char) (text : List Char)
    : readChar ((escapeChar c).toList ++ text) = some (c, text) := by
  have same {n : Nat} (code : c.toNat = n) : Char.ofNat n = c := by
    rw [← code, Char.ofNat_toNat]
  have valid : c.toNat < 55296 ∨ 57343 < c.toNat ∧ c.toNat < 1114112 := c.valid
  unfold escapeChar
  split
  · next quote => simp [readChar, unescaped, quote]
  split
  · next backslash => simp [readChar, unescaped, backslash]
  split
  · next newline => simp [readChar, unescaped, newline]
  split
  · next ret => simp [readChar, unescaped, ret]
  split
  · next tab => simp [readChar, unescaped, tab]
  split
  · next code => simpa [readChar, unescaped] using same code
  split
  · next code => simpa [readChar, unescaped] using same code
  next backslash _ _ _ _ _ =>
  split
  · rw [String.toList_singleton, List.singleton_append]
    unfold readChar
    split <;> simp_all
  split
  · next basic =>
      rw [readChar_escapeUnit basic (by omega), Char.ofNat_toNat]
  · have code
        : c.toNat = 65536 + (55296 + (c.toNat - 65536) / 1024 - 55296) * 1024
            + (56320 + (c.toNat - 65536) % 1024 - 56320) := by
      omega
    rw [readChar_escapePair (by omega) (by omega) (by omega), same code]

/-- The text of a quoted string tells the string, and where it ends. -/
theorem quote_delimited : Delimited fun text => (quote text).toList := by
  have chars : Delimited fun c => (escapeChar c).toList :=
    .of_reader readChar_escapeChar
  -- an escaped character never starts with a quotation mark
  have marked (c : Char) (s t : List Char) : (escapeChar c).toList ++ s ≠ '"' :: t := by
    intro same
    have read := readChar_escapeChar c s
    have first : readChar ('"' :: t) = some ('"', t) := by
      rw [readChar] <;> simp
    rw [same, first] at read
    rw [← (Prod.mk.inj (Option.some.inj read)).1] at same
    simp [escapeChar] at same
  intro a b s t same
  have text (a : String) (s : List Char)
      : (quote a).toList ++ s
        = ['"'] ++ ((a.toList.flatMap (fun c => (escapeChar c).toList) ++ ['"']) ++ s) := by
    simp [quote, String.toList_append, List.flatMap_def, Function.comp_def]
  rw [text, text] at same
  obtain ⟨lists, rest⟩ := (chars.list marked).after _ same
  exact ⟨String.toList_inj.mp lists, rest⟩

end RecoveryAgent.AuditEntry
