import RecoveryAgent.Lib.HashChain
import RecoveryAgent.Store.AuditText

/-! The check of audit trails (`verify_chain` of `app/main.py`).
The hashed text of an entry tells all its hashed fields, so an accepted trail is bound by the
hash of its last entry.
-/

namespace RecoveryAgent

-----------------------------------------------------------------------------------------
-- Entries as the check reads them
-----------------------------------------------------------------------------------------

/-- An `AuditEntry` object, whose states and actor are any strings and whose numbers are any
integers. Those that the service writes are the rows of `AuditEntry`s.
-/
structure AuditRow where
  caseId : String
  fromState : String
  toState : String
  ruleFired : String
  ruleVersion : Int
  timestamp : Datetime
  actor : String
  sequenceId : Option Int := none
  prevHash : Option String := none
  entryHash : Option String := none
  scheduledAt : Option Datetime := none
  ruleFired_ne : ruleFired ≠ "" := by decide
  ruleVersion_pos : 1 ≤ ruleVersion := by decide

/-- The entry as the check reads it. -/
def AuditEntry.row (entry : AuditEntry) : AuditRow where
  caseId := entry.caseId
  fromState := entry.fromState.name
  toState := entry.toState.name
  ruleFired := entry.ruleFired
  ruleVersion := entry.ruleVersion
  timestamp := entry.timestamp
  actor := entry.actor.name
  sequenceId := entry.sequenceId.map Int.ofNat
  prevHash := entry.prevHash
  entryHash := entry.entryHash
  scheduledAt := entry.scheduledAt
  ruleFired_ne := entry.ruleFired_ne
  ruleVersion_pos := by
    have := entry.ruleVersion_pos
    omega

namespace AuditRow

open AuditEntry (quote quoteOrNull)

/-- The text `verify_chain` hashes, with the same keys as `_serialize_entry`. -/
def serialize (row : AuditRow) : String :=
  "\x7b\"actor\": " ++ quote row.actor
    ++ ", \"case_id\": " ++ quote row.caseId
    ++ ", \"from_state\": " ++ quote row.fromState
    ++ ", \"prev_hash\": " ++ quoteOrNull row.prevHash
    ++ ", \"rule_fired\": " ++ quote row.ruleFired
    ++ ", \"rule_version\": " ++ toString row.ruleVersion
    ++ ", \"scheduled_at\": " ++ quoteOrNull (row.scheduledAt.map isoformat)
    ++ ", \"sequence_id\": " ++ ((row.sequenceId.map toString).getD "null")
    ++ ", \"timestamp\": " ++ quote (isoformat row.timestamp)
    ++ ", \"to_state\": " ++ quote row.toState ++ "\x7d"

/-- The expected hash of an entry. -/
def computedHash (row : AuditRow) : String := Sha256.hexdigest row.serialize

end AuditRow

/-- The store and the check hash the same text. -/
theorem AuditEntry.row_serialize (entry : AuditEntry) : entry.row.serialize = entry.serialize := by
  have version (n : Nat) : toString (n : Int) = toString n := rfl
  have number (n : Option Nat) : (n.map Int.ofNat).map toString = n.map toString := by
    cases n <;> rfl
  unfold AuditRow.serialize serialize row
  dsimp only
  rw [version, number]

/-- A linked entry stores the hash that the check expects of it. -/
theorem AuditEntry.linked_stored (entry : AuditEntry) (prevHash : Option String)
    : (entry.linked prevHash).row.entryHash
      = some (entry.linked prevHash).row.computedHash := by
  rw [AuditRow.computedHash, row_serialize]
  rfl

-----------------------------------------------------------------------------------------
-- The check
-----------------------------------------------------------------------------------------

/-- The response of `verify_chain`. -/
structure ChainReport where
  valid : Bool
  detail : String
  deriving DecidableEq

/-- How an f-string shows an optional value. -/
def orNone (text : Option String) : String := text.getD "None"

/-- The loop of `verify_chain`. -/
def verifyChainFrom (prevHash : Option String) : List AuditRow → ChainReport
  | [] => ⟨true, "Chain intact"⟩
  | row :: rest =>
      if row.prevHash ≠ prevHash then
        ⟨false, "Chain break at sequence " ++ orNone (row.sequenceId.map toString)
          ++ ": expected prev " ++ orNone prevHash ++ ", got " ++ orNone row.prevHash⟩
      else if row.entryHash ≠ some row.computedHash then
        ⟨false, "Hash mismatch at sequence " ++ orNone (row.sequenceId.map toString)⟩
      else verifyChainFrom row.entryHash rest

/-- `verify_chain` on the trail of a case. -/
def verifyChain (audit : List AuditRow) : ChainReport :=
  if audit.isEmpty then ⟨false, "No audit entries"⟩ else verifyChainFrom none audit

/-- Audit entries as a chain of hashes. -/
def auditChain : HashChain AuditRow String where
  previous := (·.prevHash)
  stored := (·.entryHash)
  computed := (·.computedHash)

/-- The loop accepts exactly the chains, by induction over the entries. -/
theorem verifyChainFrom_valid {prevHash : Option String} {audit : List AuditRow}
    : (verifyChainFrom prevHash audit).valid = true ↔ auditChain.Accepts prevHash audit := by
  induction audit generalizing prevHash with
  | nil => simp [verifyChainFrom, HashChain.Accepts]
  | cons row rest ih =>
      simp only [verifyChainFrom, HashChain.Accepts, auditChain] at ih ⊢
      by_cases linked : row.prevHash = prevHash <;>
        by_cases hashed : row.entryHash = some row.computedHash <;>
        simp [linked, hashed]
      rw [← hashed]
      exact ih

/-- `verify_chain` accepts the non-empty chains. -/
theorem verifyChain_valid {audit : List AuditRow}
    : (verifyChain audit).valid = true ↔ audit ≠ [] ∧ auditChain.Accepts none audit := by
  unfold verifyChain
  cases audit with
  | nil => simp
  | cons row rest => simp [verifyChainFrom_valid]

-----------------------------------------------------------------------------------------
-- What the hashed text tells
-----------------------------------------------------------------------------------------

/-- A number in decimal is its digits behind its sign. -/
theorem integer_toList (n : Int)
    : (toString n).toList = (if 0 ≤ n then [] else ['-']) ++ Nat.toDigits 10 n.natAbs := by
  cases n with
  | ofNat n => simp [Int.repr]
  | negSucc n =>
      have negative : ¬0 ≤ Int.negSucc n := by omega
      simp [Int.repr, negative]

theorem integer_chars {n : Int} {c : Char} (member : c ∈ (toString n).toList)
    : c = '-' ∨ c.isDigit = true := by
  rw [integer_toList] at member
  rcases List.mem_append.mp member with sign | digit
  · split at sign
    · cases sign
    · exact .inl (List.mem_singleton.mp sign)
  · exact .inr (Nat.isDigit_of_mem_toDigits (by decide) (by decide) digit)

theorem integer_ne_nil (n : Int) : (toString n).toList ≠ [] := by
  rw [integer_toList]
  simp [Nat.toDigits_ne_nil]

theorem integer_injective : Function.Injective fun n : Int => (toString n).toList := by
  intro n m same
  dsimp only at same
  rw [integer_toList, integer_toList] at same
  have numbers {n m : Nat} (same : Nat.toDigits 10 n = Nat.toDigits 10 m) : n = m := by
    rw [← @Nat.ofDigitChars_ten_toDigits n, same, Nat.ofDigitChars_ten_toDigits]
  have signed {n m : Nat} : '-' :: Nat.toDigits 10 n ≠ Nat.toDigits 10 m := by
    intro same
    have dash : '-'.isDigit = true :=
      @Nat.isDigit_of_mem_toDigits 10 m _ (by decide) (by decide) (by rw [← same]; simp)
    exact absurd dash (by decide)
  split at same <;> split at same <;>
    simp only [List.nil_append, List.singleton_append] at same
  · have := numbers same
    omega
  · exact absurd same.symm signed
  · exact absurd same signed
  · have := numbers (List.cons.inj same).2
    omega

/-- A number is read up to the comma behind it. -/
theorem integer_delimited : Delimited fun n : Int => (toString n).toList ++ [','] :=
  have stop : ¬(',' = '-' ∨ ','.isDigit = true) := by decide
  .closed integer_injective (fun _ _ member => integer_chars member) stop

/-- A string or null is read back. -/
theorem quoteOrNull_delimited
    : Delimited fun text : Option String => (AuditEntry.quoteOrNull text).toList := by
  have marked (a : String) (s t : List Char)
      : (AuditEntry.quote a).toList ++ s ≠ "null".toList ++ t := by
    simp [AuditEntry.quote]
  have option := AuditEntry.quote_delimited.option marked
  intro a b s t same
  refine option ?_
  cases a <;> cases b <;> exact same

/-- A number or null is read back up to the comma behind it. -/
theorem integerOrNull_delimited
    : Delimited fun n : Option Int => ((n.map toString).getD "null").toList ++ [','] := by
  have marked (n : Int) (s t : List Char)
      : ((toString n).toList ++ [',']) ++ s ≠ ("null".toList ++ [',']) ++ t := by
    intro same
    have first : 'n' ∈ (toString n).toList ∨ (toString n).toList = [] := by
      cases digits : (toString n).toList with
      | nil => exact .inr rfl
      | cons c rest =>
          rw [digits] at same
          have head : c = 'n' := by simpa using congrArg List.head? same
          exact .inl (by simp [head])
    rcases first with letter | empty
    · exact absurd (integer_chars letter) (by decide)
    · exact integer_ne_nil n empty
  have option := integer_delimited.option marked
  intro a b s t same
  refine option ?_
  cases a <;> cases b <;> exact same

/-- The hashed text tells every hashed field. -/
theorem AuditRow.eq_of_serialize {a b : AuditRow} (same : a.serialize = b.serialize)
    (hash : a.entryHash = b.entryHash)
    : a = b := by
  have version : ", \"scheduled_at\": ".toList = [','] ++ " \"scheduled_at\": ".toList := by
    decide +kernel
  have sequence : ", \"timestamp\": ".toList = [','] ++ " \"timestamp\": ".toList := by
    decide +kernel
  have lists := congrArg String.toList same
  unfold serialize at lists
  simp only [String.toList_append, version, sequence, -String.reduceToList] at lists
  simp only [List.append_assoc, -String.reduceToList] at lists
  simp only [← List.append_assoc (String.toList (toString _)),
    ← List.append_assoc (String.toList (Option.getD _ _)), -String.reduceToList] at lists
  have quoted := AuditEntry.quote_delimited
  obtain ⟨actor, lists⟩ := quoted.after _ lists
  obtain ⟨caseId, lists⟩ := quoted.after _ lists
  obtain ⟨fromState, lists⟩ := quoted.after _ lists
  obtain ⟨prevHash, lists⟩ := quoteOrNull_delimited.after _ lists
  obtain ⟨ruleFired, lists⟩ := quoted.after _ lists
  obtain ⟨ruleVersion, lists⟩ := integer_delimited.after _ lists
  obtain ⟨scheduled, lists⟩ := quoteOrNull_delimited.after _ lists
  obtain ⟨sequenceId, lists⟩ := integerOrNull_delimited.after _ lists
  obtain ⟨timestamp, lists⟩ := quoted.after _ lists
  obtain ⟨toState, _⟩ := quoted.after _ lists
  have timestamp := isoformat_injective timestamp
  have scheduledAt := Option.map_injective isoformat_injective scheduled
  cases a
  cases b
  simp_all

-----------------------------------------------------------------------------------------
-- Tamper evidence
-----------------------------------------------------------------------------------------

/-- Two accepted trails that end in the same hash are the same trail, where SHA-256 does not
collide on their entries: nothing can be altered, inserted, removed or reordered. Texts are
sequences of Unicode scalar values; a Python text with surrogate code points, for which
`json.dumps` writes the same as for the character they stand for, is none.
-/
theorem verifyChain_tamperEvident {first second : List AuditRow}
    (accepted : (verifyChain first).valid = true)
    (accepted' : (verifyChain second).valid = true)
    (sameHash : first.getLast?.map (·.entryHash) = second.getLast?.map (·.entryHash))
    (collisionFree
      : ∀ a ∈ first, ∀ b ∈ second,
          Sha256.hexdigest a.serialize = Sha256.hexdigest b.serialize
          → a.serialize = b.serialize)
    : first = second := by
  refine (verifyChain_valid.mp accepted).2.eq_of_lastHash (verifyChain_valid.mp accepted').2 ?_ ?_
  · intro a member b member' stored stored' hashes
    refine AuditRow.eq_of_serialize (collisionFree a member b member' hashes) ?_
    calc
      a.entryHash = some a.computedHash := stored
      _ = some b.computedHash := by rw [show a.computedHash = b.computedHash from hashes]
      _ = b.entryHash := stored'.symm
  · unfold HashChain.lastHash
    rw [show first.getLast?.map auditChain.stored = second.getLast?.map auditChain.stored
      from sameHash]

/-- The entry that opens a case. -/
def createdEntry : AuditEntry where
  caseId := "pay_2"
  fromState := .received
  toState := .classified
  ruleFired := "create_case"
  ruleVersion := 2
  timestamp := 0
  actor := .agent
  ruleVersion_pos := secondVersion_pos

/-- The entry as the store numbers, links and hashes it. -/
def openedEntry : AuditEntry := { createdEntry with sequenceId := some 1 }.linked none

/-- The entry that puts the case into the treatment bucket. -/
def assignedEntry : AuditEntry where
  caseId := "pay_2"
  fromState := .classified
  toState := .treatment
  ruleFired := "assign_bucket_treatment"
  ruleVersion := 2
  timestamp := 0
  actor := .agent
  ruleVersion_pos := secondVersion_pos

/-- The second entry as the store numbers it and links it to the first. -/
def linkedAssigned : AuditEntry :=
  { assignedEntry with sequenceId := some 2 }.linked openedEntry.entryHash

/-- The first entry as read back, its hash written out. -/
def readOpened : AuditRow where
  caseId := "pay_2"
  fromState := "RECEIVED"
  toState := "CLASSIFIED"
  ruleFired := "create_case"
  ruleVersion := 2
  timestamp := 0
  actor := "agent"
  sequenceId := some 1
  entryHash := some "5188a2d9b6cf796f3584592e0308b947791bc5202bf7fde676f1d9a390456f25"

/-- The second entry as read back. -/
def readAssigned : AuditRow where
  caseId := "pay_2"
  fromState := "CLASSIFIED"
  toState := "TREATMENT"
  ruleFired := "assign_bucket_treatment"
  ruleVersion := 2
  timestamp := 0
  actor := "agent"
  sequenceId := some 2
  prevHash := some "5188a2d9b6cf796f3584592e0308b947791bc5202bf7fde676f1d9a390456f25"
  entryHash := some "922fc9898114b7825687af493b2b819416408463c3103e5a895aadefb1646ab3"

theorem readOpened_hash
    : Sha256.hexdigest readOpened.serialize
      = "5188a2d9b6cf796f3584592e0308b947791bc5202bf7fde676f1d9a390456f25" := by
  decide +kernel

theorem readAssigned_hash
    : Sha256.hexdigest readAssigned.serialize
      = "922fc9898114b7825687af493b2b819416408463c3103e5a895aadefb1646ab3" := by
  decide +kernel

/-- The store hashes the texts of the entries that are read back. -/
theorem linkedTrail_serialize
    : openedEntry.row.serialize = readOpened.serialize
      ∧ linkedAssigned.row.serialize = readAssigned.serialize := by
  have first : openedEntry.row.serialize = readOpened.serialize := by decide +kernel
  have hash : openedEntry.entryHash = readOpened.entryHash := by
    refine (AuditEntry.linked_stored _ none).trans ?_
    exact congrArg some ((congrArg Sha256.hexdigest first).trans readOpened_hash)
  refine ⟨first, ?_⟩
  rw [linkedAssigned, hash]
  decide +kernel

/-- The two entries that a store links are the two that are read back: the trail is bound by
its last hash.
-/
theorem verifyChain_tamperEvident_opened
    : [openedEntry.row, linkedAssigned.row] = [readOpened, readAssigned] := by
  obtain ⟨opened, assigned⟩ := linkedTrail_serialize
  have stored : openedEntry.row.entryHash = some openedEntry.row.computedHash :=
    AuditEntry.linked_stored _ none
  have stored' : linkedAssigned.row.entryHash = some linkedAssigned.row.computedHash :=
    AuditEntry.linked_stored _ openedEntry.entryHash
  have accepted : (verifyChain [openedEntry.row, linkedAssigned.row]).valid = true :=
    verifyChain_valid.mpr ⟨by simp, rfl, stored, rfl, stored', trivial⟩
  have accepted' : (verifyChain [readOpened, readAssigned]).valid = true :=
    verifyChain_valid.mpr ⟨by simp, rfl, congrArg some readOpened_hash.symm, rfl,
      congrArg some readAssigned_hash.symm, trivial⟩
  have apart : Sha256.hexdigest readOpened.serialize ≠ Sha256.hexdigest readAssigned.serialize := by
    rw [readOpened_hash, readAssigned_hash]
    decide
  refine verifyChain_tamperEvident accepted accepted' ?_ ?_
  · refine congrArg some (stored'.trans (congrArg some ?_))
    exact (congrArg Sha256.hexdigest assigned).trans readAssigned_hash
  · intro a written b read
    simp only [List.mem_cons, List.not_mem_nil, or_false] at written read
    rcases written with rfl | rfl <;> rcases read with rfl | rfl <;>
      simp only [opened, assigned, implies_true]
    · exact fun same => absurd same apart
    · exact fun same => absurd same.symm apart

end RecoveryAgent
