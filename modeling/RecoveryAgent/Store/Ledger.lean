import RecoveryAgent.Store.AuditChain
import RecoveryAgent.Store.CaseStore

/-! The audit log as one ledger.
Whatever the store, the entries it numbered itself form one list in which every case's
entries are a chain. The in-memory store keeps the list case by case, Postgres as a table.
-/

namespace RecoveryAgent

-----------------------------------------------------------------------------------------
-- Ledgers
-----------------------------------------------------------------------------------------

/-- The entries of all cases in the order of their sequence ids, from 1 without gaps, those of
each case chained.
-/
structure Ledger where
  entries : List AuditEntry
  numbered : entries.map (·.sequenceId) = (List.range' 1 entries.length).map some
  chained
    : ∀ caseId,
        auditChain.Accepts none ((entries.filter (·.caseId = caseId)).map AuditEntry.row)

namespace Ledger

/-- The ledger without entries. -/
def empty : Ledger := ⟨[], rfl, fun _ => trivial⟩

variable (ledger : Ledger) (caseId : String)

/-- The entries of a case. -/
def trail : List AuditEntry := ledger.entries.filter (·.caseId = caseId)

/-- The hash the next entry of a case is linked behind. -/
def lastEntryHash : Option String := (ledger.trail caseId).getLast?.bind (·.entryHash)

theorem lastHash_eq
    : auditChain.lastHash none ((ledger.trail caseId).map AuditEntry.row)
      = ledger.lastEntryHash caseId := by
  unfold HashChain.lastHash lastEntryHash
  rw [List.getLast?_map]
  cases (ledger.trail caseId).getLast? with
  | none => rfl
  | some entry => rfl

/-- The entry as the ledger takes it: under the next number, behind its case's last hash. -/
def next (entry : AuditEntry) : AuditEntry :=
  { entry with sequenceId := some (ledger.entries.length + 1) }.linked
    (ledger.lastEntryHash entry.caseId)

/-- The ledger after one more entry. -/
def append (entry : AuditEntry) : Ledger where
  entries := ledger.entries ++ [ledger.next entry]
  numbered := by
    rw [List.map_append, ledger.numbered, List.length_append, List.length_singleton,
      List.range'_concat, List.map_append]
    simp [next, AuditEntry.linked, Nat.add_comm]
  chained := by
    intro caseId
    rw [List.filter_append]
    by_cases same : entry.caseId = caseId
    · have single : [ledger.next entry].filter (·.caseId = caseId) = [ledger.next entry] := by
        simp [next, AuditEntry.linked, same]
      rw [single, List.map_append, List.map_singleton, HashChain.accepts_concat]
      refine ⟨ledger.chained caseId, ?_, AuditEntry.linked_stored _ _⟩
      rw [← same]
      exact (ledger.lastHash_eq entry.caseId).symm
    · have other : [ledger.next entry].filter (·.caseId = caseId) = [] := by
        simp [next, AuditEntry.linked, same]
      rw [other, List.append_nil]
      exact ledger.chained caseId

@[simp] theorem append_entries (entry : AuditEntry)
    : (ledger.append entry).entries = ledger.entries ++ [ledger.next entry] := rfl

@[simp] theorem next_bare (entry : AuditEntry) : (ledger.next entry).bare = entry.bare := rfl

@[simp] theorem next_caseId (entry : AuditEntry)
    : (ledger.next entry).caseId = entry.caseId := rfl

/-- One more entry extends the trail of its own case. -/
theorem append_trail (entry : AuditEntry)
    : (ledger.append entry).trail caseId
      = ledger.trail caseId ++ if entry.caseId = caseId then [ledger.next entry] else [] := by
  unfold trail
  rw [append_entries, List.filter_append]
  by_cases same : entry.caseId = caseId <;> simp [same]

variable {ledger}

/-- Appending keeps the order of the entries, by induction over those appended. -/
theorem foldl_append_bare (entries : List AuditEntry)
    : (entries.foldl append ledger).entries.map AuditEntry.bare
      = ledger.entries.map AuditEntry.bare ++ entries.map AuditEntry.bare := by
  induction entries generalizing ledger with
  | nil => simp
  | cons entry rest ih => simp [ih]

/-- Lists of the same entries, up to what the store adds, agree on every case. -/
theorem filter_bare {entries entries' : List AuditEntry}
    (same : entries.map AuditEntry.bare = entries'.map AuditEntry.bare) (caseId : String)
    : (entries.filter (·.caseId = caseId)).map AuditEntry.bare
      = (entries'.filter (·.caseId = caseId)).map AuditEntry.bare := by
  have filtered (entries : List AuditEntry)
      : (entries.filter (·.caseId = caseId)).map AuditEntry.bare
        = (entries.map AuditEntry.bare).filter (·.caseId = caseId) := by
    rw [List.filter_map]
    rfl
  rw [filtered, filtered, same]

/-- The number of an entry is its place. -/
theorem sequenceId_eq {i : Nat} {entry : AuditEntry} (found : ledger.entries[i]? = some entry)
    : entry.sequenceId = some (i + 1) := by
  obtain ⟨bound, rfl⟩ := List.getElem?_eq_some_iff.mp found
  have numbers := congrArg (·[i]?) ledger.numbered
  simpa [List.getElem?_range', bound, Nat.add_comm] using numbers

/-- The numbers of a case's entries increase. -/
theorem trail_increasing (ledger : Ledger) (caseId : String)
    : ∃ ids : List Nat,
        (ledger.trail caseId).map (·.sequenceId) = ids.map some
        ∧ ids.Pairwise (· < ·)
        ∧ ∀ id ∈ ids, 1 ≤ id ∧ id ≤ ledger.entries.length := by
  have sub : ((ledger.trail caseId).map (·.sequenceId)).Sublist
      ((List.range' 1 ledger.entries.length).map some) := by
    rw [← ledger.numbered]
    exact List.filter_sublist.map _
  obtain ⟨ids, among, same⟩ := List.sublist_map_iff.mp sub
  have increasing : (List.range' 1 ledger.entries.length).Pairwise (· < ·) :=
    List.pairwise_lt_range'
  refine ⟨ids, same, increasing.sublist among, fun id member => ?_⟩
  have bounds := List.mem_range'_1.mp (among.subset member)
  omega

theorem trail_pairwise (ledger : Ledger) (caseId : String)
    : (ledger.trail caseId).Pairwise
        fun entry next => entry.sequenceId.getD 0 < next.sequenceId.getD 0 := by
  obtain ⟨ids, same, increasing, _⟩ := ledger.trail_increasing caseId
  have values : (ledger.trail caseId).map (fun entry => entry.sequenceId.getD 0) = ids := by
    simpa [List.map_map, Function.comp_def] using congrArg (List.map fun id => id.getD 0) same
  rw [← values, List.pairwise_map] at increasing
  exact increasing

/-- Every number up to the length is that of exactly one entry. -/
theorem existsUnique_sequenceId (ledger : Ledger) {id : Nat} (positive : 1 ≤ id)
    (bound : id ≤ ledger.entries.length)
    : ∃! entry, entry ∈ ledger.entries ∧ entry.sequenceId = some id := by
  have inside : id - 1 < ledger.entries.length := by omega
  refine ⟨ledger.entries[id - 1], ⟨List.getElem_mem inside, ?_⟩, ?_⟩
  · rw [sequenceId_eq (List.getElem?_eq_getElem inside)]
    congr 1
    omega
  · rintro entry ⟨member, number⟩
    obtain ⟨i, found⟩ := List.mem_iff_getElem?.mp member
    rw [sequenceId_eq found] at number
    have place : i = id - 1 := by
      have := Option.some.inj number
      omega
    subst place
    rw [List.getElem?_eq_getElem inside] at found
    exact (Option.some.inj found).symm

/-- A ledger's trails are accepted. -/
theorem trail_valid (ledger : Ledger) {caseId : String} (written : ledger.trail caseId ≠ [])
    : (verifyChain ((ledger.trail caseId).map AuditEntry.row)).valid = true :=
  verifyChain_valid.mpr ⟨by simpa using written, ledger.chained caseId⟩

end Ledger

namespace InMemoryCaseStore

/-- The logs are the trails of a ledger, and the counter is at its next number. -/
structure Holds (store : InMemoryCaseStore) (ledger : Ledger) : Prop where
  next : store.nextSequence = ledger.entries.length + 1
  trail : ∀ caseId, store.auditLogs caseId = ledger.trail caseId

variable {store : InMemoryCaseStore} {ledger : Ledger} {entry : AuditEntry}

/-- `append_audit` of an unnumbered entry appends it to the ledger. -/
theorem Holds.appendAudit (holds : store.Holds ledger) (unnumbered : entry.sequenceId = none)
    : (store.appendAudit entry).Holds (ledger.append entry) := by
  have last : store.lastEntryHash entry.caseId = ledger.lastEntryHash entry.caseId := by
    rw [lastEntryHash, holds.trail, Ledger.lastEntryHash]
  have stored
      : store.appendAudit entry
        = { store with nextSequence := store.nextSequence + 1 }.insertAudit
            (ledger.next entry) := by
    unfold InMemoryCaseStore.appendAudit
    rw [unnumbered]
    dsimp only
    rw [Ledger.next, ← last, ← holds.next]
    rfl
  rw [stored]
  constructor
  · simp [insertAudit, holds.next]
  · intro caseId
    rw [Ledger.append_trail, ← holds.trail]
    by_cases same : entry.caseId = caseId
    · subst same
      simp [insertAudit]
    · simp [insertAudit, same, Ne.symm same]

/-- A run of unnumbered appends keeps a ledger, by induction over the entries appended. -/
theorem Holds.appendAll (holds : store.Holds ledger) {entries : List AuditEntry}
    (unnumbered : ∀ entry ∈ entries, entry.sequenceId = none)
    : (entries.foldl InMemoryCaseStore.appendAudit store).Holds
        (entries.foldl Ledger.append ledger) := by
  induction entries generalizing store ledger with
  | nil => exact holds
  | cons entry rest ih =>
      exact ih (holds.appendAudit (unnumbered entry (by simp)))
        fun later member => unnumbered later (List.mem_cons_of_mem _ member)

theorem holds_empty : ({} : InMemoryCaseStore).Holds .empty := ⟨rfl, fun _ => rfl⟩

/-- Whatever is appended to the new in-memory store under fresh numbers, every trail is
accepted and keeps the order of its appends, and the numbers run from 1 without gaps or
repeats, increasing within each trail.
-/
theorem appendAudit_chained {entries : List AuditEntry}
    (unnumbered : ∀ entry ∈ entries, entry.sequenceId = none)
    : let store := entries.foldl InMemoryCaseStore.appendAudit {}
      (∀ caseId, store.getAuditTrail caseId ≠ []
        → (verifyChain ((store.getAuditTrail caseId).map AuditEntry.row)).valid = true)
      ∧ (∀ caseId,
          (store.getAuditTrail caseId).map AuditEntry.bare
          = (entries.filter (·.caseId = caseId)).map AuditEntry.bare)
      ∧ (∀ id, 1 ≤ id → id ≤ entries.length
          → ∃! entry, entry ∈ store.getAuditTrail entry.caseId ∧ entry.sequenceId = some id)
      ∧ ∀ caseId,
          ∃ ids : List Nat,
            (store.getAuditTrail caseId).map (·.sequenceId) = ids.map some
            ∧ ids.Pairwise (· < ·)
            ∧ ∀ id ∈ ids, 1 ≤ id ∧ id ≤ entries.length := by
  intro store
  have holds : store.Holds (entries.foldl Ledger.append .empty) :=
    holds_empty.appendAll unnumbered
  have bare : (entries.foldl Ledger.append .empty).entries.map AuditEntry.bare
      = entries.map AuditEntry.bare := by
    rw [Ledger.foldl_append_bare]
    rfl
  generalize entries.foldl Ledger.append .empty = ledger at holds bare
  have length : ledger.entries.length = entries.length := by
    simpa using congrArg List.length bare
  have trail (caseId : String) : store.getAuditTrail caseId = ledger.trail caseId :=
    holds.trail caseId
  simp only [trail]
  refine ⟨fun caseId written => ledger.trail_valid written, fun caseId => ?_, ?_, ?_⟩
  · exact Ledger.filter_bare bare caseId
  · intro id positive bound
    simpa [Ledger.trail] using ledger.existsUnique_sequenceId positive (length ▸ bound)
  · intro caseId
    rw [← length]
    exact ledger.trail_increasing caseId

/-- Two cases are opened in turn. -/
def interleavedEntries : List AuditEntry :=
  [createdEntry, { createdEntry with caseId := "pay_3" }, { createdEntry with timestamp := 1 }]

/-- The trail of a case appended to in turn with another is accepted. -/
theorem appendAudit_chained_interleaved
    : (verifyChain
        (((interleavedEntries.foldl InMemoryCaseStore.appendAudit {}).getAuditTrail "pay_2").map
          AuditEntry.row)).valid = true :=
  (@appendAudit_chained interleavedEntries (by decide)).1 "pay_2" (by decide +kernel)

end InMemoryCaseStore

namespace PostgresCaseStore

/-- The table is a ledger, row by row. -/
def Holds (store : PostgresCaseStore) (ledger : Ledger) : Prop :=
  store.auditEntries.rows = ledger.entries

variable {store : PostgresCaseStore} {ledger : Ledger}

theorem holds_empty : ({} : PostgresCaseStore).Holds .empty := rfl

/-- `MAX(sequence_id) + 1` is the next number of the ledger. -/
theorem Holds.nextSequence (holds : store.Holds ledger)
    : store.nextSequence = ledger.entries.length + 1 := by
  have ids : ledger.entries.filterMap (·.sequenceId) = List.range' 1 ledger.entries.length := by
    have mapped := congrArg (List.filterMap id) ledger.numbered
    simpa [List.filterMap_map] using mapped
  unfold PostgresCaseStore.nextSequence
  rw [show store.auditEntries.rows = ledger.entries from holds, ids,
    InMemoryCaseStore.foldl_max_range']

/-- A fold in which a higher entry displaces the one before it ends with the last of entries
that rise. Witness: induction over them from their end, each higher than all before it.
-/
theorem foldl_displaces {displace : Option AuditEntry → AuditEntry → Option AuditEntry}
    (first : ∀ entry, displace none entry = some entry)
    (higher
      : ∀ best entry : AuditEntry,
          best.sequenceId.getD 0 < entry.sequenceId.getD 0
          → displace (some best) entry = some entry)
    {entries : List AuditEntry}
    (rising
      : entries.Pairwise fun entry next => entry.sequenceId.getD 0 < next.sequenceId.getD 0)
    : entries.foldl displace none = entries.getLast? := by
  induction entries using List.reverseRecOn with
  | nil => rfl
  | append_singleton entries entry ih =>
      obtain ⟨before, _, above⟩ := List.pairwise_append.mp rising
      rw [List.foldl_append, ih before, List.getLast?_concat]
      cases last : entries.getLast? with
      | none => exact first entry
      | some best =>
          exact higher best entry (above best (List.mem_of_getLast? last) entry (by simp))

/-- The row with the highest sequence id of a case is the last of its trail. -/
theorem Holds.lastEntryHash (holds : store.Holds ledger) (caseId : String)
    : store.lastEntryHash caseId = ledger.lastEntryHash caseId := by
  unfold PostgresCaseStore.lastEntryHash Ledger.lastEntryHash
  rw [show store.auditEntries.rows = ledger.entries from holds]
  refine congrArg (fun last : Option AuditEntry => last.bind (·.entryHash)) ?_
  refine foldl_displaces ?_ ?_ (ledger.trail_pairwise caseId)
  · exact fun entry => rfl
  · exact fun best entry higher => if_pos higher

/-- The trail is read in the order in which it was written. -/
theorem Holds.getAuditTrail (holds : store.Holds ledger) (caseId : String)
    : store.getAuditTrail caseId = ledger.trail caseId := by
  unfold PostgresCaseStore.getAuditTrail
  rw [show store.auditEntries.rows = ledger.entries from holds]
  refine List.mergeSort_of_pairwise ((ledger.trail_pairwise caseId).imp fun below => ?_)
  simpa using Nat.le_of_lt below

/-- A sequence id up to the last one is taken. -/
theorem Holds.insertAudit_taken (holds : store.Holds ledger) {entry : AuditEntry} {id : Nat}
    (number : entry.sequenceId = some id) (positive : 1 ≤ id)
    (bound : id ≤ ledger.entries.length)
    : store.insertAudit entry = none := by
  obtain ⟨old, ⟨member, taken⟩, _⟩ := ledger.existsUnique_sequenceId positive bound
  have inserted : store.auditEntries.insert? entry = none := by
    refine Table.insert?_eq_none_iff.mpr ⟨old, ?_⟩
    rw [number, ← taken]
    exact Table.find?_of_mem (holds ▸ member)
  rw [insertAudit, inserted]
  rfl

/-- An entry that carries the ledger's next number and link becomes its next one. -/
theorem Holds.insertAudit (holds : store.Holds ledger) (entry : AuditEntry)
    : ∃ store',
        store.insertAudit (ledger.next entry) = some store'
        ∧ store'.Holds (ledger.append entry) := by
  have fresh := store.nextSequence_fresh
  rw [holds.nextSequence] at fresh
  cases inserted : store.auditEntries.insert? (ledger.next entry) with
  | none =>
      obtain ⟨old, taken⟩ := Table.insert?_eq_none_iff.mp inserted
      rw [show (ledger.next entry).sequenceId = some (ledger.entries.length + 1) from rfl,
        fresh] at taken
      cases taken
  | some auditEntries =>
      refine ⟨{ store with auditEntries }, by rw [PostgresCaseStore.insertAudit, inserted]; rfl, ?_⟩
      rw [Holds, Ledger.append_entries, ← show store.auditEntries.rows = ledger.entries from holds]
      exact (Table.insert?_some inserted).2

/-- `append_audit` of an unnumbered entry by one worker appends it to the ledger. -/
theorem Holds.appendAudit (holds : store.Holds ledger) {entry : AuditEntry}
    (unnumbered : entry.sequenceId = none)
    : ∃ store', store.appendAudit entry = some store' ∧ store'.Holds (ledger.append entry) := by
  unfold PostgresCaseStore.appendAudit
  rw [unnumbered, Option.getD_none, holds.nextSequence, holds.lastEntryHash]
  exact holds.insertAudit entry

/-- A run of unnumbered appends by one worker keeps a ledger, by induction over the entries
appended.
-/
theorem Holds.appendAccepted (holds : store.Holds ledger) {entries : List AuditEntry}
    (unnumbered : ∀ entry ∈ entries, entry.sequenceId = none)
    : (entries.foldl PostgresCaseStore.appendAccepted store).Holds
        (entries.foldl Ledger.append ledger) := by
  induction entries generalizing store ledger with
  | nil => exact holds
  | cons entry rest ih =>
      obtain ⟨store', appended, holds'⟩ := holds.appendAudit (unnumbered entry (by simp))
      have accepted : store.appendAccepted entry = store' := by
        rw [PostgresCaseStore.appendAccepted, appended]
        rfl
      rw [List.foldl_cons, accepted]
      exact ih holds' fun later member => unnumbered later (List.mem_cons_of_mem _ member)

end PostgresCaseStore

end RecoveryAgent
