import RecoveryAgent.Store.Ledger

/-! The exported audit trail and its standalone check (`verify_chain.py`).
The receipt endpoint exports entries without their case id, and the script hashes entries
without their scheduled instant.
-/

namespace RecoveryAgent

-----------------------------------------------------------------------------------------
-- The export
-----------------------------------------------------------------------------------------

/-- A value of an exported entry. -/
inductive ExportedValue where
  | null
  | int (value : Int)
  | str (value : String)
  deriving DecidableEq

namespace ExportedValue

def ofString (text : Option String) : ExportedValue := (text.map .str).getD .null

/-- `json.dumps` of the value. -/
def dumps : ExportedValue → String
  | .null => "null"
  | .int value => toString value
  | .str value => AuditEntry.quote value

end ExportedValue

/-- An exported entry, a dictionary. -/
abbrev ExportedEntry := List (String × ExportedValue)

/-- `entry[key]`. -/
def ExportedEntry.get (entry : ExportedEntry) (key : String) : Except PyError ExportedValue :=
  match entry.lookup key with
  | some value => .ok value
  | none => .error (.keyError key)

/-- One entry of the `audit` list of `case_receipt`. -/
def AuditRow.exported (row : AuditRow) : ExportedEntry := [
  ("sequence_id", (row.sequenceId.map .int).getD .null),
  ("from_state", .str row.fromState),
  ("to_state", .str row.toState),
  ("rule_fired", .str row.ruleFired),
  ("rule_version", .int row.ruleVersion),
  ("timestamp", .str (isoformat row.timestamp)),
  ("actor", .str row.actor),
  ("scheduled_at", .ofString (row.scheduledAt.map isoformat)),
  ("entry_hash", .ofString row.entryHash),
  ("prev_hash", .ofString row.prevHash)]

namespace Standalone

/-- `compute_hash`: it looks its keys up in this order and dumps them sorted. -/
def computeHash (entry : ExportedEntry) : Except PyError String := do
  let caseId ← entry.get "case_id"
  let fromState ← entry.get "from_state"
  let toState ← entry.get "to_state"
  let ruleFired ← entry.get "rule_fired"
  let ruleVersion ← entry.get "rule_version"
  let timestamp ← entry.get "timestamp"
  let actor ← entry.get "actor"
  let sequenceId ← entry.get "sequence_id"
  let prevHash ← entry.get "prev_hash"
  return Sha256.hexdigest
    ("\x7b\"actor\": " ++ actor.dumps ++ ", \"case_id\": " ++ caseId.dumps
      ++ ", \"from_state\": " ++ fromState.dumps ++ ", \"prev_hash\": " ++ prevHash.dumps
      ++ ", \"rule_fired\": " ++ ruleFired.dumps ++ ", \"rule_version\": " ++ ruleVersion.dumps
      ++ ", \"sequence_id\": " ++ sequenceId.dumps ++ ", \"timestamp\": " ++ timestamp.dumps
      ++ ", \"to_state\": " ++ toState.dumps ++ "\x7d")

/-- The loop of `verify_chain`. The messages it prints read the sequence id. -/
def verifyChainFrom (prevHash : ExportedValue) : List ExportedEntry → Except PyError Bool
  | [] => .ok true
  | entry :: rest => do
      if (← entry.get "prev_hash") ≠ prevHash then
        let _ ← entry.get "sequence_id"
        return false
      else
        let expected ← computeHash entry
        if (entry.lookup "entry_hash").getD .null ≠ .str expected then
          let _ ← entry.get "sequence_id"
          return false
        else verifyChainFrom (← entry.get "entry_hash") rest

/-- `verify_chain` of the script. -/
def verifyChain (audit : List ExportedEntry) : Except PyError Bool :=
  verifyChainFrom .null audit

end Standalone

/-- The script answers for the exported trail what the endpoint answers for the trail. -/
def StandaloneAgrees (audit : List AuditRow) : Prop :=
  Standalone.verifyChain (audit.map AuditRow.exported) = .ok (verifyChain audit).valid

namespace AuditRow

variable (row : AuditRow)

theorem exported_caseId : row.exported.get "case_id" = .error (.keyError "case_id") := rfl

theorem exported_prevHash : row.exported.get "prev_hash" = .ok (.ofString row.prevHash) := rfl

theorem exported_sequenceId
    : row.exported.get "sequence_id" = .ok ((row.sequenceId.map .int).getD .null) := rfl

end AuditRow

/-- An exported entry that is linked where the script expects it has no case id to hash. -/
theorem standalone_raises {row : AuditRow} (rest : List AuditRow) (unlinked : row.prevHash = none)
    : Standalone.verifyChain ((row :: rest).map AuditRow.exported)
      = .error (.keyError "case_id") := by
  have hash : Standalone.computeHash row.exported = .error (.keyError "case_id") := by
    unfold Standalone.computeHash
    rw [row.exported_caseId]
    rfl
  have linked : (ExportedValue.ofString row.prevHash) = .null := by rw [unlinked]; rfl
  rw [Standalone.verifyChain, List.map_cons, Standalone.verifyChainFrom, row.exported_prevHash,
    linked]
  simp [hash, bind, Except.bind]

/-- The script agrees with the endpoint only on trails whose first entry is linked behind
another, which both refuse.
-/
theorem standaloneAgrees_iff (audit : List AuditRow)
    : StandaloneAgrees audit
      ↔ ∃ first rest, audit = first :: rest ∧ first.prevHash ≠ none := by
  unfold StandaloneAgrees
  cases audit with
  | nil => simp [Standalone.verifyChain, Standalone.verifyChainFrom, verifyChain]
  | cons first rest =>
      cases linked : first.prevHash with
      | none =>
          rw [standalone_raises rest linked]
          simp [linked]
      | some hash =>
          have broken : ExportedValue.ofString (some hash) ≠ .null := nofun
          have refused : (verifyChain (first :: rest)).valid = false := by
            simp [verifyChain, verifyChainFrom, linked]
          rw [refused, Standalone.verifyChain, List.map_cons, Standalone.verifyChainFrom,
            first.exported_prevHash]
          simp [first.exported_sequenceId, broken, bind, Except.bind, linked, pure, Except.pure]

/-- An append extends the trail of its own case, behind that trail's last hash. -/
theorem InMemoryCaseStore.appendAudit_logs (store : InMemoryCaseStore) (entry : AuditEntry)
    (caseId : String)
    : ∃ appended : AuditEntry,
        appended.prevHash = store.lastEntryHash entry.caseId
        ∧ (store.appendAudit entry).auditLogs caseId
          = store.auditLogs caseId ++ if entry.caseId = caseId then [appended] else [] := by
  have inserted (numbered : AuditEntry) (store : InMemoryCaseStore)
      : (store.insertAudit numbered).auditLogs caseId
        = store.auditLogs caseId ++ if numbered.caseId = caseId then [numbered] else [] := by
    by_cases same : numbered.caseId = caseId
    · subst same
      simp [insertAudit]
    · simp [insertAudit, same, Ne.symm same]
  let link := store.lastEntryHash entry.caseId
  cases number : entry.sequenceId with
  | none =>
      refine ⟨{ entry with sequenceId := some store.nextSequence }.linked link, rfl, ?_⟩
      unfold InMemoryCaseStore.appendAudit
      rw [number]
      exact inserted _ _
  | some sequenceId =>
      refine ⟨{ entry with sequenceId := some sequenceId }.linked link, rfl, ?_⟩
      unfold InMemoryCaseStore.appendAudit
      rw [number]
      exact inserted _ _

/-- The trails of the in-memory store start unlinked, whatever numbers the entries come with.
Witness: induction over the appends, the first of a case finding no hash.
-/
theorem InMemoryCaseStore.getAuditTrail_unlinked (entries : List AuditEntry)
    {caseId : String} {first : AuditEntry} {rest : List AuditEntry}
    (written
      : (entries.foldl InMemoryCaseStore.appendAudit {}).getAuditTrail caseId = first :: rest)
    : first.prevHash = none := by
  induction entries using List.reverseRecOn generalizing rest with
  | nil => cases written
  | append_singleton entries entry ih =>
      rw [List.foldl_append] at written
      unfold InMemoryCaseStore.getAuditTrail at ih written
      generalize entries.foldl InMemoryCaseStore.appendAudit {} = store at ih written
      obtain ⟨appended, linked, logs⟩ := store.appendAudit_logs entry caseId
      rw [List.foldl_cons, List.foldl_nil, logs] at written
      cases log : store.auditLogs caseId with
      | cons head tail =>
          rw [log, List.cons_append] at written
          obtain ⟨rfl, _⟩ := List.cons.inj written
          exact ih log
      | nil =>
          rw [log, List.nil_append] at written
          split at written
          · next same =>
              rw [← (List.cons.inj written).1, linked, lastEntryHash, same, log]
              rfl
          · cases written

/-- The script agrees with the endpoint exactly on the trails whose first entry is linked
behind another. It agrees on no trail that `append_audit` builds in memory, and on none that
it builds on Postgres from entries without a sequence id.
-/
theorem standalone_agrees_iff (audit : List AuditRow) (entries : List AuditEntry)
    (caseId : String)
    : (StandaloneAgrees audit ↔ ∃ first rest, audit = first :: rest ∧ first.prevHash ≠ none)
      ∧ ¬StandaloneAgrees
          (((entries.foldl InMemoryCaseStore.appendAudit {}).getAuditTrail caseId).map
            AuditEntry.row)
      ∧ ((∀ entry ∈ entries, entry.sequenceId = none)
        → ¬StandaloneAgrees
            (((entries.foldl PostgresCaseStore.appendAccepted {}).getAuditTrail caseId).map
              AuditEntry.row)) := by
  refine ⟨standaloneAgrees_iff audit, fun agrees => ?_, fun unnumbered agrees => ?_⟩
  · obtain ⟨first, rest, exported, linked⟩ := (standaloneAgrees_iff _).mp agrees
    obtain ⟨entry, entries', written, rfl, _⟩ := List.map_eq_cons_iff.mp exported
    exact linked (InMemoryCaseStore.getAuditTrail_unlinked entries written)
  · obtain ⟨first, rest, exported, linked⟩ := (standaloneAgrees_iff _).mp agrees
    have holds := PostgresCaseStore.holds_empty.appendAccepted unnumbered
    rw [holds.getAuditTrail] at exported
    have accepted := (entries.foldl Ledger.append .empty).chained caseId
    rw [← Ledger.trail, exported] at accepted
    exact linked accepted.1

/-- The script does not accept what the endpoint accepts. Witness: the trail of a case that
was just opened, which has no `case_id` in its export.
-/
theorem standalone_disagrees
    : ¬∀ (entries : List AuditEntry) (caseId : String),
        StandaloneAgrees
          (((entries.foldl InMemoryCaseStore.appendAudit {}).getAuditTrail caseId).map
            AuditEntry.row) := by
  intro claimed
  have agrees := claimed [createdEntry] "pay_2"
  have raised := @standalone_raises ({ createdEntry with sequenceId := some 1 }.linked none).row []
    rfl
  unfold StandaloneAgrees at agrees
  exact absurd (raised.symm.trans agrees) nofun

end RecoveryAgent
