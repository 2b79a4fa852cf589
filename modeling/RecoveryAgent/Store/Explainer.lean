import RecoveryAgent.Store.AuditChain

/-! The explainer of a case (`app/explain/llm_explainer.py`) and its check of the trail.
It looks at the links only: what the endpoint's check accepts it accepts, and it accepts contents
that were changed.
-/

namespace RecoveryAgent

namespace Explainer

/-- The loop of `verify_chain_integrity`. -/
def verifyChainIntegrityFrom (prevHash : Option String) : List AuditRow → Bool
  | [] => true
  | entry :: rest =>
      if entry.entryHash.getD "" = "" then false
      else if entry.prevHash ≠ prevHash then false
      else verifyChainIntegrityFrom entry.entryHash rest

/-- `verify_chain_integrity`. -/
def verifyChainIntegrity (entries : List AuditRow) : Bool := verifyChainIntegrityFrom none entries

/-- `build_prompt`. -/
def buildPrompt (entries : List AuditRow) : String :=
  "\n".intercalate
    ("Explain the following payment recovery case based only on the audit trail:"
      :: entries.map fun entry =>
        orNone (entry.sequenceId.map toString) ++ ": " ++ isoformat entry.timestamp ++ " "
          ++ entry.fromState ++ "->" ++ entry.toState ++ " rule=" ++ entry.ruleFired ++ " v"
          ++ toString entry.ruleVersion)

/-- `explain_case`, with the answer of the language model, if one is configured and answers. -/
def explainCase (callLlm : String → Option String) (entries : List AuditRow) : String :=
  if verifyChainIntegrity entries then
    let answer := (callLlm (buildPrompt entries)).getD ""
    if answer = "" then
      "\n".intercalate
        ("Case audit summary:"
          :: entries.map fun entry =>
            entry.fromState ++ " → " ++ entry.toState ++ " because of " ++ entry.ruleFired)
    else answer
  else "Cannot explain: audit trail failed integrity verification."

/-- What the endpoint's check accepts has its links, by induction over the chain. -/
theorem integrityFrom_of_accepts {prevHash : Option String} {entries : List AuditRow}
    (accepted : auditChain.Accepts prevHash entries)
    : verifyChainIntegrityFrom prevHash entries = true := by
  induction entries generalizing prevHash with
  | nil => rfl
  | cons entry rest ih =>
      obtain ⟨linked, stored, later⟩ := accepted
      have linked : entry.prevHash = prevHash := linked
      have stored : entry.entryHash = some entry.computedHash := stored
      have hashed : entry.entryHash.getD "" ≠ "" := by
        rw [stored]
        exact Sha256.hexdigest_ne_empty entry.serialize
      unfold verifyChainIntegrityFrom
      rw [if_neg hashed, if_neg (not_not.mpr linked)]
      exact ih later

/-- The links of an entry. -/
def links (entry : AuditRow) : Option String × Option String := (entry.prevHash, entry.entryHash)

/-- Entries with the same links get the same verdict, by induction over both trails. -/
theorem integrityFrom_congr {prevHash : Option String} {entries entries' : List AuditRow}
    (same : entries.map links = entries'.map links)
    : verifyChainIntegrityFrom prevHash entries = verifyChainIntegrityFrom prevHash entries' := by
  induction entries generalizing prevHash entries' with
  | nil => rw [List.map_eq_nil_iff.mp same.symm]
  | cons entry rest ih =>
      cases entries' with
      | nil => cases same
      | cons entry' rest' =>
          obtain ⟨head, tail⟩ := List.cons.inj same
          obtain ⟨previous, stored⟩ := Prod.mk.inj head
          unfold verifyChainIntegrityFrom
          rw [previous, stored, ih tail]

/-- The check of the explainer lets pass whatever the endpoint's check accepts, and beyond that it
looks at the links only: whatever else of the entries is changed, the trail is explained as before
the change or refused as before.
-/
theorem verifyChainIntegrity_links (entries entries' : List AuditRow)
    : ((verifyChain entries).valid = true → verifyChainIntegrity entries = true)
      ∧ (entries.map links = entries'.map links
        → verifyChainIntegrity entries = verifyChainIntegrity entries') :=
  ⟨fun valid => integrityFrom_of_accepts (verifyChain_valid.mp valid).2, integrityFrom_congr⟩

/-- An accepted trail is explained: by the answer of the model, if there is one, else entry by
entry.
-/
theorem explainCase_of_valid (callLlm : String → Option String) {entries : List AuditRow}
    (valid : (verifyChain entries).valid = true)
    : explainCase callLlm entries
      = if (callLlm (buildPrompt entries)).getD "" = "" then
          "\n".intercalate
            ("Case audit summary:"
              :: entries.map fun entry =>
                entry.fromState ++ " → " ++ entry.toState ++ " because of " ++ entry.ruleFired)
        else (callLlm (buildPrompt entries)).getD "" := by
  have linked : verifyChainIntegrity entries = true :=
    integrityFrom_of_accepts (verifyChain_valid.mp valid).2
  unfold explainCase
  rw [if_pos linked]

end Explainer

end RecoveryAgent
