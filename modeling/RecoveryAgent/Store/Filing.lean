import RecoveryAgent.Store.InMemoryCaseStore

/-! An in-memory store whose indexes agree with its records.
Each call keeps it so, as long as a case is only written back under its own mandate and a
failure is only recorded for a stored case.
-/

namespace RecoveryAgent

/-- The mandates index exactly the stored cases, and every failure is one of a stored case. -/
structure InMemoryCaseStore.Filed (store : InMemoryCaseStore) : Prop where
  mandates
    : ∀ mandateId caseId,
        store.mandateIndex mandateId = some caseId
        ↔ ∃ case, store.cases.find? caseId = some case ∧ case.mandateId = mandateId
  owners : ∀ event ∈ store.failures.rows, store.cases.find? event.caseId ≠ none

namespace InMemoryCaseStore

variable {store store' : InMemoryCaseStore}

/-- An accepted new case: its id was free, and so was its mandate, or the id's own. -/
theorem createCase_ok {case : RecoveryCase} (created : store.createCase case = .ok store')
    : ∃ cases,
        store.cases.insert? case = some cases
        ∧ (store.mandateIndex case.mandateId = none
          ∨ store.mandateIndex case.mandateId = some case.caseId)
        ∧ store' = { store with
            cases
            mandateIndex := Function.update store.mandateIndex case.mandateId (some case.caseId)
            paymentIndex := Function.update store.paymentIndex case.caseId (some case.caseId)
          } := by
  unfold InMemoryCaseStore.createCase at created
  cases inserted : store.cases.insert? case with
  | none =>
      rw [inserted] at created
      cases created
  | some cases =>
      rw [inserted] at created
      dsimp only at created
      split at created
      · cases created
      · next free =>
          cases created
          exact ⟨cases, rfl, by tauto, rfl⟩

/-- An accepted update: the case is stored, and its mandate is indexed. -/
theorem updateCase_ok {case : RecoveryCase} (updated : store.updateCase case = .ok store')
    : (∃ old, store.cases.find? case.caseId = some old)
      ∧ store' = { store with
          cases := store.cases.update case
          mandateIndex :=
            Function.update store.mandateIndex case.mandateId (some case.caseId) } := by
  unfold InMemoryCaseStore.updateCase at updated
  cases found : store.cases.find? case.caseId with
  | none =>
      rw [found] at updated
      cases updated
  | some old =>
      rw [found] at updated
      cases updated
      exact ⟨⟨old, rfl⟩, rfl⟩

theorem filed_new : Filed {} := ⟨by simp, by simp⟩

/-- The case of a mandate is found in a store that is in order. -/
theorem Filed.findCaseByMandate (filed : store.Filed) {caseId : String} {case : RecoveryCase}
    (stored : store.cases.find? caseId = some case)
    : store.findCaseByMandate case.mandateId = some case := by
  unfold InMemoryCaseStore.findCaseByMandate
  rw [(filed.mandates case.mandateId caseId).mpr ⟨case, stored, rfl⟩]
  exact stored

/-- A case found by a mandate is stored under its id, and has the mandate. -/
theorem Filed.findCaseByMandate_inv (filed : store.Filed) {mandateId : String}
    {case : RecoveryCase} (found : store.findCaseByMandate mandateId = some case)
    : store.cases.find? case.caseId = some case ∧ case.mandateId = mandateId := by
  simp only [InMemoryCaseStore.findCaseByMandate, Option.bind_eq_bind,
    Option.bind_eq_some_iff] at found
  obtain ⟨caseId, mapped, stored⟩ := found
  obtain ⟨old, kept, mandate⟩ := (filed.mandates mandateId caseId).mp mapped
  cases stored.symm.trans kept
  rw [Table.find?_key stored]
  exact ⟨stored, mandate⟩

/-- A case that is written back under its mandate leaves the store in order. -/
theorem Filed.rewrite (filed : store.Filed) {case old : RecoveryCase}
    (stored : store.cases.find? case.caseId = some old) (same : old.mandateId = case.mandateId)
    : Filed { store with cases := store.cases.update case } where
  mandates mandateId caseId := by
    rw [filed.mandates, Table.find?_update]
    by_cases id : caseId = case.caseId
    · simp [id, stored, same]
    · simp [id]
  owners event member := by
    have owner := filed.owners event member
    rw [Table.find?_update]
    split
    · simpa using owner
    · exact owner

/-- The mandate of a stored case is indexed already. -/
theorem Filed.reindex (filed : store.Filed) {case old : RecoveryCase}
    (stored : store.cases.find? case.caseId = some old) (same : old.mandateId = case.mandateId)
    : Function.update store.mandateIndex case.mandateId (some case.caseId)
      = store.mandateIndex :=
  Function.update_eq_self_iff.mpr
    ((filed.mandates case.mandateId case.caseId).mpr ⟨old, stored, same⟩).symm

theorem Filed.updateCase (filed : store.Filed) {case old : RecoveryCase}
    (stored : store.cases.find? case.caseId = some old) (same : old.mandateId = case.mandateId)
    : store.updateCase case = .ok { store with cases := store.cases.update case } := by
  unfold InMemoryCaseStore.updateCase
  rw [stored, filed.reindex stored same]

/-- A new case leaves the store in order. -/
theorem Filed.createCase (filed : store.Filed) {case : RecoveryCase}
    (created : store.createCase case = .ok store')
    : store'.Filed ∧ store.cases.find? case.caseId = none
      ∧ (∀ caseId,
          store'.cases.find? caseId
          = if caseId = case.caseId then some case else store.cases.find? caseId) := by
  obtain ⟨cases, inserted, free, rfl⟩ := createCase_ok created
  have fresh := (Table.insert?_some inserted).1
  have unmapped : store.mandateIndex case.mandateId = none := by
    refine free.resolve_right fun mapped => ?_
    obtain ⟨old, stored, _⟩ := (filed.mandates case.mandateId case.caseId).mp mapped
    rw [fresh] at stored
    cases stored
  refine ⟨⟨fun mandateId caseId => ?_, fun event member => ?_⟩, fresh,
    Table.find?_insert inserted⟩
  · dsimp only
    rw [Table.find?_insert inserted]
    by_cases mandate : mandateId = case.mandateId
    · subst mandate
      have other
          : ¬∃ old,
              store.cases.find? caseId = some old ∧ old.mandateId = case.mandateId := by
        intro stored
        have mapped := (filed.mandates case.mandateId caseId).mpr stored
        rw [unmapped] at mapped
        cases mapped
      by_cases id : caseId = case.caseId
      · simp [id]
      · simpa [id, Ne.symm id] using other
    · rw [Function.update_of_ne mandate, filed.mandates]
      by_cases id : caseId = case.caseId
      · subst id
        simp [fresh, Ne.symm mandate]
      · simp [id]
  · dsimp only
    rw [Table.find?_insert inserted]
    split
    · simp
    · exact filed.owners event member

/-- A failure of a stored case leaves the store in order. -/
theorem Filed.recordFailure (filed : store.Filed) {event : PaymentFailureEvent}
    (owned : store.cases.find? event.caseId ≠ none)
    (recorded : store.recordFailure event = .ok store')
    : store'.Filed ∧ store'.cases = store.cases := by
  unfold InMemoryCaseStore.recordFailure at recorded
  cases inserted : store.failures.insert? event with
  | none =>
      rw [inserted] at recorded
      cases recorded
  | some failures =>
      rw [inserted] at recorded
      dsimp only at recorded
      split at recorded
      · cases recorded
      cases recorded
      refine ⟨⟨filed.mandates, fun other member => ?_⟩, rfl⟩
      rw [(Table.insert?_some inserted).2] at member
      rcases List.mem_append.mp member with old | new
      · exact filed.owners other old
      · rw [List.mem_singleton.mp new]
        exact owned

end InMemoryCaseStore

end RecoveryAgent
