import RecoveryAgent.Store.Filing
import RecoveryAgent.Lib.Run

/-! The mandate index of the in-memory store under any calls that write cases.
Only `create_case` looks at the index before it writes one; `update_case` leaves the entry of a
mandate the case no longer carries.
-/

namespace RecoveryAgent

/-- A call that writes a case. -/
inductive CaseCall where
  | createCase (case : RecoveryCase)
  | updateCase (case : RecoveryCase)

namespace InMemoryCaseStore

variable {store : InMemoryCaseStore}

/-- The result of the call. -/
def answerCase (store : InMemoryCaseStore) : CaseCall → Except CaseStoreError InMemoryCaseStore
  | .createCase case => store.createCase case
  | .updateCase case => store.updateCase case

/-- The store after the call; a refused one leaves it. -/
def writeCase (store : InMemoryCaseStore) (call : CaseCall) : InMemoryCaseStore :=
  match store.answerCase call with
  | .ok store => store
  | .error _ => store

/-- At most one stored case has a mandate, and that case is what the mandate finds. -/
structure MandatesIndexed (store : InMemoryCaseStore) : Prop where
  unique
    : ∀ case ∈ store.cases.rows, ∀ other ∈ store.cases.rows,
        case.mandateId = other.mandateId → case = other
  finds
    : ∀ mandateId case,
        store.findCaseByMandate mandateId = some case
        ↔ case ∈ store.cases.rows ∧ case.mandateId = mandateId

/-- An accepted update leaves its case under the mandate it has. -/
def KeepsMandate (store : InMemoryCaseStore) : CaseCall → Prop
  | .createCase _ => True
  | .updateCase case =>
      ∀ old, store.cases.find? case.caseId = some old → old.mandateId = case.mandateId

/-- The index names stored cases only, and there are no failures. -/
structure Mapped (store : InMemoryCaseStore) : Prop where
  stored
    : ∀ mandateId caseId,
        store.mandateIndex mandateId = some caseId → store.cases.find? caseId ≠ none
  failures : store.failures.rows = []

theorem mapped_new : Mapped {} := ⟨by simp, rfl⟩

/-- A case that is written is indexed under its mandate, and no case is lost. -/
theorem Mapped.write (mapped : store.Mapped) {cases : Table RecoveryCase.caseId}
    {case : RecoveryCase} (written : cases.find? case.caseId ≠ none)
    (kept : ∀ caseId, store.cases.find? caseId ≠ none → cases.find? caseId ≠ none)
    (payments : String → Option String)
    : Mapped { store with
        cases
        mandateIndex := Function.update store.mandateIndex case.mandateId (some case.caseId)
        paymentIndex := payments } where
  stored mandateId caseId entry := by
    dsimp only at entry ⊢
    by_cases same : mandateId = case.mandateId
    · rw [same, Function.update_self] at entry
      rwa [← Option.some.inj entry]
    · rw [Function.update_of_ne same] at entry
      exact kept caseId (mapped.stored mandateId caseId entry)
  failures := mapped.failures

/-- Every call leaves the index mapped, whatever it writes. -/
theorem Mapped.writeCase (mapped : store.Mapped) (call : CaseCall)
    : (store.writeCase call).Mapped := by
  unfold InMemoryCaseStore.writeCase
  split
  · next store' answered =>
      cases call with
      | createCase case =>
          obtain ⟨cases, inserted, _, rfl⟩ := createCase_ok answered
          have found := Table.find?_insert inserted
          refine mapped.write (by simp [found]) (fun caseId stored => ?_) _
          rw [found]
          split <;> simp [stored]
      | updateCase case =>
          obtain ⟨⟨old, stored⟩, rfl⟩ := updateCase_ok answered
          have found := Table.find?_update store.cases case
          refine mapped.write (by simp [found, stored]) (fun caseId stored => ?_) _
          rw [found]
          split <;> simpa using stored
  · exact mapped

/-- In a mapped store the index is exact if and only if the mandates find their cases. -/
theorem Mapped.filed_iff (mapped : store.Mapped) : store.Filed ↔ store.MandatesIndexed := by
  constructor
  · intro filed
    have finds (mandateId : String) (case : RecoveryCase)
        : store.findCaseByMandate mandateId = some case
          ↔ case ∈ store.cases.rows ∧ case.mandateId = mandateId := by
      constructor
      · intro found
        obtain ⟨stored, mandate⟩ := filed.findCaseByMandate_inv found
        exact ⟨Table.mem_of_find? stored, mandate⟩
      · rintro ⟨stored, rfl⟩
        exact filed.findCaseByMandate (Table.find?_of_mem stored)
    refine ⟨fun case stored other stored' same => ?_, finds⟩
    have first := (finds case.mandateId case).mpr ⟨stored, rfl⟩
    have second := (finds case.mandateId other).mpr ⟨stored', same.symm⟩
    exact Option.some.inj (first.symm.trans second)
  · intro indexed
    refine ⟨fun mandateId caseId => ⟨fun entry => ?_, ?_⟩, ?_⟩
    · obtain ⟨case, stored⟩ := Option.ne_none_iff_exists'.mp (mapped.stored _ _ entry)
      have found : store.findCaseByMandate mandateId = some case := by
        unfold InMemoryCaseStore.findCaseByMandate
        rw [entry]
        exact stored
      exact ⟨case, stored, ((indexed.finds mandateId case).mp found).2⟩
    · rintro ⟨case, stored, mandate⟩
      have found := (indexed.finds mandateId case).mpr ⟨Table.mem_of_find? stored, mandate⟩
      simp only [InMemoryCaseStore.findCaseByMandate, Option.bind_eq_bind,
        Option.bind_eq_some_iff] at found
      obtain ⟨caseId', entry, stored'⟩ := found
      rw [entry, ← Table.find?_key stored, ← Table.find?_key stored']
    · rw [mapped.failures]
      simp

/-- A call keeps an exact index exact if and only if it keeps the mandate of its case. Witness:
the entry of a mandate that is given up still names the case.
-/
theorem Filed.writeCase_iff (filed : store.Filed) (call : CaseCall)
    : (store.writeCase call).Filed ↔ store.KeepsMandate call := by
  unfold InMemoryCaseStore.writeCase
  cases call with
  | createCase case =>
      refine iff_of_true ?_ trivial
      split
      · next answered => exact (filed.createCase answered).1
      · exact filed
  | updateCase case =>
      split
      · next answered =>
          obtain ⟨⟨old, stored⟩, rfl⟩ := updateCase_ok answered
          constructor
          · intro filed' other stored'
            cases stored.symm.trans stored'
            by_contra changed
            have entry := (filed.mandates old.mandateId case.caseId).mpr ⟨old, stored, rfl⟩
            rw [← Function.update_of_ne changed (some case.caseId) store.mandateIndex] at entry
            obtain ⟨now, found, mandate⟩ := (filed'.mandates old.mandateId case.caseId).mp entry
            rw [Table.find?_update, if_pos rfl, stored] at found
            cases found
            exact changed mandate.symm
          · intro keeps
            rw [filed.reindex stored (keeps old stored)]
            exact filed.rewrite stored (keeps old stored)
      · next refused =>
          refine iff_of_true filed fun old stored => ?_
          simp [answerCase, InMemoryCaseStore.updateCase, stored] at refused

/-- Over any calls: the mandates are indexed in every state on the way exactly if every update
keeps the mandate of its case.
-/
theorem mandatesIndexed_iff (calls : List CaseCall)
    : (∀ before after, calls = before ++ after → (before.foldl writeCase {}).MandatesIndexed)
      ↔ Run.Along writeCase {} calls KeepsMandate := by
  have mapped (calls : List CaseCall) : (calls.foldl writeCase {}).Mapped :=
    Run.keeps mapped_new (fun _ call kept => kept.writeCase call) calls
  constructor
  · rintro indexed before call after rfl
    have filed := (mapped before).filed_iff.mpr (indexed before (call :: after) rfl)
    have later := indexed (before ++ [call]) after (by simp)
    rw [← (mapped _).filed_iff, List.foldl_append] at later
    exact (filed.writeCase_iff call).mp later
  · rintro along before after rfl
    rw [← (mapped before).filed_iff]
    exact along.take.keeps filed_new fun _ call filed keeps =>
      (filed.writeCase_iff call).mpr keeps

/-- A case of one mandate, moved to another: it is still found by the first. -/
theorem not_mandatesIndexed
    : ¬ ∀ calls : List CaseCall, (calls.foldl writeCase {}).MandatesIndexed := by
  intro claimed
  let case (mandateId : String) (named : mandateId ≠ "") : RecoveryCase :=
    { caseId := "pay_1", mandateId, instrumentId := "hash", originalAmount := 50000, openedAt := 0,
      caseId_ne := by decide, mandateId_ne := named, instrumentId_ne := by decide,
      originalAmount_pos := by decide }
  have indexed := claimed
    [.createCase (case "mandate_1" (by decide)), .updateCase (case "mandate_2" (by decide))]
  have found := (indexed.finds "mandate_1" (case "mandate_2" (by decide))).mp rfl
  exact absurd found.2 (by decide)

end InMemoryCaseStore

end RecoveryAgent
