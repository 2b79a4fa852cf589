import RecoveryAgent.Lib.Run
import RecoveryAgent.Store.Columns
import RecoveryAgent.Store.Ledger

/-! The two case stores against each other.
Every call is performed on both. They answer alike as long as no call meets one of the
places where only one of them enforces a rule, and then they keep the same contents.
-/

namespace RecoveryAgent

-----------------------------------------------------------------------------------------
-- Calls and replies
-----------------------------------------------------------------------------------------

/-- The calls both stores offer. -/
inductive StoreCall where
  | createCase (case : RecoveryCase)
  | updateCase (case : RecoveryCase)
  | getCase (caseId : String)
  | findCaseByMandate (mandateId : String)
  | findCaseByPaymentId (paymentId : String)
  | getMaxAttemptNumber (caseId : String)
  | findAttemptByPaymentId (paymentId : String)
  | recordFailure (event : PaymentFailureEvent)
  | getFailure (caseId : String) (attemptNumber : Nat)
  | recordRetryDecision (decision : RetryDecision)
  | updateRetryDecision (decision : RetryDecision)
  | getRetryDecision (caseId : String) (attemptNumber : Nat)
  | getPendingRetries
  | appendAudit (entry : AuditEntry)
  | getAuditTrail (caseId : String)

/-- The error classes that both modules define, and the one only the database raises. -/
inductive RefusalClass where
  | caseNotFound
  | caseAlreadyExists
  | failureAlreadyRecorded
  | decisionAlreadyRecorded
  | uniqueViolation
  deriving DecidableEq

/-- The class of the exception behind an error. -/
def CaseStoreError.refusal : CaseStoreError → RefusalClass
  | .caseNotFound _ => .caseNotFound
  | .caseAlreadyExists _ => .caseAlreadyExists
  | .mandateAlreadyMapped _ _ => .caseAlreadyExists
  | .failureAlreadyRecorded _ _ => .failureAlreadyRecorded
  | .paymentAlreadyRecorded _ => .failureAlreadyRecorded
  | .decisionAlreadyRecorded _ _ => .decisionAlreadyRecorded
  | .failureNotFound _ _ => .caseNotFound
  | .decisionNotFound _ _ => .caseNotFound

inductive StoreReply where
  | done
  | refused (refusal : RefusalClass)
  | case (found : Option RecoveryCase)
  | number (n : Nat)
  | attempt (found : Option (String × Nat))
  | failure (event : PaymentFailureEvent)
  | decision (decision : RetryDecision)
  | decisions (decisions : List RetryDecision)
  | trail (entries : List AuditEntry)

namespace StoreReply

/-- Replies with equal values, notes as dictionaries, lists of decisions up to their order. -/
inductive Same : StoreReply → StoreReply → Prop where
  | equal (reply : StoreReply) : Same reply reply
  | failure {first second : PaymentFailureEvent} (equal : second.Equal first)
    : Same (.failure first) (.failure second)
  | decisions {first second : List RetryDecision} (perm : first.Perm second)
    : Same (.decisions first) (.decisions second)

def isRefused : StoreReply → Bool
  | .refused _ => true
  | _ => false

theorem Same.isRefused {first second : StoreReply} (same : first.Same second)
    : first.isRefused = second.isRefused := by
  cases same <;> rfl

/-- The reply to a call that only changes the store. -/
def written {σ : Type} (store : σ) : Except CaseStoreError σ → StoreReply × σ
  | .ok store => (.done, store)
  | .error error => (.refused error.refusal, store)

/-- The reply to a call that reads one record. -/
def read {α : Type} (found : α → StoreReply) : Except CaseStoreError α → StoreReply
  | .ok value => found value
  | .error error => .refused error.refusal

end StoreReply

/-- A call on the in-memory store. -/
def InMemoryCaseStore.perform (store : InMemoryCaseStore)
    : StoreCall → StoreReply × InMemoryCaseStore
  | .createCase case => StoreReply.written store (store.createCase case)
  | .updateCase case => StoreReply.written store (store.updateCase case)
  | .getCase caseId => (StoreReply.read (.case ∘ some) (store.getCase caseId), store)
  | .findCaseByMandate mandateId => (.case (store.findCaseByMandate mandateId), store)
  | .findCaseByPaymentId paymentId => (.case (store.findCaseByPaymentId paymentId), store)
  | .getMaxAttemptNumber caseId => (.number (store.getMaxAttemptNumber caseId), store)
  | .findAttemptByPaymentId paymentId =>
      (.attempt (store.findAttemptByPaymentId paymentId), store)
  | .recordFailure event => StoreReply.written store (store.recordFailure event)
  | .getFailure caseId attemptNumber =>
      (StoreReply.read .failure (store.getFailure caseId attemptNumber), store)
  | .recordRetryDecision decision => StoreReply.written store (store.recordRetryDecision decision)
  | .updateRetryDecision decision => StoreReply.written store (store.updateRetryDecision decision)
  | .getRetryDecision caseId attemptNumber =>
      (StoreReply.read .decision (store.getRetryDecision caseId attemptNumber), store)
  | .getPendingRetries => (.decisions store.getPendingRetries, store)
  | .appendAudit entry => (.done, store.appendAudit entry)
  | .getAuditTrail caseId => (.trail (store.getAuditTrail caseId), store)

/-- A call on the Postgres store. -/
def PostgresCaseStore.perform (store : PostgresCaseStore)
    : StoreCall → StoreReply × PostgresCaseStore
  | .createCase case => StoreReply.written store (store.createCase case)
  | .updateCase case => (.done, store.updateCase case)
  | .getCase caseId => (StoreReply.read (.case ∘ some) (store.getCase caseId), store)
  | .findCaseByMandate mandateId => (.case (store.findCaseByMandate mandateId), store)
  | .findCaseByPaymentId paymentId => (.case (store.findCaseByPaymentId paymentId), store)
  | .getMaxAttemptNumber caseId => (.number (store.getMaxAttemptNumber caseId), store)
  | .findAttemptByPaymentId paymentId =>
      (.attempt (store.findAttemptByPaymentId paymentId), store)
  | .recordFailure event => StoreReply.written store (store.recordFailure event)
  | .getFailure caseId attemptNumber =>
      (StoreReply.read .failure (store.getFailure caseId attemptNumber), store)
  | .recordRetryDecision decision => StoreReply.written store (store.recordRetryDecision decision)
  | .updateRetryDecision decision => (.done, store.updateRetryDecision decision)
  | .getRetryDecision caseId attemptNumber =>
      (StoreReply.read .decision (store.getRetryDecision caseId attemptNumber), store)
  | .getPendingRetries => (.decisions store.getPendingRetries, store)
  | .appendAudit entry =>
      match store.appendAudit entry with
      | some store => (.done, store)
      | none => (.refused .uniqueViolation, store)
  | .getAuditTrail caseId => (.trail (store.getAuditTrail caseId), store)

-----------------------------------------------------------------------------------------
-- Runs on both stores
-----------------------------------------------------------------------------------------

/-- The tables whose order a reply can depend on, in any other physical order. -/
structure PostgresCaseStore.Reordered (store store' : PostgresCaseStore) : Prop where
  cases : store.recoveryCases.rows.Perm store'.recoveryCases.rows
  failures : store.paymentFailures.rows.Perm store'.paymentFailures.rows
  decisions : store.retryDecisions.rows.Perm store'.retryDecisions.rows
  audit : store'.auditEntries = store.auditEntries

/-- What the database may do to the physical order of the rows between two calls. -/
structure Shuffle where
  apply : PostgresCaseStore → PostgresCaseStore
  reordered : ∀ store : PostgresCaseStore, store.Reordered (apply store)

/-- The database leaves the rows where they are. -/
def Shuffle.identity : Shuffle := ⟨id, fun _ => ⟨.refl _, .refl _, .refl _, rfl⟩⟩

/-- Both stores, given the same calls. -/
structure StorePair where
  memory : InMemoryCaseStore := {}
  postgres : PostgresCaseStore := {}

namespace StorePair

/-- A call on both stores, after the database has reordered its rows. -/
def step (stores : StorePair) (event : StoreCall × Shuffle) : StorePair where
  memory := (stores.memory.perform event.1).2
  postgres := ((event.2.apply stores.postgres).perform event.1).2

/-- The stores answer the call alike. -/
def Agree (stores : StorePair) (event : StoreCall × Shuffle) : Prop :=
  (stores.memory.perform event.1).1.Same ((event.2.apply stores.postgres).perform event.1).1

end StorePair

-----------------------------------------------------------------------------------------
-- Where the stores agree
-----------------------------------------------------------------------------------------

/-- What a call writes fits the declared types of its columns, and what it asks for is sent. -/
def StoreCall.FitsColumns : StoreCall → Prop
  | .createCase case => case.FitsColumns
  | .updateCase case => case.FitsColumns
  | .getCase caseId => Clean caseId
  | .findCaseByMandate mandateId => Clean mandateId
  | .findCaseByPaymentId paymentId => Clean paymentId
  | .getMaxAttemptNumber caseId => Clean caseId
  | .findAttemptByPaymentId paymentId => Clean paymentId
  | .recordFailure event => event.FitsColumns
  | .getFailure caseId _ => Clean caseId
  | .recordRetryDecision decision => decision.FitsColumns
  | .updateRetryDecision decision => decision.FitsColumns
  | .getRetryDecision caseId _ => Clean caseId
  | .getPendingRetries => True
  | .appendAudit entry => entry.FitsColumns
  | .getAuditTrail caseId => Clean caseId

/-- A call that meets no rule that only one of the stores enforces. -/
def Interchangeable (memory : InMemoryCaseStore) : StoreCall → Prop
  -- only the in-memory store keeps mandates unique
  | .createCase case =>
      memory.cases.find? case.caseId ≠ none ∨ memory.mandateIndex case.mandateId = none
  -- only the in-memory store refuses an unknown case, and its old mandates stay mapped
  | .updateCase case =>
      ∃ old, memory.cases.find? case.caseId = some old ∧ old.mandateId = case.mandateId
  -- one index holds the payments that opened a case, the other those of recorded failures
  | .findCaseByPaymentId paymentId =>
      match memory.findAttemptByPaymentId paymentId with
      | none => memory.cases.find? paymentId = none
      | some (caseId, _) =>
          caseId = paymentId
          ∨ memory.cases.find? caseId = none ∧ memory.cases.find? paymentId = none
  -- only the in-memory store keeps attempts unique
  | .recordFailure event =>
      memory.failures.find? event.attempt = none
      ∨ memory.findAttemptByPaymentId event.paymentId ≠ none
  -- only in Postgres do empty notes come back as none, and some floats as other numbers
  | .getFailure caseId attemptNumber =>
      ∀ event, memory.failures.find? (caseId, attemptNumber) = some event
        → NotesKept event.notes
  -- only the in-memory store refuses an unknown decision
  | .updateRetryDecision decision => memory.decisions.find? decision.attempt ≠ none
  -- only Postgres keeps given sequence ids unique, and continues behind them
  | .appendAudit entry => entry.sequenceId = none
  | _ => True

namespace StorePair

/-- Both stores have the same contents, and the indexes of the in-memory one are those that
its records give.
-/
structure Related (stores : StorePair) : Prop where
  cases : stores.memory.cases.rows.Perm stores.postgres.recoveryCases.rows
  mandates
    : ∀ mandateId caseId,
        stores.memory.mandateIndex mandateId = some caseId
        ↔ ∃ case,
            stores.memory.cases.find? caseId = some case ∧ case.mandateId = mandateId
  payments
    : ∀ paymentId,
        stores.memory.paymentIndex paymentId
        = (stores.memory.cases.find? paymentId).map (·.caseId)
  failures
    : (stores.memory.failures.rows.map PostgresCaseStore.failureRow).Perm
        stores.postgres.paymentFailures.rows
  attempts
    : ∀ paymentId,
        stores.memory.findAttemptByPaymentId paymentId
        = stores.postgres.findAttemptByPaymentId paymentId
  decisions : stores.memory.decisions.rows.Perm stores.postgres.retryDecisions.rows
  audit : ∃ ledger, stores.memory.Holds ledger ∧ stores.postgres.Holds ledger

/-- New stores are both empty. -/
theorem related_new : Related {} where
  cases := .nil
  mandates := by simp
  payments _ := rfl
  failures := .nil
  attempts _ := rfl
  decisions := .nil
  audit := ⟨.empty, InMemoryCaseStore.holds_empty, PostgresCaseStore.holds_empty⟩

variable {stores : StorePair}

/-- The physical order of the rows is not part of the contents. -/
theorem Related.reorder (related : stores.Related) (shuffle : Shuffle)
    : Related { stores with postgres := shuffle.apply stores.postgres } := by
  have reordered := shuffle.reordered stores.postgres
  refine ⟨related.cases.trans reordered.cases, related.mandates, related.payments,
    related.failures.trans reordered.failures, fun paymentId => ?_,
    related.decisions.trans reordered.decisions, ?_⟩
  · rw [related.attempts]
    simp only [PostgresCaseStore.findAttemptByPaymentId, Table.find?_perm reordered.failures]
  · obtain ⟨ledger, memory, postgres⟩ := related.audit
    exact ⟨ledger, memory, by rw [PostgresCaseStore.Holds, reordered.audit]; exact postgres⟩

/-- A created case is refused by both stores, or new to both. -/
theorem Related.createCase (related : stores.Related) {case : RecoveryCase}
    (ok : Interchangeable stores.memory (.createCase case))
    : stores.Agree (.createCase case, .identity)
      ∧ Related (stores.step (.createCase case, .identity)) := by
  obtain ⟨memory, postgres⟩ := stores
  unfold Agree step
  dsimp only [Shuffle.identity, id, InMemoryCaseStore.perform, PostgresCaseStore.perform]
  unfold InMemoryCaseStore.createCase PostgresCaseStore.createCase
  rcases Table.insert?_perm related.cases case with
    ⟨refused, refused'⟩ | ⟨cases, cases', inserted, inserted', same⟩
  · dsimp only at refused refused'
    rw [refused, refused']
    exact ⟨.equal _, related⟩
  · dsimp only at inserted inserted'
    have fresh := (Table.insert?_some inserted).1
    have unmapped : memory.mandateIndex case.mandateId = none :=
      ok.resolve_left (fun taken => taken fresh)
    rw [inserted, inserted']
    dsimp only
    rw [if_neg (by simp [unmapped])]
    refine ⟨.equal _, same, fun mandateId caseId => ?_, fun paymentId => ?_, related.failures,
      related.attempts, related.decisions, ?_⟩
    · dsimp only [StoreReply.written]
      rw [Table.find?_insert inserted]
      by_cases mandate : mandateId = case.mandateId
      · subst mandate
        rw [Function.update_self]
        have other
            : ¬∃ old,
                memory.cases.find? caseId = some old ∧ old.mandateId = case.mandateId := by
          rintro stored
          have mapped := (related.mandates case.mandateId caseId).mpr stored
          rw [unmapped] at mapped
          cases mapped
        by_cases id : caseId = case.caseId
        · simp [id]
        · simpa [id, Ne.symm id] using other
      · rw [Function.update_of_ne mandate, related.mandates]
        by_cases id : caseId = case.caseId
        · subst id
          simp [fresh, Ne.symm mandate]
        · simp [id]
    · dsimp only [StoreReply.written]
      rw [Table.find?_insert inserted]
      by_cases id : paymentId = case.caseId
      · simp [id]
      · simpa [id] using related.payments paymentId
    · obtain ⟨ledger, held, held'⟩ := related.audit
      exact ⟨ledger, ⟨held.next, held.trail⟩, held'⟩

/-- An update of a stored case under its mandate is accepted by both stores. -/
theorem Related.updateCase (related : stores.Related) {case : RecoveryCase}
    (ok : Interchangeable stores.memory (.updateCase case))
    : stores.Agree (.updateCase case, .identity)
      ∧ Related (stores.step (.updateCase case, .identity)) := by
  obtain ⟨memory, postgres⟩ := stores
  obtain ⟨old, stored, mandate⟩ := ok
  have mapped : memory.mandateIndex case.mandateId = some case.caseId :=
    (related.mandates _ _).mpr ⟨old, stored, mandate⟩
  have index : Function.update memory.mandateIndex case.mandateId (some case.caseId)
      = memory.mandateIndex := by
    rw [← mapped, Function.update_eq_self]
  unfold Agree step
  dsimp only [Shuffle.identity, id, InMemoryCaseStore.perform, PostgresCaseStore.perform]
  unfold InMemoryCaseStore.updateCase PostgresCaseStore.updateCase
  dsimp only at stored
  rw [stored]
  dsimp only [StoreReply.written]
  refine ⟨.equal _, Table.update_perm related.cases case, fun mandateId caseId => ?_,
    fun paymentId => ?_, related.failures, related.attempts, related.decisions, ?_⟩
  · dsimp only
    rw [index, related.mandates, Table.find?_update]
    by_cases id : caseId = case.caseId
    · subst id
      simp [stored, mandate]
    · simp [id]
  · dsimp only
    rw [Table.find?_update, related.payments]
    by_cases id : paymentId = case.caseId
    · subst id
      simp [stored, Table.find?_key stored]
    · simp [id]
  · obtain ⟨ledger, held, held'⟩ := related.audit
    exact ⟨ledger, ⟨held.next, held.trail⟩, held'⟩

/-- A mandate finds the one case it is mapped to, in whatever row. -/
theorem Related.findCaseByMandate (related : stores.Related) (mandateId : String)
    : stores.memory.findCaseByMandate mandateId
      = stores.postgres.findCaseByMandate mandateId := by
  obtain ⟨memory, postgres⟩ := stores
  unfold InMemoryCaseStore.findCaseByMandate PostgresCaseStore.findCaseByMandate
  dsimp only
  cases found : postgres.recoveryCases.rows.find? (·.mandateId = mandateId) with
  | none =>
      cases mapped : memory.mandateIndex mandateId with
      | none => rfl
      | some caseId =>
          obtain ⟨case, stored, mandate⟩ := (related.mandates _ _).mp mapped
          have row := related.cases.mem_iff.mp (Table.mem_of_find? stored)
          exact absurd mandate (by simpa using List.find?_eq_none.mp found case row)
  | some case =>
      have row := related.cases.mem_iff.mpr (List.mem_of_find?_eq_some found)
      have mandate : case.mandateId = mandateId := by simpa using List.find?_some found
      have mapped := (related.mandates mandateId case.caseId).mpr
        ⟨case, Table.find?_of_mem row, mandate⟩
      rw [mapped]
      exact Table.find?_of_mem row

/-- A payment finds the case it opened where that is the case it is recorded for. -/
theorem Related.findCaseByPaymentId (related : stores.Related) {paymentId : String}
    (ok : Interchangeable stores.memory (.findCaseByPaymentId paymentId))
    : stores.memory.findCaseByPaymentId paymentId
      = stores.postgres.findCaseByPaymentId paymentId := by
  have opened : stores.memory.findCaseByPaymentId paymentId
      = stores.memory.cases.find? paymentId := by
    unfold InMemoryCaseStore.findCaseByPaymentId
    rw [related.payments]
    cases stored : stores.memory.cases.find? paymentId with
    | none => rfl
    | some case =>
        change stores.memory.cases.find? case.caseId = _
        rw [Table.find?_key stored, stored]
  have recorded : stores.postgres.findCaseByPaymentId paymentId
      = (stores.postgres.findAttemptByPaymentId paymentId).bind fun attempt =>
          stores.memory.cases.find? attempt.1 := by
    unfold PostgresCaseStore.findCaseByPaymentId PostgresCaseStore.findAttemptByPaymentId
    cases stores.postgres.paymentFailures.find? paymentId with
    | none => rfl
    | some event => exact Table.find?_perm related.cases event.caseId
  rw [opened, recorded, ← related.attempts]
  unfold Interchangeable at ok
  dsimp only at ok
  cases attempt : stores.memory.findAttemptByPaymentId paymentId with
  | none =>
      rw [attempt] at ok
      exact ok
  | some attempt' =>
      rw [attempt] at ok
      rcases ok with same | ⟨absent, absent'⟩
      · exact congrArg stores.memory.cases.find? same.symm
      · exact absent'.trans absent.symm

/-- A failure of a fresh attempt, or of a payment that both stores know, is taken alike. -/
theorem Related.recordFailure (related : stores.Related) {event : PaymentFailureEvent}
    (ok : Interchangeable stores.memory (.recordFailure event))
    : stores.Agree (.recordFailure event, .identity)
      ∧ Related (stores.step (.recordFailure event, .identity)) := by
  obtain ⟨memory, postgres⟩ := stores
  have known : memory.paymentAttemptIndex event.paymentId
      = (postgres.paymentFailures.find? event.paymentId).map (·.attempt) :=
    related.attempts event.paymentId
  unfold Agree step
  dsimp only [Shuffle.identity, id, InMemoryCaseStore.perform, PostgresCaseStore.perform]
  unfold InMemoryCaseStore.recordFailure PostgresCaseStore.recordFailure
  cases inserted' : postgres.paymentFailures.insert? (PostgresCaseStore.failureRow event) with
  | none =>
      obtain ⟨old, found⟩ := Table.insert?_eq_none_iff.mp inserted'
      rw [show postgres.paymentFailures.find? event.paymentId = some old from found] at known
      cases inserted : memory.failures.insert? event with
      | none => exact ⟨.equal _, related⟩
      | some failures =>
          simp only [known, Option.map_some]
          exact ⟨.equal _, related⟩
  | some failures' =>
      have unknown := (Table.insert?_some inserted').1
      rw [show postgres.paymentFailures.find? event.paymentId = none from unknown] at known
      cases inserted : memory.failures.insert? event with
      | none =>
          obtain ⟨old, found⟩ := Table.insert?_eq_none_iff.mp inserted
          rcases ok with fresh | recorded
          · rw [show memory.failures.find? event.attempt = none from fresh] at found
            cases found
          · exact absurd known recorded
      | some failures =>
          simp only [known, Option.map_none]
          refine ⟨.equal _, related.cases, related.mandates, related.payments, ?_,
            fun paymentId => ?_, related.decisions, ?_⟩
          · dsimp only [StoreReply.written]
            rw [(Table.insert?_some inserted).2, (Table.insert?_some inserted').2,
              List.map_append]
            exact related.failures.append_right _
          · dsimp only [StoreReply.written]
            unfold InMemoryCaseStore.findAttemptByPaymentId
              PostgresCaseStore.findAttemptByPaymentId
            dsimp only
            rw [Table.find?_insert inserted']
            by_cases same : paymentId = event.paymentId
            · subst same
              simp [PostgresCaseStore.failureRow, PaymentFailureEvent.attempt]
            · have others : memory.paymentAttemptIndex paymentId
                  = (postgres.paymentFailures.find? paymentId).map (·.attempt) :=
                related.attempts paymentId
              simpa [PostgresCaseStore.failureRow, same] using others
          · obtain ⟨ledger, held, held'⟩ := related.audit
            exact ⟨ledger, ⟨held.next, held.trail⟩, held'⟩

/-- The failure of an attempt is an equal record where its notes are kept. -/
theorem Related.getFailure (related : stores.Related) {caseId : String} {attemptNumber : Nat}
    (ok : Interchangeable stores.memory (.getFailure caseId attemptNumber))
    : stores.Agree (.getFailure caseId attemptNumber, .identity) := by
  obtain ⟨memory, postgres⟩ := stores
  unfold Agree
  dsimp only [Shuffle.identity, id, InMemoryCaseStore.perform, PostgresCaseStore.perform]
  unfold InMemoryCaseStore.getFailure PostgresCaseStore.getFailure
  cases found : postgres.paymentFailures.rows.find? (·.attempt = (caseId, attemptNumber)) with
  | none =>
      cases stored : memory.failures.find? (caseId, attemptNumber) with
      | none => exact .equal _
      | some event =>
          have row := related.failures.mem_iff.mp
            (List.mem_map_of_mem (Table.mem_of_find? stored))
          have other := List.find?_eq_none.mp found _ row
          exact absurd (decide_eq_true (Table.find?_key stored)) other
  | some row =>
      obtain ⟨event, member, rfl⟩ := List.mem_map.mp
        (related.failures.mem_iff.mpr (List.mem_of_find?_eq_some found))
      have selected := List.find?_some found
      have attempt : event.attempt = (caseId, attemptNumber) := of_decide_eq_true selected
      have stored : memory.failures.find? (caseId, attemptNumber) = some event :=
        attempt ▸ Table.find?_of_mem member
      rw [stored]
      exact .failure ⟨rfl, (ok event stored).equal⟩

/-- The highest attempt number does not depend on the order of the failures. -/
theorem Related.getMaxAttemptNumber (related : stores.Related) (caseId : String)
    : stores.memory.getMaxAttemptNumber caseId
      = stores.postgres.getMaxAttemptNumber caseId := by
  unfold InMemoryCaseStore.getMaxAttemptNumber PostgresCaseStore.getMaxAttemptNumber
  have numbers
      : ((stores.memory.failures.rows.filter (·.caseId = caseId)).map (·.attemptNumber)).Perm
          ((stores.postgres.paymentFailures.rows.filter (·.caseId = caseId)).map
            (·.attemptNumber)) := by
    have rows := (related.failures.filter (·.caseId = caseId)).map (·.attemptNumber)
    rw [List.filter_map, List.map_map] at rows
    exact rows
  have commutes : RightCommutative (max : Nat → Nat → Nat) := ⟨fun a b c => by omega⟩
  exact numbers.foldl_eq 0

/-- A decision is recorded by both stores, or by neither. -/
theorem Related.recordRetryDecision (related : stores.Related) (decision : RetryDecision)
    : stores.Agree (.recordRetryDecision decision, .identity)
      ∧ Related (stores.step (.recordRetryDecision decision, .identity)) := by
  obtain ⟨memory, postgres⟩ := stores
  unfold Agree step
  dsimp only [Shuffle.identity, id, InMemoryCaseStore.perform, PostgresCaseStore.perform]
  unfold InMemoryCaseStore.recordRetryDecision PostgresCaseStore.recordRetryDecision
  rcases Table.insert?_perm related.decisions decision with
    ⟨refused, refused'⟩ | ⟨decisions, decisions', inserted, inserted', same⟩
  · dsimp only at refused refused'
    rw [refused, refused']
    exact ⟨.equal _, related⟩
  · dsimp only at inserted inserted'
    rw [inserted, inserted']
    obtain ⟨ledger, held, held'⟩ := related.audit
    exact ⟨.equal _, related.cases, related.mandates, related.payments, related.failures,
      related.attempts, same, ledger, ⟨held.next, held.trail⟩, held'⟩

/-- An update of a recorded decision is accepted by both stores. -/
theorem Related.updateRetryDecision (related : stores.Related) {decision : RetryDecision}
    (ok : Interchangeable stores.memory (.updateRetryDecision decision))
    : stores.Agree (.updateRetryDecision decision, .identity)
      ∧ Related (stores.step (.updateRetryDecision decision, .identity)) := by
  obtain ⟨memory, postgres⟩ := stores
  obtain ⟨old, stored⟩ := Option.ne_none_iff_exists'.mp ok
  unfold Agree step
  dsimp only [Shuffle.identity, id, InMemoryCaseStore.perform, PostgresCaseStore.perform]
  unfold InMemoryCaseStore.updateRetryDecision PostgresCaseStore.updateRetryDecision
  dsimp only at stored
  rw [stored]
  obtain ⟨ledger, held, held'⟩ := related.audit
  exact ⟨.equal _, related.cases, related.mandates, related.payments, related.failures,
    related.attempts, Table.update_perm related.decisions decision, ledger,
    ⟨held.next, held.trail⟩, held'⟩

/-- An unnumbered entry extends the ledger behind both stores. -/
theorem Related.appendAudit (related : stores.Related) {entry : AuditEntry}
    (ok : Interchangeable stores.memory (.appendAudit entry))
    : stores.Agree (.appendAudit entry, .identity)
      ∧ Related (stores.step (.appendAudit entry, .identity)) := by
  obtain ⟨memory, postgres⟩ := stores
  obtain ⟨ledger, held, held'⟩ := related.audit
  obtain ⟨postgres', appended, extended⟩ := held'.appendAudit ok
  have others : postgres' = { postgres with auditEntries := postgres'.auditEntries } := by
    unfold PostgresCaseStore.appendAudit PostgresCaseStore.insertAudit at appended
    obtain ⟨auditEntries, _, rfl⟩ := Option.map_eq_some_iff.mp appended
    rfl
  have kept : memory.appendAudit entry
      = { memory with
          auditLogs := (memory.appendAudit entry).auditLogs
          nextSequence := (memory.appendAudit entry).nextSequence } := by
    unfold InMemoryCaseStore.appendAudit
    cases entry.sequenceId <;> rfl
  unfold Agree step
  dsimp only [Shuffle.identity, id, InMemoryCaseStore.perform, PostgresCaseStore.perform]
    at appended ⊢
  rw [appended]
  refine ⟨.equal _, ?_⟩
  have ledgers : (memory.appendAudit entry).Holds (ledger.append entry) := held.appendAudit ok
  rw [others] at extended ⊢
  rw [kept] at ledgers ⊢
  exact ⟨related.cases, related.mandates, related.payments, related.failures,
    related.attempts, related.decisions, ledger.append entry, ledgers, extended⟩

theorem agree_of_eq {call : StoreCall}
    (same : (stores.memory.perform call).1 = (stores.postgres.perform call).1)
    : stores.Agree (call, .identity) := by
  unfold Agree
  rw [same]
  exact .equal _

/-- Every interchangeable call is answered alike and keeps the contents alike. -/
theorem Related.perform (related : stores.Related) {call : StoreCall}
    (ok : Interchangeable stores.memory call)
    : stores.Agree (call, .identity) ∧ Related (stores.step (call, .identity)) := by
  cases call with
  | createCase case => exact related.createCase ok
  | updateCase case => exact related.updateCase ok
  | getCase caseId =>
      refine ⟨?_, related⟩
      have found := Table.find?_perm related.cases caseId
      unfold Agree
      dsimp only [Shuffle.identity, id, InMemoryCaseStore.perform, PostgresCaseStore.perform]
      unfold InMemoryCaseStore.getCase PostgresCaseStore.getCase
      rw [found]
      exact .equal _
  | findCaseByMandate mandateId =>
      exact ⟨agree_of_eq (congrArg StoreReply.case (related.findCaseByMandate mandateId)), related⟩
  | findCaseByPaymentId paymentId =>
      exact ⟨agree_of_eq (congrArg StoreReply.case (related.findCaseByPaymentId ok)), related⟩
  | getMaxAttemptNumber caseId =>
      exact ⟨agree_of_eq (congrArg StoreReply.number (related.getMaxAttemptNumber caseId)), related⟩
  | findAttemptByPaymentId paymentId =>
      exact ⟨agree_of_eq (congrArg StoreReply.attempt (related.attempts paymentId)), related⟩
  | recordFailure event => exact related.recordFailure ok
  | getFailure caseId attemptNumber => exact ⟨related.getFailure ok, related⟩
  | recordRetryDecision decision => exact related.recordRetryDecision decision
  | updateRetryDecision decision => exact related.updateRetryDecision ok
  | getRetryDecision caseId attemptNumber =>
      refine ⟨?_, related⟩
      have found := Table.find?_perm related.decisions (caseId, attemptNumber)
      unfold Agree
      dsimp only [Shuffle.identity, id, InMemoryCaseStore.perform, PostgresCaseStore.perform]
      unfold InMemoryCaseStore.getRetryDecision PostgresCaseStore.getRetryDecision
      rw [found]
      exact .equal _
  | getPendingRetries => exact ⟨.decisions (related.decisions.filter _), related⟩
  | appendAudit entry => exact related.appendAudit ok
  | getAuditTrail caseId =>
      obtain ⟨ledger, held, held'⟩ := related.audit
      have trails : stores.memory.getAuditTrail caseId = stores.postgres.getAuditTrail caseId := by
        rw [held'.getAuditTrail]
        exact held.trail caseId
      exact ⟨agree_of_eq (congrArg StoreReply.trail trails), related⟩

-----------------------------------------------------------------------------------------
-- Interchangeability
-----------------------------------------------------------------------------------------

/-- In every run whose calls are all interchangeable when they are made, the stores answer
every call alike, whatever order the database keeps its rows in.
-/
theorem agree_along {events : List (StoreCall × Shuffle)}
    (interchangeable
      : Run.Along step {} events fun stores event =>
          Interchangeable stores.memory event.1 ∧ event.1.FitsColumns)
    : Run.Along step {} events Agree := by
  refine interchangeable.implies related_new fun stores event related ok => ?_
  exact (related.reorder event.2).perform ok.1

/-- A case of one mandate. -/
def openedCase : RecoveryCase where
  caseId := "pay_2"
  mandateId := "mandate_1"
  instrumentId := "upi_1"
  originalAmount := 50000
  openedAt := 0
  caseId_ne := ne_empty _ trivial
  mandateId_ne := ne_empty _ trivial
  instrumentId_ne := ne_empty _ trivial
  originalAmount_pos := fiveHundredRupees_pos

theorem openedCase_fits : openedCase.FitsColumns where
  caseId := by decide
  mandateId := by decide
  instrumentId := by decide
  originalAmount := by decide
  retriesUsed := by decide

/-- Both stores take a new case and find it by its mandate. -/
theorem agree_along_opened
    : Run.Along step {}
        [(.createCase openedCase, .identity), (.findCaseByMandate "mandate_1", .identity)]
        Agree :=
  agree_along (Run.along_cons.mpr
    ⟨⟨.inr rfl, openedCase_fits⟩,
      Run.along_cons.mpr ⟨⟨trivial, by unfold StoreCall.FitsColumns; decide⟩, Run.along_nil⟩⟩)

/-- The stores do not answer every call alike. Witness: a second case for a mandate, which
only the in-memory store refuses.
-/
theorem not_agree_along
    : ¬∀ events : List (StoreCall × Shuffle), Run.Along step {} events Agree := by
  intro claimed
  let second : RecoveryCase := { openedCase with caseId := "pay_3", caseId_ne := by decide }
  have agree := claimed [(.createCase openedCase, .identity), (.createCase second, .identity)]
    [(.createCase openedCase, .identity)] (.createCase second, .identity) [] rfl
  have refused := StoreReply.Same.isRefused agree
  exact absurd refused (by decide +kernel)

end StorePair

end RecoveryAgent
