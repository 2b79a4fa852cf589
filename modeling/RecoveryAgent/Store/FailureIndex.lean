import RecoveryAgent.Store.InMemoryCaseStore
import RecoveryAgent.Lib.Run

/-! The two dictionaries of failures of the in-memory store: one by attempt, one by payment.
Each record is written to both, and refused if either has its key.
-/

namespace RecoveryAgent.InMemoryCaseStore

variable {store store' : InMemoryCaseStore}

/-- An accepted failure: neither its attempt nor its payment was taken. -/
theorem recordFailure_ok {event : PaymentFailureEvent}
    (recorded : store.recordFailure event = .ok store')
    : ∃ failures,
        store.failures.insert? event = some failures
        ∧ store.paymentAttemptIndex event.paymentId = none
        ∧ store' = { store with
            failures
            paymentAttemptIndex :=
              Function.update store.paymentAttemptIndex event.paymentId (some event.attempt) } := by
  unfold recordFailure at recorded
  cases inserted : store.failures.insert? event with
  | none =>
      rw [inserted] at recorded
      cases recorded
  | some failures =>
      rw [inserted] at recorded
      dsimp only at recorded
      split at recorded
      · cases recorded
      · next free =>
          cases recorded
          exact ⟨failures, rfl, free, rfl⟩

theorem getFailure_ok_iff {caseId : String} {attemptNumber : Nat} {event : PaymentFailureEvent}
    : store.getFailure caseId attemptNumber = .ok event
      ↔ store.failures.find? (caseId, attemptNumber) = some event := by
  unfold getFailure
  cases store.failures.find? (caseId, attemptNumber) <;> simp

/-- A failure is refused exactly if its attempt or its payment is taken. -/
theorem recordFailure_refused_iff (store : InMemoryCaseStore) (event : PaymentFailureEvent)
    : (∃ raised, store.recordFailure event = .error raised)
      ↔ (∃ old, store.getFailure event.caseId event.attemptNumber = .ok old)
        ∨ store.findAttemptByPaymentId event.paymentId ≠ none := by
  have taken
      : (∃ old, store.getFailure event.caseId event.attemptNumber = .ok old)
        ↔ store.failures.insert? event = none := by
    simp only [Table.insert?_eq_none_iff, getFailure_ok_iff]
    rfl
  rw [taken]
  unfold recordFailure findAttemptByPaymentId
  cases store.failures.insert? event with
  | none => simp
  | some failures => cases store.paymentAttemptIndex event.paymentId <;> simp

/-- The payments index exactly the stored failures. -/
def FailuresIndexed (store : InMemoryCaseStore) : Prop :=
  ∀ paymentId attempt,
    store.paymentAttemptIndex paymentId = some attempt
    ↔ ∃ event, store.failures.find? attempt = some event ∧ event.paymentId = paymentId

theorem failuresIndexed_new : FailuresIndexed {} := fun _ _ => by simp

/-- An accepted failure is indexed with the others. -/
theorem FailuresIndexed.recordFailure (indexed : store.FailuresIndexed)
    {event : PaymentFailureEvent} (recorded : store.recordFailure event = .ok store')
    : store'.FailuresIndexed := by
  obtain ⟨failures, inserted, free, rfl⟩ := recordFailure_ok recorded
  intro paymentId attempt
  dsimp only
  rw [Table.find?_insert inserted]
  have fresh := (Table.insert?_some inserted).1
  by_cases payment : paymentId = event.paymentId
  · subst payment
    rw [Function.update_self]
    by_cases same : attempt = event.attempt
    · simp [same]
    · rw [if_neg same, ← indexed event.paymentId attempt, free]
      simp [Ne.symm same]
  · rw [Function.update_of_ne payment, indexed]
    by_cases same : attempt = event.attempt
    · subst same
      simp [fresh, Ne.symm payment]
    · rw [if_neg same]

/-- The store after the call; a refused one leaves it. -/
def writeFailure (store : InMemoryCaseStore) (event : PaymentFailureEvent)
    : InMemoryCaseStore :=
  match store.recordFailure event with
  | .ok store => store
  | .error _ => store

theorem writeFailure_refused {event : PaymentFailureEvent} {raised : CaseStoreError}
    (refused : store.recordFailure event = .error raised)
    : store.writeFailure event = store := by
  simp only [writeFailure, refused]

theorem FailuresIndexed.writeFailure (indexed : store.FailuresIndexed)
    (event : PaymentFailureEvent)
    : (store.writeFailure event).FailuresIndexed := by
  unfold InMemoryCaseStore.writeFailure
  split
  · next recorded => exact indexed.recordFailure recorded
  · exact indexed

/-- What the two dictionaries are to each other, as the store's calls show it. -/
structure FailuresInverse (store : InMemoryCaseStore) : Prop where
  /-- A payment finds the attempt whose failure has it. -/
  finds
    : ∀ paymentId caseId attemptNumber,
        store.findAttemptByPaymentId paymentId = some (caseId, attemptNumber)
        ↔ ∃ event,
            store.getFailure caseId attemptNumber = .ok event ∧ event.paymentId = paymentId
  /-- No payment is stored twice. -/
  unique : (store.failures.rows.map (·.paymentId)).Nodup

/-- Indexed failures are inverse to their index. -/
theorem FailuresIndexed.inverse (indexed : store.FailuresIndexed) : store.FailuresInverse where
  finds paymentId caseId attemptNumber := by
    simp only [getFailure_ok_iff]
    exact indexed paymentId (caseId, attemptNumber)
  unique := by
    refine List.Nodup.map_on ?_ store.failures.unique.of_map
    intro first stored second stored' same
    have index := (indexed first.paymentId first.attempt).mpr
      ⟨first, Table.find?_of_mem stored, rfl⟩
    have index' := (indexed first.paymentId second.attempt).mpr
      ⟨second, Table.find?_of_mem stored', same.symm⟩
    have attempt := Option.some.inj (index.symm.trans index')
    refine Option.some.inj ((Table.find?_of_mem stored).symm.trans ?_)
    rw [show PaymentFailureEvent.attempt first = _ from attempt]
    exact Table.find?_of_mem stored'

/-- After any calls of `record_failure`, accepted and refused, the index is inverse. -/
theorem failuresInverse_run (events : List PaymentFailureEvent)
    : (events.foldl writeFailure {}).FailuresInverse :=
  (Run.keeps failuresIndexed_new (fun _ event indexed => indexed.writeFailure event)
    events).inverse

/-- The attempts stored for a case, in the order in which they were recorded. -/
def attemptNumbers (store : InMemoryCaseStore) (caseId : String) : List Nat :=
  (store.failures.rows.filter (·.caseId = caseId)).map (·.attemptNumber)

theorem getMaxAttemptNumber_eq {caseId : String} {n : Nat}
    (numbers : store.attemptNumbers caseId = List.range' 1 n)
    : store.getMaxAttemptNumber caseId = n :=
  (congrArg (List.foldl max 0) numbers).trans (foldl_max_range' n)

/-- A failure goes behind the attempts of its case. -/
theorem attemptNumbers_recordFailure {event : PaymentFailureEvent}
    (recorded : store.recordFailure event = .ok store') (caseId : String)
    : store'.attemptNumbers caseId
      = store.attemptNumbers caseId
        ++ if caseId = event.caseId then [event.attemptNumber] else [] := by
  obtain ⟨failures, inserted, _, rfl⟩ := recordFailure_ok recorded
  unfold attemptNumbers
  rw [(Table.insert?_some inserted).2]
  by_cases same : caseId = event.caseId
  · simp [same]
  · simp [same, Ne.symm same]

end RecoveryAgent.InMemoryCaseStore
