import RecoveryAgent.Store.FailureIndex
import RecoveryAgent.Service.Issuing

/-! How the ingestion handlers number the failures of a case.
The next number is one more than the maximum over the stored keys, and a new case has none yet.
A second typestate follows the maximum a handler has seen through its writes.
-/

namespace RecoveryAgent

open StateMachine

-----------------------------------------------------------------------------------------
-- The typestate
-----------------------------------------------------------------------------------------

/-- How many attempts of a case a handler has seen stored. -/
abbrev Counted := String → Option Nat

/-- A failure is recorded as the next attempt of a case whose attempts were counted. -/
def numbering : Program.Typestate Op Res Counted where
  allowed counted op :=
    match op with
    | .recordFailure event => ∃ n, counted event.caseId = some n ∧ event.attemptNumber = n + 1
    | _ => True
  reply _ _ _ := True
  next counted op reply :=
    match op, reply with
    | .createCase case, .ok _ => Function.update counted case.caseId (some 0)
    | .getMaxAttemptNumber caseId, n => Function.update counted caseId (some n)
    | .recordFailure event, .ok _ =>
        Function.update counted event.caseId (some event.attemptNumber)
    | _, _ => counted

/-- The failures are indexed, and the attempts of every case numbered from 1. -/
structure InMemoryCaseStore.Numbered (store : InMemoryCaseStore) : Prop where
  indexed : store.FailuresIndexed
  numbers : ∀ caseId, ∃ n, store.attemptNumbers caseId = List.range' 1 n

/-- What was counted is stored, in a store that is numbered. -/
def Counted.Holds (counted : Counted) (world : World) : Prop :=
  ∀ store, world.store = .inMemory store
    → store.Numbered
      ∧ ∀ caseId n, counted caseId = some n → store.attemptNumbers caseId = List.range' 1 n

/-- The one call that writes failures. -/
def Op.Records : Op → Prop
  | .recordFailure _ => True
  | _ => False

/-- Only a recorded failure changes the failures and their index. -/
theorem World.answer_failures (deployment : Deployment) {op : Op} (other : ¬ op.Records)
    {world : World} {store' : InMemoryCaseStore}
    (inMemory : (world.answer deployment op).2.store = .inMemory store')
    : ∃ store,
        world.store = .inMemory store ∧ store'.failures = store.failures
        ∧ store'.paymentAttemptIndex = store.paymentAttemptIndex := by
  obtain ⟨worker, store, log⟩ := world
  cases store with
  | postgres store =>
      have kind := World.answer_isInMemory deployment op ⟨worker, .postgres store, log⟩
      rw [inMemory] at kind
      cases kind
  | inMemory store =>
      have accepted {answered : Except CaseStoreError InMemoryCaseStore}
          (kept
            : ∀ next, answered = .ok next
              → next.failures = store.failures
                ∧ next.paymentAttemptIndex = store.paymentAttemptIndex)
          (same
            : ((⟨worker, .inMemory store, log⟩ : World).stored
                (CaseStore.ofInMemory answered)).2.store = .inMemory store')
          : ∃ old,
              CaseStore.inMemory store = .inMemory old ∧ store'.failures = old.failures
              ∧ store'.paymentAttemptIndex = old.paymentAttemptIndex := by
        cases answered with
        | ok next =>
            cases same
            exact ⟨store, rfl, kept _ rfl⟩
        | error raised =>
            cases same
            exact ⟨_, rfl, rfl, rfl⟩
      cases op with
      | recordFailure event => exact absurd trivial other
      | createCase case =>
          refine accepted (fun next created => ?_) inMemory
          obtain ⟨cases, _, _, rfl⟩ := InMemoryCaseStore.createCase_ok created
          exact ⟨rfl, rfl⟩
      | updateCase case =>
          refine accepted (fun next updated => ?_) inMemory
          obtain ⟨_, rfl⟩ := InMemoryCaseStore.updateCase_ok updated
          exact ⟨rfl, rfl⟩
      | recordRetryDecision decision =>
          refine accepted (fun next recorded => ?_) inMemory
          unfold InMemoryCaseStore.recordRetryDecision at recorded
          split at recorded <;> cases recorded
          exact ⟨rfl, rfl⟩
      | updateRetryDecision decision =>
          refine accepted (fun next updated => ?_) inMemory
          unfold InMemoryCaseStore.updateRetryDecision at updated
          split at updated <;> cases updated
          exact ⟨rfl, rfl⟩
      | commitEffect caseId attempt effect =>
          simp only [World.answer, World.commitEffect] at inMemory
          split at inMemory <;> cases inMemory <;> exact ⟨_, rfl, rfl, rfl⟩
      | advanceClock delta =>
          simp only [World.answer] at inMemory
          split at inMemory <;> cases inMemory <;> exact ⟨_, rfl, rfl, rfl⟩
      | _ =>
          cases inMemory
          exact ⟨_, rfl, rfl, rfl⟩

/-- A case without a row has no attempts. -/
theorem InMemoryCaseStore.Filed.attemptNumbers_nil {store : InMemoryCaseStore}
    (filed : store.Filed) {caseId : String} (absent : store.cases.find? caseId = none)
    : store.attemptNumbers caseId = [] := by
  unfold attemptNumbers
  rw [List.map_eq_nil_iff, List.filter_eq_nil_iff]
  intro event stored own
  exact filed.owners event stored (of_decide_eq_true own ▸ absent)

/-- The environment keeps the counts, in a store that is in order. -/
theorem numbering_serves (deployment : Deployment) (counted : Counted) (op : Op) (world : World)
    (allowed : numbering.allowed counted op) (filed : world.Filed) (holds : counted.Holds world)
    : (numbering.next counted op (world.answer deployment op).1).Holds
        (world.answer deployment op).2 := by
  -- Only three calls move the counts, and only one of them the failures.
  have kept (other : ¬ op.Records) : counted.Holds (world.answer deployment op).2 := by
    intro store' inMemory'
    obtain ⟨store, inMemory, failures, payments⟩ :=
      World.answer_failures deployment other inMemory'
    obtain ⟨⟨indexed, numbers⟩, counts⟩ := holds store inMemory
    have same (caseId : String) : store'.attemptNumbers caseId = store.attemptNumbers caseId := by
      unfold InMemoryCaseStore.attemptNumbers
      rw [failures]
    refine ⟨⟨?_, fun caseId => ?_⟩, fun caseId n seen => ?_⟩
    · unfold InMemoryCaseStore.FailuresIndexed
      rw [failures, payments]
      exact indexed
    · rw [same]
      exact numbers caseId
    · rw [same]
      exact counts caseId n seen
  obtain ⟨worker, store, log⟩ := world
  cases store with
  | postgres store =>
      intro memory inMemory
      have kind := World.answer_isInMemory deployment op ⟨worker, .postgres store, log⟩
      rw [inMemory] at kind
      cases kind
  | inMemory store =>
      obtain ⟨⟨indexed, numbers⟩, counts⟩ := holds store rfl
      cases op with
      | createCase case =>
          have kept := kept id
          simp only [World.answer, World.stored, CaseStore.createCase] at kept ⊢
          cases created : store.createCase case with
          | error raised =>
              rw [created] at kept
              exact kept
          | ok store' =>
              rw [created] at kept
              intro memory same
              obtain ⟨numbered, counts⟩ := kept memory same
              cases same
              refine ⟨numbered, fun caseId n seen => ?_⟩
              change Function.update counted case.caseId (some 0) caseId = some n at seen
              by_cases here : caseId = case.caseId
              · rw [here, Function.update_self] at seen
                obtain ⟨filed', absent, _⟩ := (filed store rfl).createCase created
                have none_ := (filed store rfl).attemptNumbers_nil absent
                obtain ⟨cases, _, _, rfl⟩ := InMemoryCaseStore.createCase_ok created
                rw [here, ← Option.some.inj seen]
                exact none_
              · rw [Function.update_of_ne here] at seen
                exact counts caseId n seen
      | getMaxAttemptNumber caseId =>
          intro memory same
          cases same
          refine ⟨⟨indexed, numbers⟩, fun other n seen => ?_⟩
          by_cases here : other = caseId
          · subst here
            obtain ⟨count, counts⟩ := numbers other
            have maximum := InMemoryCaseStore.getMaxAttemptNumber_eq counts
            simp only [numbering, World.answer, CaseStore.getMaxAttemptNumber,
              Function.update_self, Option.some.injEq] at seen
            rw [counts, ← seen, maximum]
          · exact counts other n (by simpa [numbering, here] using seen)
      | recordFailure event =>
          obtain ⟨count, seen, next⟩ := allowed
          simp only [World.answer, World.stored, CaseStore.recordFailure]
          cases recorded : store.recordFailure event with
          | error raised => exact holds
          | ok store' =>
              intro memory same
              cases same
              have behind := InMemoryCaseStore.attemptNumbers_recordFailure recorded
              have own : store'.attemptNumbers event.caseId = List.range' 1 (count + 1) := by
                rw [behind, counts event.caseId count seen, if_pos rfl, next,
                  List.range'_concat]
                simp [Nat.add_comm]
              have others {caseId : String} (other : caseId ≠ event.caseId)
                  : store'.attemptNumbers caseId = store.attemptNumbers caseId := by
                rw [behind, if_neg other, List.append_nil]
              refine ⟨⟨indexed.recordFailure recorded, fun caseId => ?_⟩, fun caseId n seen => ?_⟩
              · by_cases here : caseId = event.caseId
                · exact ⟨count + 1, here ▸ own⟩
                · rw [others here]
                  exact numbers caseId
              · change Function.update counted event.caseId (some event.attemptNumber) caseId
                  = some n at seen
                by_cases here : caseId = event.caseId
                · rw [here, Function.update_self, next] at seen
                  rw [here, ← Option.some.inj seen]
                  exact own
                · rw [Function.update_of_ne here] at seen
                  rw [others here]
                  exact counts caseId n seen
      | _ => exact kept id

-----------------------------------------------------------------------------------------
-- The handlers
-----------------------------------------------------------------------------------------

/-- A plain call keeps to the typestate in every phase: it records no failure. -/
theorem Op.Plain.counts {op : Op} (plain : op.Plain) (counted : Counted)
    : numbering.allowed counted op := by
  cases op with
  | recordFailure event => exact plain.elim
  | _ => trivial

namespace Handler

variable {α : Type} {counted : Counted}

/-- A handler of calls that are allowed in every phase keeps to the typestate. -/
theorem counts_issues {handler : Handler α}
    (issues : Issues (fun op => ∀ counted, numbering.allowed counted op) handler)
    : Obeys numbering counted handler fun _ _ => True :=
  (Program.Uses.follows issues (fun counted _ allowed => allowed counted) counted).mono
    fun _ _ _ _ _ => trivial

theorem counts_plain {handler : Handler α} (issues : Issues Op.Plain handler)
    : Obeys numbering counted handler fun _ _ => True :=
  counts_issues (issues.mono fun _ plain => plain.counts)

variable (config : AppConfig)

/-- The failure the state machine hands back is the next attempt if the one it was given is. -/
theorem counts_handleFailure (existing : Option RecoveryCase) (event : PaymentFailureEvent)
    : Obeys numbering counted (handleFailure config existing event) fun done counted' =>
        counted' = counted
        ∧ done.2.1.caseId = event.caseId
        ∧ done.2.1.attemptNumber = event.attemptNumber
        ∧ (existing = none → done.1.caseId = event.caseId) := by
  unfold handleFailure
  refine Obeys.bind (obeys_ask trivial fun _ => rfl) fun clock counted' same => ?_
  subst same
  cases existing with
  | none =>
      dsimp only
      cases handled : handleNewFailure event config clock with
      | error raised => exact obeys_throw _ _
      | ok done =>
          have same := handleNewFailure_event handled
          refine obeys_pure ⟨rfl, by rw [same], by rw [same], fun _ => ?_⟩
          exact (handleNewFailure_opened handled).caseId
  | some case =>
      dsimp only
      cases handled : (handleExistingFailure case event config clock).result with
      | error raised =>
          exact Obeys.bind (obeys_ask trivial fun _ => rfl) fun _ _ _ => obeys_throw _ _
      | ok done =>
          have same := handleExistingFailure_event handled
          refine obeys_pure ⟨rfl, ?_, ?_, nofun⟩ <;> rw [same]

/-- What follows the parsing of a failure that is the next attempt of its case. -/
theorem counts_handled {existing : Option RecoveryCase} {event : PaymentFailureEvent}
    (first : existing = none → event.attemptNumber = 1)
    (next
      : existing ≠ none
        → ∃ n, counted event.caseId = some n ∧ event.attemptNumber = n + 1)
    : Obeys numbering counted (do
        let (case, event, entries) ← handleFailure config existing event
        ExceptT.adapt storeConflict do
          match existing with
          | none => createCase case
          | some _ => updateCase case
          recordFailure event
          appendAll entries
        if existing.isNone then
          recordDistress case.instrumentId (← now)
        return (case, event)) fun _ _ => True := by
  refine Obeys.bind (counts_handleFailure config existing event) fun done counted' handled => ?_
  obtain ⟨case, event', entries⟩ := done
  obtain ⟨rfl, owned, number, opened⟩ := handled
  dsimp only at owned number opened ⊢
  have recorded {counted : Counted}
      (next : ∃ n, counted event'.caseId = some n ∧ event'.attemptNumber = n + 1)
      : Obeys numbering counted (do recordFailure event'; appendAll entries) fun _ _ => True := by
    have write : Obeys numbering counted (recordFailure event') fun _ _ => True :=
      Obeys.bind (obeys_call next) fun _ _ _ => obeys_orRaise fun _ _ => trivial
    exact Obeys.bind write fun _ _ _ => counts_plain (issues_appendAll entries)
  cases existing with
  | none =>
      have created : Obeys numbering counted' (createCase case) fun _ counted'' =>
          counted'' = Function.update counted' case.caseId (some 0) := by
        refine Obeys.bind (obeys_call trivial) fun reply counted'' same => ?_
        subst same
        exact obeys_orRaise fun value ok => by rw [ok]; rfl
      have written : Obeys numbering counted' (do
          createCase case
          recordFailure event'
          appendAll entries) fun _ _ => True := by
        refine Obeys.bind created ?_
        rintro _ _ rfl
        refine recorded ⟨0, ?_, by rw [number, first rfl]⟩
        rw [owned, opened rfl, Function.update_self]
      refine Obeys.bind (obeys_adapt storeConflict written) fun _ _ _ => ?_
      exact counts_plain (.bind issues_now fun _ =>
        .bind (issues_call trivial) fun _ => issues_pure _)
  | some stored =>
      have updated : Obeys numbering counted' (updateCase case) fun _ counted'' =>
          counted'' = counted' := by
        refine Obeys.bind (obeys_ask trivial fun _ => rfl) fun reply counted'' same => ?_
        subst same
        exact obeys_orRaise fun _ _ => rfl
      have written : Obeys numbering counted' (do
          updateCase case
          recordFailure event'
          appendAll entries) fun _ _ => True := by
        refine Obeys.bind updated ?_
        rintro _ _ rfl
        refine recorded ?_
        rw [owned, number]
        exact next nofun
      exact Obeys.bind (obeys_adapt storeConflict written) fun _ _ _ => obeys_pure trivial

theorem counts_ingestFailure (entity : PaymentEntity) (existing : Option RecoveryCase)
    (detail : PyError → Detail)
    : Obeys numbering counted (ingestFailure config entity existing detail)
        fun _ _ => True := by
  unfold ingestFailure
  cases existing with
  | none =>
      refine obeys_pure_bind ?_
      dsimp only
      cases parsed : parsePaymentFailed entity none none with
      | error raised => exact obeys_throw_bind _ _ _
      | ok event =>
          have resolved := (parsePaymentFailed_resolved parsed).2
          simp only [resolveAttempt, Except.ok.injEq, Prod.mk.injEq] at resolved
          exact counts_handled config (fun _ => resolved.2.symm) (absurd rfl)
  | some case =>
      refine Obeys.bind (obeys_call trivial) fun attempts counted' same => ?_
      refine obeys_pure_bind ?_
      dsimp only
      cases parsed : parsePaymentFailed entity (some case) (some (attempts + 1)) with
      | error raised => exact obeys_throw_bind _ _ _
      | ok event =>
          have resolved := (parsePaymentFailed_resolved parsed).2
          simp only [resolveAttempt, Except.ok.injEq, Prod.mk.injEq] at resolved
          refine @counts_handled counted' config (some case) event (fun none => by cases none) fun _ =>
            ⟨attempts, ?_, resolved.2.symm⟩
          rw [same, ← resolved.1]
          exact Function.update_self ..

theorem counts_lookupMandate (mandateId : Option String)
    : Obeys numbering counted (lookupMandate mandateId) fun _ _ => True := by
  unfold lookupMandate
  cases mandateId with
  | none => exact obeys_pure trivial
  | some mandateId =>
      dsimp only
      split
      · exact obeys_pure trivial
      · exact (obeys_call trivial).mono fun _ _ _ => trivial

/-- Both ingestion handlers keep to the typestate. -/
theorem counts_failure (deployment : Deployment) (delivery : FailureDelivery)
    : Obeys numbering counted (delivery.request.handler deployment) fun _ _ => True := by
  cases delivery with
  | webhook signed entity =>
      refine obeys_check fun _ => obeys_check fun _ => ?_
      refine Obeys.bind (obeys_call trivial) fun recorded _ _ => ?_
      cases recorded with
      | some attempt => exact obeys_pure trivial
      | none =>
          refine Obeys.bind (counts_lookupMandate _) fun existing _ _ => ?_
          exact Obeys.bind (counts_ingestFailure _ _ existing _) fun _ _ _ => obeys_pure trivial
  | simulated request =>
      refine obeys_check fun _ => Obeys.bind (counts_lookupMandate _) fun existing _ _ => ?_
      exact Obeys.bind (counts_ingestFailure _ _ existing _) fun _ _ _ => obeys_pure trivial

/-- Every endpoint keeps to the typestate: the others record no failure. -/
theorem counts_request (deployment : Deployment) (request : Request)
    : Obeys numbering counted (request.handler deployment) fun _ _ => True := by
  by_cases delivers : ∃ delivery : FailureDelivery, request = delivery.request
  · obtain ⟨delivery, rfl⟩ := delivers
    exact counts_failure deployment delivery
  have issues : Issues (fun op => ∀ counted, numbering.allowed counted op)
      (request.handler deployment) := by
    by_cases executes : ∃ segment, request = .executeRetry segment
    · obtain ⟨segment, rfl⟩ := executes
      exact issues_executeRetry deployment (fun _ plain => plain.counts) segment
        (fun _ _ _ => trivial) fun _ _ => trivial
    · exact issues_request deployment (fun _ plain => plain.counts) (fun _ _ _ _ _ _ _ => trivial)
        (fun delivery same => absurd ⟨delivery, same⟩ delivers)
        fun segment same => executes ⟨segment, same⟩
  exact counts_issues issues

end Handler

-----------------------------------------------------------------------------------------
-- Runs
-----------------------------------------------------------------------------------------

/-- The in-memory store of a service is numbered. -/
def World.Numbered (world : World) : Prop :=
  ∀ store, world.store = .inMemory store → store.Numbered

/-- A handler that keeps to both typestates leaves the store numbered. -/
theorem World.Numbered.exec {α : Type} {handler : Handler α}
    (files : Handler.Files (fun _ => none) handler fun _ _ => True)
    (counts : Handler.Obeys numbering (fun _ => none) handler fun _ _ => True)
    (deployment : Deployment) {world : World} (filed : world.Filed) (numbered : world.Numbered)
    : (Handler.exec deployment handler world).2.Numbered := by
  have serves (phases : Known × Counted) (op : Op) (world : World)
      (allowed : (filing.both numbering).allowed phases op)
      (holds : phases.1.Stored world ∧ phases.2.Holds world)
      : (filing.both numbering).reply phases op (world.answer deployment op).1
        ∧ ((filing.both numbering).next phases op (world.answer deployment op).1).1.Stored
            (world.answer deployment op).2
        ∧ ((filing.both numbering).next phases op (world.answer deployment op).1).2.Holds
            (world.answer deployment op).2 :=
    ⟨⟨trivial, trivial⟩, filing_serves deployment phases.1 op world allowed.1 holds.1,
      numbering_serves deployment phases.2 op world allowed.2
        (fun store inMemory => (holds.1 store inMemory).1) holds.2⟩
  have start : Known.Stored (fun _ => none) world ∧ Counted.Holds (fun _ => none) world :=
    ⟨fun store inMemory => ⟨filed store inMemory, nofun⟩,
      fun store inMemory => ⟨numbered store inMemory, nofun⟩⟩
  obtain ⟨_, _, _, holds⟩ := (Program.Follows.both files counts).execute serves start
  exact fun store inMemory => (holds store inMemory).1

/-- Every activity leaves the store numbered. -/
theorem World.Numbered.act {deployment : Deployment} {world : World} (filed : world.Filed)
    (numbered : world.Numbered) (activity : Activity)
    : (world.act deployment activity).Numbered := by
  cases activity with
  | called caseId operation =>
      exact numbered.exec (Handler.files_operate _ caseId operation)
        (Handler.counts_plain (Handler.issues_operate _ caseId operation)) deployment filed
  | served event =>
      cases event with
      | request request =>
          exact numbered.exec (Handler.files_request deployment request)
            (Handler.counts_request deployment request) deployment filed
      | reorder cases decisions =>
          exact fun store inMemory =>
            numbered store (@World.handle_reorder deployment _ cases decisions _ inMemory)

/-- However a service in memory is used, its attempts are numbered from 1. -/
theorem World.numbered_run (deployment : Deployment) (clock : ServiceClock)
    (activities : List Activity)
    : (activities.foldl (World.act deployment) (World.start false clock)).Numbered := by
  have start : (World.start false clock).Filed ∧ (World.start false clock).Numbered := by
    refine ⟨World.filed_run deployment false clock [], fun store inMemory => ?_⟩
    cases inMemory
    exact ⟨InMemoryCaseStore.failuresIndexed_new, fun _ => ⟨0, rfl⟩⟩
  exact (@Run.keeps _ _ (World.act deployment) _ (fun world => world.Filed ∧ world.Numbered) start
    (fun _ activity holds => ⟨holds.1.act activity, holds.2.act holds.1 activity⟩) activities).2

/-- Failures and payments are inverse to each other after any calls of `record_failure`, each
refused without a trace or for a taken key; and in every state a service comes to, the attempts
of each case are numbered from 1 to their maximum.
-/
theorem failures_inverse_numbered
    : (∀ events : List PaymentFailureEvent,
        let store := events.foldl InMemoryCaseStore.writeFailure {}
        store.FailuresInverse
          ∧ ∀ event,
              ((∃ raised, store.recordFailure event = .error raised)
                ↔ (∃ old, store.getFailure event.caseId event.attemptNumber = .ok old)
                  ∨ store.findAttemptByPaymentId event.paymentId ≠ none)
              ∧ ((∃ raised, store.recordFailure event = .error raised)
                → store.writeFailure event = store))
      ∧ ∀ (deployment : Deployment) (clock : ServiceClock) (activities : List Activity)
          (store : InMemoryCaseStore),
          (activities.foldl (World.act deployment) (World.start false clock)).store
            = .inMemory store
          → store.FailuresInverse
            ∧ ∀ caseId,
                store.attemptNumbers caseId
                = List.range' 1 (store.getMaxAttemptNumber caseId) := by
  refine ⟨fun events => ⟨InMemoryCaseStore.failuresInverse_run events, fun event => ?_⟩, ?_⟩
  · refine ⟨InMemoryCaseStore.recordFailure_refused_iff _ event, ?_⟩
    exact fun ⟨_, refused⟩ => InMemoryCaseStore.writeFailure_refused refused
  · intro deployment clock activities store inMemory
    obtain ⟨indexed, numbers⟩ := World.numbered_run deployment clock activities store inMemory
    refine ⟨indexed.inverse, fun caseId => ?_⟩
    obtain ⟨n, counted⟩ := numbers caseId
    rw [counted, InMemoryCaseStore.getMaxAttemptNumber_eq counted]

end RecoveryAgent
