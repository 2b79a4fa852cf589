import RecoveryAgent.Lib.Run
import RecoveryAgent.Core.RetryCap
import RecoveryAgent.Store.Filing
import RecoveryAgent.Service.Runs

/-! How the handlers keep the in-memory store in order.
A case is only written back under the mandate it was found with, and a failure is only
recorded for a case that is stored. A typestate says so of every handler at once, and the
indexes of the store agree with its records because of it.
-/

namespace RecoveryAgent

open StateMachine

-----------------------------------------------------------------------------------------
-- The typestate
-----------------------------------------------------------------------------------------

/-- The mandates of the cases a handler has seen stored. -/
abbrev Known := String → Option String

/-- What a handler knows once it has seen a case. -/
def Known.see (known : Known) (case : RecoveryCase) : Known :=
  Function.update known case.caseId (some case.mandateId)

/-- The case was seen under its mandate. -/
def Known.Sees (known : Known) (case : RecoveryCase) : Prop :=
  known case.caseId = some case.mandateId

@[simp] theorem Known.see_sees (known : Known) (case : RecoveryCase)
    : (known.see case).Sees case := by
  simp [see, Sees]

/-- Another version of a case is seen with it. -/
theorem Known.Sees.other {known : Known} {case case' : RecoveryCase} (sees : known.Sees case)
    (caseId : case'.caseId = case.caseId) (mandateId : case'.mandateId = case.mandateId)
    : known.Sees case' := by
  unfold Sees
  rw [caseId, mandateId]
  exact sees

/-- Writes are of cases that were seen, and replies show cases. -/
def filing : Program.Typestate Op Res Known where
  allowed known op :=
    match op with
    | .updateCase case => known.Sees case
    | .mutateCase case => known.Sees case
    | .recordFailure event => known event.caseId ≠ none
    | _ => True
  reply _ _ _ := True
  next known op reply :=
    match op, reply with
    | .createCase case, .ok _ => known.see case
    | .getCase _, .ok case => known.see case
    | .findCaseByMandate _, some case => known.see case
    | _, _ => known

/-- What is known is stored, in a store that is in order. -/
def Known.Stored (known : Known) (world : World) : Prop :=
  ∀ store, world.store = .inMemory store
    → store.Filed
      ∧ ∀ caseId mandateId, known caseId = some mandateId
        → ∃ case, store.cases.find? caseId = some case ∧ case.mandateId = mandateId

theorem Known.Stored.see {known : Known} {world : World} (holds : known.Stored world)
    {case : RecoveryCase}
    (stored
      : ∀ store, world.store = .inMemory store → store.cases.find? case.caseId = some case)
    : (known.see case).Stored world := by
  intro store inMemory
  obtain ⟨filed, kept⟩ := holds store inMemory
  refine ⟨filed, fun caseId mandateId seen => ?_⟩
  unfold Known.see at seen
  by_cases same : caseId = case.caseId
  · subst same
    rw [Function.update_self] at seen
    exact ⟨case, stored store inMemory, Option.some.inj seen⟩
  · rw [Function.update_of_ne same] at seen
    exact kept caseId mandateId seen

/-- Calls that leave cases, failures and mandates alone keep what is known. -/
theorem Known.Stored.same {known : Known} {world world' : World} (holds : known.Stored world)
    (kept
      : ∀ store', world'.store = .inMemory store'
        → ∃ store,
            world.store = .inMemory store ∧ store'.cases = store.cases
            ∧ store'.failures = store.failures ∧ store'.mandateIndex = store.mandateIndex)
    : known.Stored world' := by
  intro store' inMemory'
  obtain ⟨store, inMemory, cases, failures, mandates⟩ := kept store' inMemory'
  obtain ⟨filed, stored⟩ := holds store inMemory
  refine ⟨⟨?_, ?_⟩, ?_⟩
  · rw [mandates, cases]
    exact filed.mandates
  · rw [failures, cases]
    exact filed.owners
  · rw [cases]
    exact stored

/-- A case written back under its mandate keeps what is known of the others, and of itself. -/
theorem Known.stored_rewrite {known : Known} {store : InMemoryCaseStore}
    (stored
      : ∀ caseId mandateId, known caseId = some mandateId
        → ∃ case, store.cases.find? caseId = some case ∧ case.mandateId = mandateId)
    {case : RecoveryCase} (sees : known.Sees case) (caseId mandateId : String)
    (seen : known caseId = some mandateId)
    : ∃ kept,
        (store.cases.update case).find? caseId = some kept ∧ kept.mandateId = mandateId := by
  obtain ⟨old, found, mandate⟩ := stored caseId mandateId seen
  rw [Table.find?_update]
  by_cases same : caseId = case.caseId
  · subst same
    rw [if_pos rfl, found]
    exact ⟨case, rfl, Option.some.inj (sees.symm.trans seen)⟩
  · rw [if_neg same]
    exact ⟨old, found, mandate⟩

/-- The environment keeps the typestate: one case for each call that writes or shows cases. -/
theorem filing_serves (deployment : Deployment) (known : Known) (op : Op) (world : World)
    (allowed : filing.allowed known op) (holds : known.Stored world)
    : (filing.next known op (world.answer deployment op).1).Stored
        (world.answer deployment op).2 := by
  obtain ⟨worker, store, log⟩ := world
  cases store with
  | postgres store =>
      intro memory inMemory
      have kind := World.answer_isInMemory deployment op ⟨worker, .postgres store, log⟩
      rw [inMemory] at kind
      cases kind
  | inMemory store =>
      obtain ⟨filed, stored⟩ := holds store rfl
      cases op with
      | createCase case =>
          simp only [World.answer, World.stored, CaseStore.createCase]
          cases created : store.createCase case with
          | error raised => exact holds
          | ok store' =>
              obtain ⟨filed', fresh, found⟩ := filed.createCase created
              refine Known.Stored.see ?_ ?_
              · intro memory same
                cases same
                refine ⟨filed', fun caseId mandateId seen => ?_⟩
                obtain ⟨old, kept, mandate⟩ := stored caseId mandateId seen
                refine ⟨old, ?_, mandate⟩
                rw [found, if_neg]
                · exact kept
                · intro same
                  rw [same, fresh] at kept
                  cases kept
              · intro memory same
                cases same
                rw [found, if_pos rfl]
      | getCase caseId =>
          simp only [World.answer, CaseStore.getCase, InMemoryCaseStore.getCase]
          cases found : store.cases.find? caseId with
          | none => exact holds
          | some case =>
              refine holds.see fun memory same => ?_
              cases same
              rw [Table.find?_key found]
              exact found
      | updateCase case =>
          obtain ⟨old, kept, mandate⟩ := stored case.caseId case.mandateId allowed
          simp only [World.answer, World.stored, CaseStore.updateCase,
            filed.updateCase kept mandate, CaseStore.ofInMemory]
          intro memory same
          cases same
          refine ⟨filed.rewrite kept mandate, fun caseId mandateId seen => ?_⟩
          exact Known.stored_rewrite stored allowed caseId mandateId seen
      | mutateCase case =>
          obtain ⟨old, kept, mandate⟩ := stored case.caseId case.mandateId allowed
          intro memory same
          cases same
          refine ⟨filed.rewrite kept mandate, fun caseId mandateId seen => ?_⟩
          exact Known.stored_rewrite stored allowed caseId mandateId seen
      | findCaseByMandate mandateId =>
          simp only [World.answer]
          cases found : CaseStore.findCaseByMandate mandateId (.inMemory store) with
          | none => exact holds
          | some case =>
              refine holds.see fun memory same => ?_
              cases same
              exact CaseStore.findCaseByMandate_view found
      | recordFailure event =>
          simp only [World.answer, World.stored, CaseStore.recordFailure]
          cases recorded : store.recordFailure event with
          | error raised => exact holds
          | ok store' =>
              obtain ⟨mandateId, seen⟩ := Option.ne_none_iff_exists'.mp allowed
              obtain ⟨case, kept, _⟩ := stored event.caseId mandateId seen
              obtain ⟨filed', cases⟩ := filed.recordFailure (by simp [kept]) recorded
              intro memory same
              cases same
              exact ⟨filed', by rw [cases]; exact stored⟩
      | recordRetryDecision decision =>
          refine holds.same fun memory same => ?_
          simp only [World.answer, World.stored, CaseStore.recordRetryDecision,
            InMemoryCaseStore.recordRetryDecision] at same
          cases inserted : store.decisions.insert? decision with
          | none =>
              rw [inserted] at same
              cases same
              exact ⟨_, rfl, rfl, rfl, rfl⟩
          | some decisions =>
              rw [inserted] at same
              cases same
              exact ⟨store, rfl, rfl, rfl, rfl⟩
      | updateRetryDecision decision =>
          refine holds.same fun memory same => ?_
          simp only [World.answer, World.stored, CaseStore.updateRetryDecision,
            InMemoryCaseStore.updateRetryDecision] at same
          cases found : store.decisions.find? decision.attempt with
          | none =>
              rw [found] at same
              cases same
              exact ⟨_, rfl, rfl, rfl, rfl⟩
          | some old =>
              rw [found] at same
              cases same
              exact ⟨store, rfl, rfl, rfl, rfl⟩
      | nextSequence =>
          refine holds.same fun memory same => ?_
          cases same
          exact ⟨store, rfl, rfl, rfl, rfl⟩
      | insertAudit entry =>
          refine holds.same fun memory same => ?_
          cases same
          exact ⟨store, rfl, rfl, rfl, rfl⟩
      | commitEffect caseId attempt effect =>
          refine holds.same fun memory same => ?_
          simp only [World.answer, World.commitEffect] at same
          split at same <;> cases same <;> exact ⟨_, rfl, rfl, rfl, rfl⟩
      | advanceClock delta =>
          refine holds.same fun memory same => ?_
          simp only [World.answer] at same
          split at same <;> cases same <;> exact ⟨_, rfl, rfl, rfl, rfl⟩
      | _ => exact holds

-----------------------------------------------------------------------------------------
-- The failure that is recorded
-----------------------------------------------------------------------------------------

/-- A parsed failure is for the case and the attempt that were resolved, and names its
payment.
-/
theorem parsePaymentFailed_resolved {entity : PaymentEntity}
    {existingCase : Option RecoveryCase} {attemptNumber : Option Nat}
    {event : PaymentFailureEvent}
    (parsed : parsePaymentFailed entity existingCase attemptNumber = .ok event)
    : entity.id = some event.paymentId
      ∧ resolveAttempt event.paymentId existingCase attemptNumber
        = .ok (event.caseId, event.attemptNumber) := by
  unfold parsePaymentFailed at parsed
  by_cases upi : entity.method ≠ some "upi"
  · rw [if_pos upi] at parsed
    cases parsed
  rw [if_neg upi] at parsed
  by_cases inr : entity.currency ≠ some "INR"
  · rw [if_pos inr] at parsed
    cases parsed
  rw [if_neg inr] at parsed
  simp only [bind, Except.bind] at parsed
  repeat' split at parsed
  all_goals cases parsed
  all_goals exact ⟨by assumption, by assumption⟩

/-- The state machine hands back the failure it was given, but for its decline class. -/
theorem StateMachine.handleExistingFailure_event {case : RecoveryCase} {config : AppConfig}
    {clock : Clock}
    {event event' : PaymentFailureEvent} {entries : List AuditEntry}
    (handled : (handleExistingFailure case event config clock).result = .ok (event', entries))
    : event' = { event with declineClass := event'.declineClass } := by
  unfold handleExistingFailure at handled
  dsimp only at handled
  split at handled
  · cases handled
    rfl
  split at handled
  · cases handled
    rfl
  split at handled
  · cases handled
  split at handled <;> cases handled <;> rfl

theorem StateMachine.handleNewFailure_event {case : RecoveryCase} {config : AppConfig}
    {clock : Clock}
    {event event' : PaymentFailureEvent} {entries : List AuditEntry}
    (handled : handleNewFailure event config clock = .ok (case, event', entries))
    : event' = { event with declineClass := event'.declineClass } := by
  simp only [handleNewFailure, bind, Except.bind, pure, Except.pure] at handled
  repeat' split at handled
  all_goals cases handled
  all_goals rfl

/-- Nor is its payment another one. -/
theorem StateMachine.handlePaymentFailed_payment {existing : Option RecoveryCase}
    {config : AppConfig} {clock : Clock} {case : RecoveryCase}
    {event event' : PaymentFailureEvent} {entries : List AuditEntry}
    (handled : handlePaymentFailed existing event config clock = .ok (case, event', entries))
    : event'.paymentId = event.paymentId := by
  cases existing with
  | none => rw [handleNewFailure_event handled]
  | some old => rw [handleExistingFailure_event (handlePaymentFailed_existing _ _ _ handled).1]

namespace Handler

variable {α β : Type} {Φ : Type} {A : Program.Typestate Op Res Φ} {φ : Φ}

/-- A handler that keeps to a typestate, and the phase in which it goes on. -/
def Obeys (A : Program.Typestate Op Res Φ) (φ : Φ) (handler : Handler α)
    (post : α → Φ → Prop)
    : Prop :=
  Program.Follows A (fun result φ => ∀ value, result = .ok value → post value φ) φ handler.run

theorem obeys_pure {value : α} {post : α → Φ → Prop} (holds : post value φ)
    : Obeys A φ (pure value) post := by
  intro value' same
  cases same
  exact holds

theorem obeys_throw (raised : Raised) (post : α → Φ → Prop)
    : Obeys A φ (throw raised) post := by
  intro value same
  cases same

theorem Obeys.bind {handler : Handler α} {next : α → Handler β} {mid : α → Φ → Prop}
    {post : β → Φ → Prop} (first : Obeys A φ handler mid)
    (rest : ∀ value φ', mid value φ' → Obeys A φ' (next value) post)
    : Obeys A φ (handler >>= next) post := by
  unfold Obeys
  rw [ExceptT.run_bind]
  refine Program.Follows.bind first fun result φ' ended => ?_
  cases result with
  | ok value => exact rest value φ' (ended value rfl)
  | error raised =>
      intro value same
      cases same

theorem obeys_pure_bind {value : α} {next : α → Handler β} {post : β → Φ → Prop}
    (rest : Obeys A φ (next value) post)
    : Obeys A φ (pure value >>= next) post :=
  rest

theorem obeys_throw_bind (raised : Raised) (next : α → Handler β) (post : β → Φ → Prop)
    : Obeys A φ (throw raised >>= next) post :=
  Obeys.bind (obeys_throw raised fun _ _ => False) fun _ _ never => never.elim

theorem Obeys.mono {handler : Handler α} {post post' : α → Φ → Prop}
    (obeys : Obeys A φ handler post)
    (implies : ∀ value φ', post value φ' → post' value φ')
    : Obeys A φ handler post' :=
  Program.Follows.mono obeys fun _ _ ended value same => implies _ _ (ended value same)

/-- A check that refuses the request asks for nothing. -/
theorem obeys_check {c : Prop} [Decidable c] {status : Nat} {message : String}
    {unreached : PUnit → Handler α} {rest : Handler α} {post : α → Φ → Prop}
    (passed : ¬ c → Obeys A φ rest post)
    : Obeys A φ (if c then refuse status message >>= unreached else rest) post := by
  by_cases refused : c
  · rw [if_pos refused]
    exact obeys_throw_bind _ _ _
  · rw [if_neg refused]
    exact passed refused

theorem obeys_adapt {handler : Handler α} {post : α → Φ → Prop} (f : Raised → Raised)
    (obeys : Obeys A φ handler post)
    : Obeys A φ (ExceptT.adapt f handler) post := by
  unfold Obeys ExceptT.adapt
  rw [ExceptT.run_mk]
  refine Program.Follows.bind obeys fun result φ' ended => ?_
  intro value same
  cases result with
  | ok value' =>
      cases same
      exact ended _ rfl
  | error raised => cases same

/-- One request of the typestate. -/
theorem obeys_call {op : Op} (allowed : A.allowed φ op)
    : Obeys A φ (call op) fun reply φ' => φ' = A.next φ op reply := by
  unfold Obeys call ExceptT.lift
  rw [ExceptT.run_mk]
  refine ⟨allowed, fun reply _ value same => ?_⟩
  cases same
  rfl

/-- A request whose reply does not move the phase. -/
theorem obeys_ask {op : Op} (allowed : A.allowed φ op)
    (still : ∀ reply, A.next φ op reply = φ)
    : Obeys A φ (call op) fun _ φ' => φ' = φ :=
  (obeys_call allowed).mono fun reply _ same => same.trans (still reply)

theorem obeys_orRaise {reply : Except StoreException α} {post : α → Φ → Prop}
    (ended : ∀ value, reply = .ok value → post value φ)
    : Obeys A φ (orRaise reply) post := by
  cases reply with
  | ok value => exact obeys_pure (ended value rfl)
  | error raised => exact obeys_throw _ _

variable {known : Known}

/-- A handler that keeps to the typestate of the store, and what it knows where it goes on. -/
abbrev Files (known : Known) (handler : Handler α) (post : α → Known → Prop) : Prop :=
  Obeys filing known handler post

-----------------------------------------------------------------------------------------
-- The calls
-----------------------------------------------------------------------------------------

theorem files_createCase (case : RecoveryCase)
    : Files known (createCase case) fun _ known' => known' = known.see case := by
  refine Obeys.bind (obeys_call trivial) fun reply known' same => ?_
  subst same
  exact obeys_orRaise fun value ok => by rw [ok]; rfl

theorem files_getCase (caseId : String)
    : Files known (getCase caseId) fun case known' => known' = known.see case := by
  refine Obeys.bind (obeys_call trivial) fun reply known' same => ?_
  subst same
  exact obeys_orRaise fun value ok => by rw [ok]; rfl

theorem files_findCaseByMandate (mandateId : String)
    : Files known (findCaseByMandate mandateId) fun found known' =>
        known' = (found.map known.see).getD known := by
  refine (@obeys_call _ filing known (.findCaseByMandate mandateId) trivial).mono
    fun reply known' same => ?_
  rw [same]
  cases reply <;> rfl

theorem files_updateCase {case : RecoveryCase} (sees : known.Sees case)
    : Files known (updateCase case) fun _ known' => known' = known := by
  refine Obeys.bind (obeys_ask sees fun _ => rfl) fun reply known' same => ?_
  subst same
  exact obeys_orRaise fun _ _ => rfl

theorem files_mutateCase {case : RecoveryCase} (sees : known.Sees case)
    : Files known (mutateCase case) fun _ known' => known' = known :=
  obeys_ask sees fun _ => rfl

theorem files_recordFailure {event : PaymentFailureEvent} (seen : known event.caseId ≠ none)
    : Files known (recordFailure event) fun _ known' => known' = known := by
  refine Obeys.bind (obeys_ask seen fun _ => rfl) fun reply known' same => ?_
  subst same
  exact obeys_orRaise fun _ _ => rfl

theorem files_recordRetryDecision (decision : RetryDecision)
    : Files known (recordRetryDecision decision) fun _ known' => known' = known := by
  refine Obeys.bind (obeys_ask trivial fun _ => rfl) fun reply known' same => ?_
  subst same
  exact obeys_orRaise fun _ _ => rfl

theorem files_updateRetryDecision (decision : RetryDecision)
    : Files known (updateRetryDecision decision) fun _ known' => known' = known := by
  refine Obeys.bind (obeys_ask trivial fun _ => rfl) fun reply known' same => ?_
  subst same
  exact obeys_orRaise fun _ _ => rfl

theorem files_appendAudit (entry : AuditEntry)
    : Files known (appendAudit entry) fun _ known' => known' = known := by
  unfold appendAudit
  have numbered (sequenceId : Nat)
      : Files known (do
          let prevHash ← call (.lastEntryHash entry.caseId)
          orRaise (← call (.insertAudit
            ({ entry with sequenceId := some sequenceId }.linked prevHash))))
          fun _ known' => known' = known := by
    refine Obeys.bind (obeys_ask trivial fun _ => rfl) fun hash known' same => ?_
    subst same
    refine Obeys.bind (obeys_ask trivial fun _ => rfl) fun reply known' same => ?_
    subst same
    exact obeys_orRaise fun _ _ => rfl
  cases entry.sequenceId with
  | some sequenceId => exact numbered sequenceId
  | none =>
      refine Obeys.bind (obeys_ask trivial fun _ => rfl) fun id known' same => ?_
      subst same
      exact numbered id

/-- A loop of appends, by induction over the entries. -/
theorem files_appendAll (entries : List AuditEntry)
    : Files known (appendAll entries) fun _ known' => known' = known := by
  induction entries with
  | nil => exact obeys_pure rfl
  | cons entry rest ih =>
      refine Obeys.bind (files_appendAudit entry) fun _ known' same => ?_
      subst same
      exact ih

theorem files_readClock (readings : Nat)
    : Files known (readClock readings) fun _ known' => known' = known :=
  obeys_ask trivial fun _ => rfl

theorem files_now : Files known now fun _ known' => known' = known :=
  Obeys.bind (files_readClock 1) fun _ _ same => obeys_pure same

-----------------------------------------------------------------------------------------
-- The endpoints
-----------------------------------------------------------------------------------------

variable (config : AppConfig)

/-- The writes of a delivery, for a case that was seen or is new. -/
theorem files_deliver {handler : Handler Unit} {case : RecoveryCase}
    (put : Files known handler fun _ known' => known'.Sees case)
    {event : PaymentFailureEvent} (owned : event.caseId = case.caseId)
    (entries : List AuditEntry)
    : Files known (do handler; recordFailure event; appendAll entries) fun _ _ => True := by
  refine Obeys.bind put fun _ known' sees => ?_
  have seen : known' event.caseId ≠ none := by
    rw [owned, show known' case.caseId = _ from sees]
    simp
  refine Obeys.bind (files_recordFailure seen) fun _ known'' same => ?_
  subst same
  exact (files_appendAll entries).mono fun _ _ _ => trivial

/-- The state machine hands a failure to the case it is for, which stays under its mandate. -/
theorem files_handleFailure {existing : Option RecoveryCase} {event : PaymentFailureEvent}
    (sees : ∀ case, existing = some case → known.Sees case ∧ event.caseId = case.caseId)
    : Files known (handleFailure config existing event) fun done known' =>
        known' = known
        ∧ done.2.1.caseId = done.1.caseId
        ∧ (existing ≠ none → known.Sees done.1) := by
  unfold handleFailure
  refine Obeys.bind (files_readClock 1) fun clock known' same => ?_
  subst same
  cases existing with
  | none =>
      dsimp only
      cases handled : handleNewFailure event config clock with
      | error raised => exact obeys_throw _ _
      | ok done =>
          refine obeys_pure ⟨rfl, ?_, fun absent => absurd rfl absent⟩
          rw [handleNewFailure_event handled]
          exact (handleNewFailure_opened handled).caseId.symm
  | some case =>
      obtain ⟨seen, owned⟩ := sees case rfl
      dsimp only
      cases handled : (handleExistingFailure case event config clock).result with
      | error raised =>
          have counted := (handleExistingFailure_raised case config clock handled).2.1
          rw [counted]
          exact Obeys.bind (files_mutateCase (seen.other rfl rfl)) fun _ _ _ => obeys_throw _ _
      | ok done =>
          have same := (handleExistingFailure_answer case config clock handled).sameCase
          refine obeys_pure ⟨rfl, ?_, fun _ => seen.other same.caseId same.mandateId⟩
          rw [handleExistingFailure_event handled]
          exact owned.trans same.caseId.symm

/-- What follows the parsing of a failure. -/
theorem files_handled {existing : Option RecoveryCase} {event : PaymentFailureEvent}
    (sees : ∀ case, existing = some case → known.Sees case ∧ event.caseId = case.caseId)
    : Files known (do
        let (case, event, entries) ← handleFailure config existing event
        ExceptT.adapt storeConflict do
          match existing with
          | none => createCase case
          | some _ => updateCase case
          recordFailure event
          appendAll entries
        if existing.isNone then
          recordDistress case.instrumentId (← now)
        return (case, event)) fun _ _ => True := by
  refine Obeys.bind (files_handleFailure config sees) fun done known' handled => ?_
  obtain ⟨case, event', entries⟩ := done
  obtain ⟨rfl, owned, seen⟩ := handled
  cases existing with
  | none =>
      have created : Files known' (createCase case) fun _ known'' => known''.Sees case := by
        refine (files_createCase case).mono fun _ known'' same => ?_
        rw [same]
        exact known'.see_sees case
      refine Obeys.bind (obeys_adapt storeConflict (files_deliver created owned entries))
        fun _ _ _ => ?_
      refine Obeys.bind files_now fun instant _ _ => ?_
      exact Obeys.bind (obeys_ask trivial fun _ => rfl) fun _ _ _ => obeys_pure trivial
  | some old =>
      have updated : Files known' (updateCase case) fun _ known'' => known''.Sees case := by
        refine (files_updateCase (seen (by simp))).mono fun _ known'' same => ?_
        rw [same]
        exact seen (by simp)
      refine Obeys.bind (obeys_adapt storeConflict (files_deliver updated owned entries))
        fun _ _ _ => obeys_pure trivial

theorem files_ingestFailure (entity : PaymentEntity) {existing : Option RecoveryCase}
    (sees : ∀ case, existing = some case → known.Sees case) (detail : PyError → Detail)
    : Files known (ingestFailure config entity existing detail) fun _ _ => True := by
  unfold ingestFailure
  cases existing with
  | none =>
      refine obeys_pure_bind ?_
      dsimp only
      cases parsed : parsePaymentFailed entity none none with
      | error raised => exact obeys_throw_bind _ _ _
      | ok event =>
          exact @files_handled known config none event fun case absent => by cases absent
  | some case =>
      refine Obeys.bind (obeys_ask trivial fun _ => rfl) fun attempts known' same => ?_
      subst same
      refine obeys_pure_bind ?_
      dsimp only
      cases parsed : parsePaymentFailed entity (some case) (some (attempts + 1)) with
      | error raised => exact obeys_throw_bind _ _ _
      | ok event =>
          refine @files_handled known' config (some case) event fun case' same => ?_
          cases same
          have resolved := (parsePaymentFailed_resolved parsed).2
          simp only [resolveAttempt, Except.ok.injEq, Prod.mk.injEq] at resolved
          exact ⟨sees case rfl, resolved.1.symm⟩

/-- The case of a mandate is seen, where there is one. -/
theorem files_lookupMandate (mandateId : Option String)
    : Files known (lookupMandate mandateId) fun found known' =>
        ∀ case, found = some case → known'.Sees case := by
  unfold lookupMandate
  cases mandateId with
  | none => exact obeys_pure fun case absent => by cases absent
  | some mandateId =>
      dsimp only
      split
      · exact obeys_pure fun case absent => by cases absent
      · refine (files_findCaseByMandate mandateId).mono fun found known' same case here => ?_
        rw [same, here]
        exact known.see_sees case

theorem files_webhookPaymentFailed (signed : Bool) (entity : PaymentEntity)
    : Files known (webhookPaymentFailed config signed entity) fun _ _ => True := by
  unfold webhookPaymentFailed
  refine obeys_check fun _ => obeys_check fun _ => ?_
  refine Obeys.bind (obeys_ask trivial fun _ => rfl) fun recorded known' same => ?_
  subst same
  cases recorded with
  | some attempt => exact obeys_pure trivial
  | none =>
      refine Obeys.bind (files_lookupMandate entity.mandateId) fun existing known' sees => ?_
      exact Obeys.bind (files_ingestFailure config entity sees _) fun _ _ _ => obeys_pure trivial

theorem files_simulateFailure (request : SimulateFailureRequest)
    : Files known (simulateFailure config request) fun _ _ => True := by
  unfold simulateFailure
  refine obeys_check fun _ => ?_
  refine Obeys.bind (files_lookupMandate request.mandateId) fun existing known' sees => ?_
  exact Obeys.bind (files_ingestFailure config _ sees _) fun _ _ _ => obeys_pure trivial

theorem files_openCase (mandateId : String)
    : Files known (openCase mandateId) fun case known' => known'.Sees case := by
  unfold openCase
  refine Obeys.bind (files_findCaseByMandate mandateId) fun found known' same => ?_
  cases found with
  | none => exact obeys_throw _ _
  | some case =>
      refine obeys_pure ?_
      rw [same]
      exact known.see_sees case

theorem files_settleSuccess {case : RecoveryCase} (sees : known.Sees case)
    (event : PaymentSuccessEvent) (adapt : Raised → Raised)
    : Files known (settleSuccess case event adapt) fun _ _ => True := by
  unfold settleSuccess
  refine Obeys.bind (files_readClock 1) fun clock known' same => ?_
  subst same
  have same := handlePaymentSuccess_sameCase case clock event
  generalize handlePaymentSuccess case event clock = handled at same ⊢
  obtain ⟨case', entries⟩ := handled
  have written : Files known' (do updateCase case'; appendAll entries) fun _ _ => True := by
    refine Obeys.bind (files_updateCase (sees.other same.caseId same.mandateId)) fun _ _ _ => ?_
    exact (files_appendAll entries).mono fun _ _ _ => trivial
  exact Obeys.bind (obeys_adapt adapt written) fun _ _ _ => obeys_pure trivial

theorem files_webhookPaymentSucceeded (signed : Bool) (entity : PaymentEntity)
    : Files known (webhookPaymentSucceeded signed entity) fun _ _ => True := by
  unfold webhookPaymentSucceeded
  refine obeys_check fun _ => obeys_check fun _ => ?_
  refine Obeys.bind (files_openCase _) fun case known' sees => ?_
  split
  · exact files_settleSuccess sees _ _
  · exact obeys_throw _ _

theorem files_simulateSuccess (request : SimulateSuccessRequest)
    : Files known (simulateSuccess config request) fun _ _ => True := by
  unfold simulateSuccess
  refine obeys_check fun _ => obeys_check fun _ => ?_
  refine Obeys.bind (files_openCase _) fun case known' sees => ?_
  refine Obeys.bind files_now fun instant known'' same => ?_
  subst same
  split
  · exact files_settleSuccess sees _ _
  · exact obeys_throw _ _

theorem files_sendNotice (caseId : PathSegment) (draw : Draw)
    : Files known (sendNotice config caseId draw) fun _ _ => True := by
  unfold sendNotice
  refine obeys_check fun _ => ?_
  refine Obeys.bind files_now fun instant known' same => ?_
  subst same
  refine obeys_check fun _ => ?_
  refine Obeys.bind (files_getCase _) fun case known'' same => ?_
  subst same
  refine obeys_check fun _ => ?_
  refine Obeys.bind (files_readClock 2) fun clock known'' same => ?_
  subst same
  have sees := known'.see_sees case
  dsimp only
  cases sent : (markNoticeSent case config clock none none
      (some (slotBandit.suggestFrom draw))).result with
  | error raised =>
      dsimp only
      refine Obeys.bind (files_mutateCase ?_) fun _ _ _ => obeys_throw _ _
      rcases markNoticeSent_raised case config clock sent with ⟨_, same⟩ | ⟨_, noticed⟩
      · rw [same]
        exact sees
      · rw [noticed]
        exact sees.other rfl rfl
  | ok done =>
      obtain ⟨entries, decision⟩ := done
      have same := (markNoticeSent_ok case config clock sent).case_eq
      dsimp only
      refine Obeys.bind (files_updateCase ?_) fun _ _ _ => ?_
      · rw [same]
        exact sees.other rfl rfl
      refine Obeys.bind (files_appendAll _) fun _ _ _ => ?_
      exact Obeys.bind (files_recordRetryDecision _) fun _ _ _ => obeys_pure trivial

theorem files_applyEffect {case : RecoveryCase} (sees : known.Sees case) (effect : Effect)
    : Files known (applyEffect case effect) fun _ _ => True := by
  unfold applyEffect
  split
  · exact obeys_pure trivial
  refine Obeys.bind (files_updateCase (sees.other rfl rfl)) fun _ _ _ => ?_
  refine Obeys.bind files_now fun instant _ _ => ?_
  exact Obeys.bind (files_appendAudit _) fun _ _ _ => obeys_pure trivial

/-- The loop of a heal, by induction over the effects. -/
theorem files_healFrom (caseId : String) (effects : List Effect)
    : Files known (healFrom caseId effects) fun _ _ => True := by
  induction effects generalizing known with
  | nil => exact obeys_pure trivial
  | cons effect rest ih =>
      refine Obeys.bind (files_getCase caseId) fun case known' same => ?_
      subst same
      exact Obeys.bind (files_applyEffect (known.see_sees case) effect) fun _ _ _ => ih

theorem files_reconcileCase (useEtcd : Bool) (caseId : String)
    : Files known (reconcileCase useEtcd caseId) fun _ _ => True := by
  unfold reconcileCase
  split
  swap
  · exact obeys_pure trivial
  have heal : Files known (do
      healFrom caseId (← getPrefix (EtcdQuorumBackend.commitsPrefix ++ caseId ++ "/")))
      fun _ _ => True :=
    Obeys.bind (obeys_ask trivial fun _ => rfl) fun effects _ _ => files_healFrom caseId effects
  exact Program.Follows.bind heal fun _ _ _ _ _ => trivial

theorem files_escalateDistressed {case : RecoveryCase} (sees : known.Sees case)
    : Files known (escalateDistressed case) fun _ _ => True := by
  unfold escalateDistressed
  refine Obeys.bind (files_updateCase (sees.other rfl rfl)) fun _ _ _ => ?_
  refine Obeys.bind files_now fun instant _ _ => ?_
  exact Obeys.bind (files_appendAudit _) fun _ _ _ => obeys_throw _ _

theorem files_commitDecision (deployment : Deployment) {case : RecoveryCase}
    (sees : known.Sees case) (caseId : String) (decision : RetryDecision)
    : Files known (commitDecision deployment case caseId decision) fun _ _ => True := by
  unfold commitDecision
  refine Obeys.bind files_now fun instant known' same => ?_
  subst same
  refine Obeys.bind (obeys_ask trivial fun _ => rfl) fun approved known' same => ?_
  subst same
  split
  · exact obeys_throw _ _
  · exact Obeys.bind (files_reconcileCase _ _) fun _ _ _ => obeys_throw _ _
  · refine Obeys.bind (files_applyEffect sees _) fun _ _ _ => ?_
    exact Obeys.bind (files_updateRetryDecision decision) fun _ _ _ => obeys_pure trivial

theorem files_executeRetry (deployment : Deployment) (caseId : PathSegment)
    : Files known (executeRetry deployment caseId) fun _ _ => True := by
  unfold executeRetry
  refine obeys_check fun _ => ?_
  refine Obeys.bind (files_getCase _) fun case known' same => ?_
  subst same
  have sees := known.see_sees case
  refine obeys_check fun _ => ?_
  refine Obeys.bind files_now fun instant known' same => ?_
  subst same
  refine Obeys.bind (obeys_ask trivial fun _ => rfl) fun distressed known' same => ?_
  subst same
  split
  · exact files_escalateDistressed sees
  refine Obeys.bind (obeys_ask trivial fun _ => rfl) fun pending known' same => ?_
  subst same
  split
  · exact obeys_throw _ _
  · refine Obeys.bind files_now fun due known' same => ?_
    subst same
    exact obeys_check fun _ => files_commitDecision deployment sees _ _

theorem files_advanceClock (delta : Timedelta)
    : Files known (advanceClock config delta) fun _ _ => True := by
  unfold advanceClock
  refine obeys_check fun _ => obeys_check fun _ => ?_
  refine Obeys.bind (obeys_ask trivial fun _ => rfl) fun moved known' _ => ?_
  split
  · exact Obeys.bind files_now fun _ _ _ => obeys_pure trivial
  · exact obeys_throw _ _

theorem files_resolveEscalation (caseId : PathSegment) (note : String)
    : Files known (resolveEscalation config caseId note) fun _ _ => True := by
  unfold resolveEscalation
  refine obeys_check fun _ => ?_
  refine Obeys.bind (files_getCase _) fun case known' same => ?_
  subst same
  refine obeys_check fun _ => ?_
  split
  · exact obeys_throw _ _
  · refine Obeys.bind (files_updateCase ((known.see_sees case).other rfl rfl)) fun _ _ _ => ?_
    refine Obeys.bind files_now fun instant _ _ => ?_
    exact Obeys.bind (files_appendAudit _) fun _ _ _ => obeys_pure trivial

theorem files_recordInstrumentFailure (instrumentId : String)
    : Files known (recordInstrumentFailure instrumentId) fun _ _ => True := by
  unfold recordInstrumentFailure
  refine Obeys.bind files_now fun instant _ _ => ?_
  refine Obeys.bind (obeys_ask trivial fun _ => rfl) fun _ _ _ => ?_
  refine Obeys.bind (obeys_ask trivial fun _ => rfl) fun _ _ _ => ?_
  exact Obeys.bind (obeys_ask trivial fun _ => rfl) fun _ _ _ => obeys_pure trivial

/-- Every endpoint keeps to the typestate. -/
theorem files_request (deployment : Deployment) (request : Request)
    : Files known (request.handler deployment) fun _ _ => True := by
  cases request with
  | paymentFailed signed entity => exact files_webhookPaymentFailed _ signed entity
  | simulateFailure request => exact files_simulateFailure _ request
  | paymentSucceeded signed entity => exact files_webhookPaymentSucceeded signed entity
  | simulateSuccess request => exact files_simulateSuccess _ request
  | sendNotice caseId draw => exact files_sendNotice _ caseId draw
  | executeRetry caseId => exact files_executeRetry deployment caseId
  | advanceClock delta => exact files_advanceClock _ delta
  | resolveEscalation caseId note => exact files_resolveEscalation _ caseId note
  | recordFailure instrumentId => exact files_recordInstrumentFailure instrumentId

end Handler

-----------------------------------------------------------------------------------------
-- Activities
-----------------------------------------------------------------------------------------

/-- Any call of the state machine on a stored case, with what it leaves and returns written
back: a throttle that is applied or released, for one.
-/
def Handler.operate (config : AppConfig) (caseId : String) (operation : Operation)
    : Handler Unit := do
  let case ← getCase caseId
  let clock ← readClock 2
  let (case, entries) := Tracked.call config case clock operation
  updateCase case
  appendAll entries

/-- What a service does: it serves requests, and makes calls of the state machine. -/
inductive Activity where
  | served (event : Event)
  | called (caseId : String) (operation : Operation)

def World.act (deployment : Deployment) (world : World) : Activity → World
  | .served event => world.handle deployment event
  | .called caseId operation =>
      (Handler.exec deployment (Handler.operate deployment.config caseId operation) world).2

theorem Handler.files_operate {known : Known} (config : AppConfig) (caseId : String)
    (operation : Operation)
    : Files known (operate config caseId operation) fun _ _ => True := by
  unfold operate
  refine Obeys.bind (files_getCase caseId) fun case known' same => ?_
  subst same
  refine Obeys.bind (files_readClock 2) fun clock known' same => ?_
  subst same
  have same := Tracked.call_sameCase config case clock operation
  generalize Tracked.call config case clock operation = called at same ⊢
  obtain ⟨case', entries⟩ := called
  have sees := (known.see_sees case).other same.caseId same.mandateId
  refine Obeys.bind (files_updateCase sees) fun _ _ _ => ?_
  exact (files_appendAll entries).mono fun _ _ _ => trivial

/-- The in-memory store of a service is in order. -/
def World.Filed (world : World) : Prop :=
  ∀ store, world.store = .inMemory store → store.Filed

/-- A handler that keeps to the typestate leaves the store in order. -/
theorem World.Filed.exec {α : Type} {handler : Handler α}
    (files : Handler.Files (fun _ => none) handler fun _ _ => True) (deployment : Deployment)
    {world : World} (filed : world.Filed)
    : (Handler.exec deployment handler world).2.Filed := by
  have start : Known.Stored (fun _ => none) world := by
    intro store inMemory
    exact ⟨filed store inMemory, fun _ _ seen => by cases seen⟩
  have serves (known : Known) (op : Op) (world : World) (allowed : filing.allowed known op)
      (holds : known.Stored world)
      : filing.reply known op (world.answer deployment op).1
        ∧ (filing.next known op (world.answer deployment op).1).Stored
          (world.answer deployment op).2 :=
    ⟨trivial, filing_serves deployment known op world allowed holds⟩
  obtain ⟨known, _, stored⟩ := Program.Follows.execute files serves start
  exact fun store inMemory => (stored store inMemory).1

/-- Reordering rows leaves an in-memory store alone. -/
theorem World.handle_reorder {deployment : Deployment} {world : World}
    {cases : List RecoveryCase} {decisions : List RetryDecision} {store : InMemoryCaseStore}
    (inMemory : (world.handle deployment (.reorder cases decisions)).store = .inMemory store)
    : world.store = .inMemory store := by
  dsimp only [World.handle] at inMemory
  cases kind : world.store with
  | inMemory old =>
      rw [kind] at inMemory
      exact inMemory
  | postgres old =>
      rw [kind] at inMemory
      unfold CaseStore.reorder at inMemory
      dsimp only at inMemory
      split at inMemory <;> cases inMemory

/-- Every activity leaves the store in order. -/
theorem World.Filed.act {deployment : Deployment} {world : World} (filed : world.Filed)
    (activity : Activity)
    : (world.act deployment activity).Filed := by
  cases activity with
  | called caseId operation =>
      exact filed.exec (Handler.files_operate _ caseId operation) deployment
  | served event =>
      cases event with
      | request request => exact filed.exec (Handler.files_request deployment request) deployment
      | reorder cases decisions =>
          exact fun store inMemory =>
            filed store (@World.handle_reorder deployment _ cases decisions _ inMemory)

/-- No handler changes which store is behind the service. -/
theorem Handler.exec_isInMemory {α : Type} (deployment : Deployment) (handler : Handler α)
    (world : World)
    : (exec deployment handler world).2.store.isInMemory = world.store.isInMemory := by
  have keeps (op : Op) (state : World) (same : state.store.isInMemory = world.store.isInMemory)
      : (state.answer deployment op).2.store.isInMemory = world.store.isInMemory :=
    (state.answer_isInMemory deployment op).trans same
  exact Program.execute_keeps keeps handler.run world rfl

/-- A service that starts in memory stays there. -/
theorem World.inMemory_run (deployment : Deployment) (clock : ServiceClock)
    (activities : List Activity)
    : ∃ store,
        (activities.foldl (World.act deployment) (World.start false clock)).store
          = .inMemory store := by
  have kept : ∀ world activity, world.store.isInMemory = true
      → (World.act deployment world activity).store.isInMemory = true := by
    intro world activity inMemory
    cases activity with
    | called caseId operation => exact (Handler.exec_isInMemory deployment _ world).trans inMemory
    | served event => exact (World.handle_isInMemory deployment world event).trans inMemory
  have inMemory := @Run.keeps _ _ (World.act deployment) (World.start false clock)
    (fun world => world.store.isInMemory = true) rfl kept activities
  cases kind : (activities.foldl (World.act deployment) (World.start false clock)).store with
  | inMemory store => exact ⟨store, rfl⟩
  | postgres store =>
      rw [kind] at inMemory
      cases inMemory

/-- The store is in order after every run. -/
theorem World.filed_run (deployment : Deployment) (usePostgres : Bool) (clock : ServiceClock)
    (activities : List Activity)
    : (activities.foldl (World.act deployment) (World.start usePostgres clock)).Filed := by
  have start : (World.start usePostgres clock).Filed := by
    intro store inMemory
    cases usePostgres <;> cases inMemory
    exact InMemoryCaseStore.filed_new
  exact Run.keeps start (fun _ activity filed => filed.act activity) activities

end RecoveryAgent
