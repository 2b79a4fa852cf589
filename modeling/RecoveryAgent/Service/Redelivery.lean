import RecoveryAgent.Service.CaseMoves
import RecoveryAgent.Service.Ingestion

/-! Webhooks that are delivered again, to a service with an in-memory store.
A failure is recognised by its payment, which no later activity forgets. A success finds the
same case with the same amount, and one that was paid stays closed to payments.
-/

namespace RecoveryAgent

open StateMachine

namespace InMemoryCaseStore

variable {store store' : InMemoryCaseStore}

/-- What appends leave alone. -/
structure SameRecords (store store' : InMemoryCaseStore) : Prop where
  cases : store'.cases = store.cases
  failures : store'.failures = store.failures
  decisions : store'.decisions = store.decisions
  payments : store'.paymentAttemptIndex = store.paymentAttemptIndex

theorem appendAudit_sameRecords (store : InMemoryCaseStore) (entry : AuditEntry)
    : store.SameRecords (store.appendAudit entry) := by
  unfold appendAudit
  cases entry.sequenceId <;> exact ⟨rfl, rfl, rfl, rfl⟩

/-- By induction over the entries. -/
theorem appendAll_sameRecords (store : InMemoryCaseStore) (entries : List AuditEntry)
    : store.SameRecords (store.appendAll entries) := by
  induction entries generalizing store with
  | nil => exact ⟨rfl, rfl, rfl, rfl⟩
  | cons entry rest ih =>
      have first := store.appendAudit_sameRecords entry
      have later := ih (store.appendAudit entry)
      exact ⟨later.cases.trans first.cases, later.failures.trans first.failures,
        later.decisions.trans first.decisions, later.payments.trans first.payments⟩

/-- A recorded failure leaves its payment recorded, and every other that was. -/
theorem recordFailure_recorded {event : PaymentFailureEvent}
    (recorded : store.recordFailure event = .ok store')
    : store'.findAttemptByPaymentId event.paymentId = some event.attempt
      ∧ ∀ paymentId,
          store.findAttemptByPaymentId paymentId ≠ none
          → store'.findAttemptByPaymentId paymentId ≠ none := by
  unfold recordFailure at recorded
  cases inserted : store.failures.insert? event with
  | none =>
      rw [inserted] at recorded
      cases recorded
  | some failures =>
      rw [inserted] at recorded
      dsimp only at recorded
      split at recorded
      · cases recorded
      cases recorded
      refine ⟨Function.update_self .., fun paymentId before => ?_⟩
      unfold findAttemptByPaymentId
      dsimp only
      by_cases same : paymentId = event.paymentId
      · rw [same, Function.update_self]
        simp
      · rw [Function.update_of_ne same]
        exact before

end InMemoryCaseStore

/-- The payment is recorded in the in-memory store of the service. -/
def World.Recorded (paymentId : String) (world : World) : Prop :=
  ∀ store, world.store = .inMemory store → store.findAttemptByPaymentId paymentId ≠ none

/-- No call forgets a payment. -/
theorem World.Recorded.answer {paymentId : String} {world : World}
    (recorded : world.Recorded paymentId) (deployment : Deployment) (op : Op)
    : (world.answer deployment op).2.Recorded paymentId := by
  obtain ⟨worker, store, log⟩ := world
  intro store' inMemory
  have kind := World.answer_isInMemory deployment op ⟨worker, store, log⟩
  rw [inMemory] at kind
  cases store with
  | postgres store => cases kind
  | inMemory store =>
      have before := recorded store rfl
      cases op with
      | createCase case =>
          simp only [World.answer, World.stored, CaseStore.createCase] at inMemory
          cases created : store.createCase case with
          | error error =>
              rw [created] at inMemory
              cases inMemory
              exact before
          | ok created' =>
              rw [created] at inMemory
              cases inMemory
              have written : store.put none case = .ok store' := created
              rw [(InMemoryCaseStore.put_payments written).2]
              exact before
      | updateCase case =>
          simp only [World.answer, World.stored, CaseStore.updateCase] at inMemory
          cases updated : store.updateCase case with
          | error error =>
              rw [updated] at inMemory
              cases inMemory
              exact before
          | ok updated' =>
              rw [updated] at inMemory
              cases inMemory
              have written : store.put (some case) case = .ok store' := updated
              rw [(InMemoryCaseStore.put_payments written).2]
              exact before
      | recordFailure event =>
          simp only [World.answer, World.stored, CaseStore.recordFailure] at inMemory
          cases added : store.recordFailure event with
          | error error =>
              rw [added] at inMemory
              cases inMemory
              exact before
          | ok added' =>
              rw [added] at inMemory
              cases inMemory
              exact (InMemoryCaseStore.recordFailure_recorded added).2 paymentId before
      | recordRetryDecision decision =>
          simp only [World.answer, World.stored, CaseStore.recordRetryDecision,
            InMemoryCaseStore.recordRetryDecision] at inMemory
          cases inserted : store.decisions.insert? decision <;>
          · rw [inserted] at inMemory
            cases inMemory
            exact before
      | updateRetryDecision decision =>
          simp only [World.answer, World.stored, CaseStore.updateRetryDecision,
            InMemoryCaseStore.updateRetryDecision] at inMemory
          cases found : store.decisions.find? decision.attempt <;>
          · rw [found] at inMemory
            cases inMemory
            exact before
      | commitEffect caseId attempt effect =>
          simp only [World.answer, World.commitEffect] at inMemory
          split at inMemory <;>
          · cases inMemory
            exact before
      | advanceClock delta =>
          simp only [World.answer] at inMemory
          split at inMemory <;>
          · cases inMemory
            exact before
      | _ =>
          cases inMemory
          exact before

/-- No activity forgets a payment. -/
theorem World.Recorded.act {paymentId : String} {world : World}
    (recorded : world.Recorded paymentId) (deployment : Deployment) (activity : Activity)
    : (world.act deployment activity).Recorded paymentId := by
  have run {α : Type} (handler : Handler α)
      : (Handler.exec deployment handler world).2.Recorded paymentId := by
    have keeps (op : Op) (state : World) (kept : state.Recorded paymentId)
        : (state.answer deployment op).2.Recorded paymentId :=
      kept.answer deployment op
    exact Program.execute_keeps keeps handler.run world recorded
  cases activity with
  | called caseId operation => exact run _
  | served event =>
      cases event with
      | request request => exact run _
      | reorder cases decisions =>
          intro store inMemory
          apply recorded store
          cases kind : world.store with
          | inMemory old =>
              dsimp only [World.act, World.handle] at inMemory
              rw [kind] at inMemory
              exact inMemory
          | postgres old =>
              have same := World.handle_isInMemory deployment world (.reorder cases decisions)
              rw [show (world.handle deployment (.reorder cases decisions)).store = _ from inMemory,
                kind] at same
              cases same

-----------------------------------------------------------------------------------------
-- Successes find their case spent
-----------------------------------------------------------------------------------------

/-- The states in which a payment is still accepted outside the control bucket. -/
def payableState (state : CaseState) : Prop :=
  state ∈ [CaseState.noticePending, .noticeSent, .retryScheduled, .throttled, .retryExecuted,
    .escalated, .afaRequired]

/-- Control cases stay in their own states. -/
def RecoveryCase.Held (case : RecoveryCase) : Prop :=
  case.bucket = some .control
    → case.state ∈ [CaseState.controlHeld, .controlRecovered, .controlStillFailed]

/-- No payment closes the case any more. -/
structure RecoveryCase.Spent (case : RecoveryCase) : Prop where
  control
    : case.bucket = some .control
      → case.state ∈ [CaseState.controlRecovered, .controlStillFailed]
  unpayable : ¬ payableState case.state

/-- A success on a case that is spent, or of another amount, is noted. -/
theorem StateMachine.handlePaymentSuccess_noted {case : RecoveryCase}
    {event : PaymentSuccessEvent} (clock : Clock)
    (unfit : event.amount ≠ case.originalAmount ∨ case.Spent)
    : ∃ rule cited,
        handlePaymentSuccess case event clock
        = (case, [audit case.caseId case.state case.state rule (clock.now 0) cited]) := by
  unfold handlePaymentSuccess
  dsimp only
  by_cases mismatch : event.amount ≠ case.originalAmount
  · rw [if_pos mismatch]
    exact ⟨_, _, rfl⟩
  rw [if_neg mismatch]
  have spent := unfit.resolve_left mismatch
  by_cases control : case.bucket = some .control
  · have away : case.state ≠ .controlHeld := by
      intro held
      have closed := spent.control control
      rw [held] at closed
      simp at closed
    rw [if_pos control, if_pos away]
    exact ⟨_, _, rfl⟩
  rw [if_neg control]
  have unpayable := spent.unpayable
  simp only [payableState, List.mem_cons, List.not_mem_nil, or_false, not_or] at unpayable
  obtain ⟨pending, noticed, scheduled, throttled, executed, escalated, afa⟩ := unpayable
  rw [if_neg executed, if_neg (by simp [awaitsExecution, *]), if_neg (by simp [*])]
  exact ⟨_, _, rfl⟩

/-- A success of the whole amount leaves the case spent. -/
theorem StateMachine.handlePaymentSuccess_spends {case : RecoveryCase} (held : case.Held)
    {event : PaymentSuccessEvent} (clock : Clock) (whole : event.amount = case.originalAmount)
    : (handlePaymentSuccess case event clock).1.Spent := by
  unfold handlePaymentSuccess
  dsimp only
  rw [if_neg (not_not.mpr whole)]
  by_cases control : case.bucket = some .control
  · rw [if_pos control]
    have held := held control
    split
    · next away =>
        have closed : case.state ∈ [CaseState.controlRecovered, .controlStillFailed] := by
          simpa [away] using held
        refine ⟨fun _ => closed, ?_⟩
        rcases List.mem_pair.mp closed with state | state <;> simp [state, payableState]
    · exact ⟨fun _ => by simp, by simp [payableState]⟩
  rw [if_neg control]
  split
  · exact ⟨fun bucket => absurd bucket control, by simp [payableState]⟩
  next executed =>
  split
  · exact ⟨fun bucket => absurd bucket control, by simp [payableState]⟩
  next settled =>
  split
  · exact ⟨fun bucket => absurd bucket control, by simp [payableState]⟩
  next late =>
  refine ⟨fun bucket => absurd bucket control, fun payable => ?_⟩
  simp only [payableState, List.mem_cons, List.not_mem_nil, or_false] at payable
  rw [awaitsExecution_iff] at settled
  tauto

namespace CaseMoves

variable {case case' : RecoveryCase} {row : Option RecoveryCase}

/-- Every move keeps control cases in their own states. -/
theorem held (moves : CaseMoves row (some case'))
    (held : ∀ case, row = some case → case.Held)
    : case'.Held := by
  cases moves with
  | same => exact held case' rfl
  | opened opened => exact fun control => by simp [opened.held control]
  | transition step =>
      intro control
      rw [step.sameCase.bucket] at control
      exact step.control (held _ rfl control)
  | @counted case executed =>
      intro control
      exact held case rfl control
  | resolved escalated note =>
      intro control
      have state := held _ rfl control
      rw [escalated] at state
      simp at state
  | distressed scheduled =>
      intro control
      have state := held _ rfl control
      rw [scheduled] at state
      simp at state

/-- A spent case stays spent. -/
theorem spent (moves : CaseMoves (some case) (some case')) (spent : case.Spent)
    : case'.Spent := by
  by_cases closed : closedState case.state
  · cases moves.closed closed
    exact spent
  have free : case.bucket ≠ some .control := by
    intro control
    have state := spent.control control
    rcases List.mem_pair.mp state with state | state <;> simp [state, closedState] at closed
  obtain ⟨row, same, kept⟩ := moves.kept
  cases same
  refine ⟨fun control => absurd (kept.bucket ▸ control) free, ?_⟩
  have unpayable := spent.unpayable
  cases moves with
  | same => exact unpayable
  | counted executed => simp [executed, payableState] at unpayable
  | resolved escalated note => simp [escalated, payableState] at unpayable
  | distressed scheduled => simp [scheduled, payableState] at unpayable
  | transition step =>
      cases step with
      | unchanged => exact unpayable
      | answered answer =>
          cases answer with
          | noted rule cited => exact unpayable
          | settled settles outcome rule cited =>
              rcases settles.target with rfl | rfl | rfl | rfl <;> simp [payableState]
          | evaluated executed eligible rule cited => simp [executed, payableState] at unpayable
      | triggered triggers rule cited =>
          generalize case.state = state at unpayable triggers
          cases triggers <;> simp [payableState] at unpayable
      | noticeLost pending => simp [pending, payableState] at unpayable
      | noticed pending scheduledAt => simp [pending, payableState] at unpayable

end CaseMoves

/-- What holds of a service that is only active, never restarted. -/
structure World.Orderly (world : World) : Prop where
  sound : SoundLog world.log
  filed : world.Filed
  held : ∀ caseId case, (world.view caseId).case = some case → case.Held

theorem World.Orderly.act {world : World} (orderly : world.Orderly) (deployment : Deployment)
    (activity : Activity)
    : (world.act deployment activity).Orderly := by
  obtain ⟨sound, moves⟩ := World.act_moves deployment orderly.sound activity
  refine ⟨sound, orderly.filed.act activity, fun caseId case stored => ?_⟩
  have moved := moves caseId
  rw [stored] at moved
  exact moved.held fun old before => orderly.held caseId old before

theorem World.orderly_run (deployment : Deployment) (usePostgres : Bool) (clock : ServiceClock)
    (activities : List Activity)
    : (activities.foldl (World.act deployment) (World.start usePostgres clock)).Orderly := by
  have start : (World.start usePostgres clock).Orderly := by
    refine ⟨(World.regular_start usePostgres clock).sound,
      World.filed_run deployment usePostgres clock [], fun caseId case stored => ?_⟩
    rw [World.view_start] at stored
    cases stored
  exact Run.keeps start (fun _ activity orderly => orderly.act deployment activity) activities

/-- The case a payment was for, and that no further delivery of the payment can change. -/
def World.Settled (caseId mandateId : String) (amount : Int) (world : World) : Prop :=
  ∃ case,
    (world.view caseId).case = some case ∧ case.mandateId = mandateId
    ∧ (amount ≠ case.originalAmount ∨ case.Spent)

/-- No activity undoes this. -/
theorem World.Settled.act {caseId mandateId : String} {amount : Int} {world : World}
    (settled : world.Settled caseId mandateId amount) (orderly : world.Orderly)
    (deployment : Deployment) (activity : Activity)
    : (world.act deployment activity).Settled caseId mandateId amount := by
  obtain ⟨case, stored, mandate, unfit⟩ := settled
  have moves := (World.act_moves deployment orderly.sound activity).2 caseId
  rw [stored] at moves
  obtain ⟨case', stored', kept⟩ := moves.kept
  rw [stored'] at moves
  refine ⟨case', stored', kept.mandateId.trans mandate, ?_⟩
  rw [kept.originalAmount]
  exact unfit.imp id moves.spent

namespace Handler

variable (deployment : Deployment)

/-- A success in memory: the case is written back and its entries are appended. -/
theorem exec_settleSuccess_inMemory {world : World} {store : InMemoryCaseStore}
    (inMemory : world.store = .inMemory store) (filed : store.Filed) {case : RecoveryCase}
    (stored : store.cases.find? case.caseId = some case) (event : PaymentSuccessEvent)
    (adapt : Raised → Raised)
    : exec deployment (settleSuccess case event adapt) world
      = (.ok (.ofCase (handlePaymentSuccess case event world.clock.view).1),
        { world.tick 1 with
          store := .inMemory
            ({ store with
                cases := store.cases.update
                  (handlePaymentSuccess case event world.clock.view).1 }.appendAll
              (handlePaymentSuccess case event world.clock.view).2) }) := by
  have same := handlePaymentSuccess_sameCase case world.clock.view event
  unfold settleSuccess
  simp only [exec_bind, exec_readClock]
  generalize handlePaymentSuccess case event world.clock.view = handled at same ⊢
  obtain ⟨case', entries⟩ := handled
  dsimp only at same ⊢
  have updated : store.updateCase case' = .ok { store with cases := store.cases.update case' } :=
    filed.updateCase (same.caseId ▸ stored) same.mandateId.symm
  have call := exec_orRaise_inMemory deployment (world.tick 1).toWorker store world.log
    (store.updateCase case')
  have put : exec deployment (updateCase case') (world.tick 1)
      = (.ok (), { world.tick 1 with
          store := .inMemory { store with cases := store.cases.update case' } }) := by
    obtain ⟨worker, ⟨_, log⟩⟩ := world
    cases inMemory
    change exec deployment (updateCase case') (World.tick ⟨worker, ⟨.inMemory store, log⟩⟩ 1) = _
      at call
    rw [updated] at call
    exact call
  simp only [exec_adapt, exec_bind, put]
  rw [exec_appendAll_inMemory deployment rfl]
  rfl

/-- A success webhook is refused, or settles the case of its mandate. -/
theorem exec_webhookPaymentSucceeded_inMemory {world : World} {store : InMemoryCaseStore}
    (inMemory : world.store = .inMemory store) (signed : Bool) (entity : PaymentEntity)
    : (∃ raised,
        exec deployment (webhookPaymentSucceeded signed entity) world = (.error raised, world))
      ∨ ∃ case event,
          signed = true ∧ entity.mandateId.getD "" ≠ ""
          ∧ store.findCaseByMandate (entity.mandateId.getD "") = some case
          ∧ parsePaymentCaptured entity case = .ok event
          ∧ exec deployment (webhookPaymentSucceeded signed entity) world
            = exec deployment (settleSuccess case event storeConflict) world := by
  have looked : exec deployment (findCaseByMandate (entity.mandateId.getD "")) world
      = (.ok (store.findCaseByMandate (entity.mandateId.getD "")), world) := by
    obtain ⟨worker, ⟨_, log⟩⟩ := world
    cases inMemory
    rfl
  unfold webhookPaymentSucceeded
  cases signed with
  | false => exact .inl ⟨_, rfl⟩
  | true =>
      by_cases unnamed : entity.mandateId.getD "" = ""
      · refine .inl ⟨.http 400 (.text "Cannot resolve case: missing mandate_id in notes"), ?_⟩
        simp [unnamed]
      cases found : store.findCaseByMandate (entity.mandateId.getD "") with
      | none =>
          refine .inl ⟨.http 404 (.text "No open case found for mandate"), ?_⟩
          simp [unnamed, openCase, looked, found]
      | some case =>
          cases parsed : parsePaymentCaptured entity case with
          | error raised =>
              refine .inl ⟨malformed (fun raised => .ofException (.python raised)) raised, ?_⟩
              simp [unnamed, openCase, looked, found, parsed]
          | ok event =>
              refine .inr ⟨case, event, rfl, unnamed, rfl, parsed, ?_⟩
              simp [unnamed, openCase, looked, found, parsed]

end Handler

/-- A webhook that can be delivered again. -/
inductive WebhookDelivery where
  | failed (signed : Bool) (entity : PaymentEntity)
  | succeeded (signed : Bool) (entity : PaymentEntity)

def WebhookDelivery.request : WebhookDelivery → Request
  | .failed signed entity => .paymentFailed signed entity
  | .succeeded signed entity => .paymentSucceeded signed entity

/-- Every record is unchanged, and trails have grown by entries from the state a case is in to
itself.
-/
structure InMemoryCaseStore.OnlyNoted (store store' : InMemoryCaseStore) : Prop where
  cases : store'.cases = store.cases
  failures : store'.failures = store.failures
  decisions : store'.decisions = store.decisions
  trails
    : ∀ caseId, ∃ added,
        store'.getAuditTrail caseId = store.getAuditTrail caseId ++ added
        ∧ ∀ entry ∈ added,
            entry.fromState = entry.toState
            ∧ (store.cases.find? caseId).map (·.state) = some entry.toState

theorem InMemoryCaseStore.OnlyNoted.refl (store : InMemoryCaseStore) : store.OnlyNoted store :=
  ⟨rfl, rfl, rfl, fun _ => ⟨[], by simp, by simp⟩⟩

/-- An entry from the state of a case to itself is only a note. -/
theorem InMemoryCaseStore.onlyNoted_append {store : InMemoryCaseStore} {case : RecoveryCase}
    (stored : store.cases.find? case.caseId = some case) (rule : String) (cited : rule ≠ "")
    (now : Datetime)
    : store.OnlyNoted
        (store.appendAudit (audit case.caseId case.state case.state rule now cited)) := by
  have same := store.appendAudit_sameRecords
    (audit case.caseId case.state case.state rule now cited)
  refine ⟨same.cases, same.failures, same.decisions, fun caseId => ?_⟩
  by_cases here : caseId = case.caseId
  · subst here
    refine ⟨[{ audit case.caseId case.state case.state rule now cited with
      sequenceId := some store.nextSequence }.linked (store.lastEntryHash case.caseId)], ?_, ?_⟩
    · exact Function.update_self ..
    · intro entry member
      rw [List.mem_singleton.mp member, stored]
      exact ⟨rfl, rfl⟩
  · refine ⟨[], ?_, by simp⟩
    rw [List.append_nil]
    exact Function.update_of_ne here _ _

namespace WebhookDelivery

/-- An accepted failure leaves its payment recorded. -/
theorem failed_recorded (deployment : Deployment) {world : World} {store : InMemoryCaseStore}
    (inMemory : world.store = .inMemory store) (filed : store.Filed) (signed : Bool)
    (entity : PaymentEntity)
    {response : Response}
    (answered
      : (Handler.exec deployment
          (Handler.webhookPaymentFailed deployment.config signed entity) world).1 = .ok response)
    (ok : response.status = "ok")
    : World.Recorded (entity.id.getD "")
        (Handler.exec deployment
          (Handler.webhookPaymentFailed deployment.config signed entity) world).2 := by
  by_cases known
    : signed = false ∨ entity.id.getD "" = ""
      ∨ store.findAttemptByPaymentId (entity.id.getD "") ≠ none
  · have duplicate := (Handler.exec_webhookPaymentFailed_known deployment inMemory signed known).2
      response answered
    rw [ok] at duplicate
    simp at duplicate
  simp only [not_or, not_not, Bool.not_eq_false] at known
  obtain ⟨rfl, named, fresh⟩ := known
  rw [Handler.exec_webhookPaymentFailed_new deployment inMemory named fresh] at answered ⊢
  obtain ⟨store', left, ingested⟩ := Handler.exec_ingestFailure_inMemory deployment
    deployment.config entity (store.mandateCase entity.mandateId)
    (fun _ => .text "Malformed webhook payload") inMemory
  rw [Handler.exec_bind] at answered ⊢
  rcases ran : Handler.exec deployment (Handler.ingestFailure deployment.config entity
      (store.mandateCase entity.mandateId) (fun _ => .text "Malformed webhook payload")) world
    with ⟨raised | done, world'⟩
  · rw [ran] at answered
    cases answered
  rw [ran] at left ingested
  dsimp only at left ingested ⊢
  cases ingested with
  | accepted parsed handled written recorded =>
      have filed_free := filed.free parsed handled written
      have named := (parsePaymentFailed_resolved parsed).1
      have payment := (InMemoryCaseStore.recordFailure_recorded recorded).1
      rw [filed_free.2] at payment
      intro last' inMemory'
      cases inMemory'.symm.trans left
      rw [named, Option.getD_some]
      unfold InMemoryCaseStore.findAttemptByPaymentId at payment ⊢
      rw [(InMemoryCaseStore.appendAll_sameRecords _ _).payments, payment]
      exact Option.some_ne_none _

/-- The payment of a success is parsed from the payload and the id of the case. -/
theorem parsePaymentCaptured_amount {entity : PaymentEntity} {case : RecoveryCase}
    {event : PaymentSuccessEvent} (parsed : parsePaymentCaptured entity case = .ok event)
    : entity.amount = some event.amount := by
  simp only [parsePaymentCaptured, PaymentSuccessEvent.create, bind, Except.bind] at parsed
  repeat' split at parsed
  all_goals cases parsed
  assumption

/-- An accepted success leaves its case settled. -/
theorem succeeded_settled (deployment : Deployment) {world : World} {store : InMemoryCaseStore}
    (inMemory : world.store = .inMemory store) (orderly : world.Orderly) (signed : Bool)
    (entity : PaymentEntity) {response : Response}
    (answered
      : (Handler.exec deployment (Handler.webhookPaymentSucceeded signed entity) world).1
        = .ok response)
    : ∃ caseId amount,
        entity.amount = some amount
        ∧ World.Settled caseId (entity.mandateId.getD "") amount
          (Handler.exec deployment (Handler.webhookPaymentSucceeded signed entity) world).2 := by
  have filed := orderly.filed store inMemory
  rcases Handler.exec_webhookPaymentSucceeded_inMemory deployment inMemory signed entity with
    ⟨raised, refused⟩ | ⟨case, event, _, _, found, parsed, settles⟩
  · rw [refused] at answered
    cases answered
  obtain ⟨stored, mandate⟩ := filed.findCaseByMandate_inv found
  have same := handlePaymentSuccess_sameCase case world.clock.view event
  have left := Handler.exec_settleSuccess_inMemory deployment inMemory filed stored event
    storeConflict
  have held : case.Held := by
    refine orderly.held case.caseId case ?_
    simp only [World.view, inMemory]
    exact stored
  have spends := @handlePaymentSuccess_spends case held event world.clock.view
  rw [settles, left]
  generalize handlePaymentSuccess case event world.clock.view = handled at same spends ⊢
  obtain ⟨case', entries⟩ := handled
  refine ⟨case.caseId, event.amount, parsePaymentCaptured_amount parsed, case', ?_,
    same.mandateId.trans mandate, ?_⟩
  · simp only [World.view, CaseStore.view, (InMemoryCaseStore.appendAll_sameRecords _ _).cases]
    rw [Table.find?_update, if_pos same.caseId.symm, stored]
    rfl
  · rw [same.originalAmount]
    by_cases whole : event.amount = case.originalAmount
    · exact .inr (spends whole)
    · exact .inl whole

/-- A success for a settled case is at most noted. -/
theorem succeeded_again (deployment : Deployment) {world : World} {store : InMemoryCaseStore}
    (inMemory : world.store = .inMemory store) (filed : store.Filed) (signed : Bool)
    {entity : PaymentEntity} {caseId : String} {amount : Int}
    (charged : entity.amount = some amount)
    (settled : world.Settled caseId (entity.mandateId.getD "") amount)
    : ∃ store',
        (Handler.exec deployment (Handler.webhookPaymentSucceeded signed entity) world).2.store
          = .inMemory store'
        ∧ store.OnlyNoted store' := by
  rcases Handler.exec_webhookPaymentSucceeded_inMemory deployment inMemory signed entity with
    ⟨raised, refused⟩ | ⟨case, event, _, _, found, parsed, settles⟩
  · rw [refused]
    exact ⟨store, inMemory, .refl store⟩
  obtain ⟨stored, mandate⟩ := filed.findCaseByMandate_inv found
  -- The case of the mandate is the one that was paid.
  obtain ⟨paid, kept, owner, unfit⟩ := settled
  simp only [World.view, inMemory, CaseStore.view] at kept
  have again := filed.findCaseByMandate kept
  rw [owner, found] at again
  cases again
  cases Option.some.inj (charged.symm.trans (parsePaymentCaptured_amount parsed))
  obtain ⟨rule, cited, noted⟩ := handlePaymentSuccess_noted world.clock.view unfit
  have left := Handler.exec_settleSuccess_inMemory deployment inMemory filed stored event
    storeConflict
  rw [noted] at left
  rw [settles, left]
  refine ⟨_, rfl, ?_⟩
  rw [Table.update_of_mem (Table.mem_of_find? stored)]
  exact InMemoryCaseStore.onlyNoted_append stored rule cited _

/-- What an accepted delivery leaves so that it can be told when it comes again. -/
def Answered (world : World) : WebhookDelivery → Prop
  | .failed _ entity => world.Recorded (entity.id.getD "")
  | .succeeded _ entity =>
      ∃ caseId amount,
        entity.amount = some amount ∧ world.Settled caseId (entity.mandateId.getD "") amount

/-- An accepted delivery leaves it. -/
theorem exec_answered (deployment : Deployment) {world : World} {store : InMemoryCaseStore}
    (inMemory : world.store = .inMemory store) (orderly : world.Orderly)
    (delivery : WebhookDelivery) {response : Response}
    (answered
      : (Handler.exec deployment (delivery.request.handler deployment) world).1 = .ok response)
    (ok : response.status = "ok")
    : delivery.Answered
        (Handler.exec deployment (delivery.request.handler deployment) world).2 := by
  have filed := orderly.filed store inMemory
  cases delivery with
  | failed signed entity =>
      exact failed_recorded deployment inMemory filed signed entity answered ok
  | succeeded signed entity =>
      exact succeeded_settled deployment inMemory orderly signed entity answered

/-- No activity undoes it. -/
theorem answered_act {delivery : WebhookDelivery} {world : World}
    (answered : delivery.Answered world) (orderly : world.Orderly) (deployment : Deployment)
    (activity : Activity)
    : delivery.Answered (world.act deployment activity) := by
  cases delivery with
  | failed signed entity => exact World.Recorded.act answered deployment activity
  | succeeded signed entity =>
      obtain ⟨caseId, amount, charged, settled⟩ := answered
      exact ⟨caseId, amount, charged, settled.act orderly deployment activity⟩

/-- A delivery that comes again is at most noted. -/
theorem exec_again (deployment : Deployment) {world : World} {store : InMemoryCaseStore}
    (inMemory : world.store = .inMemory store) (filed : store.Filed)
    {delivery : WebhookDelivery} (answered : delivery.Answered world)
    : ∃ store',
        (Handler.exec deployment (delivery.request.handler deployment) world).2.store
          = .inMemory store'
        ∧ store.OnlyNoted store' := by
  cases delivery with
  | failed signed entity =>
      have known := Handler.exec_webhookPaymentFailed_known deployment inMemory signed
        (.inr (.inr (answered store inMemory)))
      refine ⟨store, ?_, .refl store⟩
      dsimp only [request, Request.handler]
      rw [known.1]
      exact inMemory
  | succeeded signed entity =>
      obtain ⟨caseId, amount, charged, settled⟩ := answered
      exact succeeded_again deployment inMemory filed signed charged settled

end WebhookDelivery

/-- A webhook that was accepted can be delivered again at any later time: no case, failure or
decision changes, and trails grow by notes at most.
-/
theorem redelivery_harmless (deployment : Deployment) (clock : ServiceClock)
    (before : List Activity) (delivery : WebhookDelivery) (later : List Activity)
    : let first := before.foldl (World.act deployment) (World.start false clock)
      let delivered := Handler.exec deployment (delivery.request.handler deployment) first
      ∀ response, delivered.1 = .ok response → response.status = "ok"
        → let world := later.foldl (World.act deployment) delivered.2
          let again := Handler.exec deployment (delivery.request.handler deployment) world
          ∃ store store',
            world.store = .inMemory store ∧ again.2.store = .inMemory store'
            ∧ store.OnlyNoted store' := by
  intro first delivered response answered ok world again
  obtain ⟨initial, inMemory⟩ := World.inMemory_run deployment clock before
  have orderly := World.orderly_run deployment false clock before
  have left := WebhookDelivery.exec_answered deployment inMemory orderly delivery answered ok
  -- The delivery is an activity itself, so the run up to its repetition is one run.
  let activities := before ++ .served (.request delivery.request) :: later
  have joined : activities.foldl (World.act deployment) (World.start false clock) = world := by
    rw [List.foldl_append]
    rfl
  obtain ⟨store, inMemory'⟩ := World.inMemory_run deployment clock activities
  have filed := World.filed_run deployment false clock activities store inMemory'
  rw [joined] at inMemory'
  have kept : delivery.Answered world := by
    have start : delivered.2.Orderly ∧ delivery.Answered delivered.2 :=
      ⟨orderly.act deployment (.served (.request delivery.request)), left⟩
    have steps (world : World) (activity : Activity)
        (holds : world.Orderly ∧ delivery.Answered world)
        : (world.act deployment activity).Orderly
          ∧ delivery.Answered (world.act deployment activity) :=
      ⟨holds.1.act deployment activity,
        WebhookDelivery.answered_act holds.2 holds.1 deployment activity⟩
    exact (@Run.keeps _ _ (World.act deployment) delivered.2
      (fun world => world.Orderly ∧ delivery.Answered world) start steps later).2
  obtain ⟨store', left', noted⟩ := WebhookDelivery.exec_again deployment inMemory' filed kept
  exact ⟨store, store', inMemory', left', noted⟩

/-- An answer with a status is a response. -/
theorem answered_status {result : Except Raised Response} {status : String}
    (shown : result.toOption.map (·.status) = some status)
    : ∃ response, result = .ok response ∧ response.status = status := by
  cases result with
  | error raised => cases shown
  | ok response => exact ⟨response, rfl, Option.some.inj shown⟩

/-- A success of ₹500 on the mandate of the demonstration. -/
def captured : WebhookDelivery :=
  .succeeded true { (unmandated "pay_3").entity with mandateId := some "mandate_1" }

/-- The success is delivered for a case that was just opened, and again an hour later. -/
theorem redelivery_harmless_captured
    : let first := World.act demoDeployment (World.start false demoClock)
        (.served (.request (timeout "pay_2")))
      let delivered := Handler.exec demoDeployment (captured.request.handler demoDeployment) first
      let world := World.act demoDeployment delivered.2
        (.served (.request (.advanceClock (hours 1))))
      let again := Handler.exec demoDeployment (captured.request.handler demoDeployment) world
      ∃ store store',
        world.store = .inMemory store ∧ again.2.store = .inMemory store'
        ∧ store.OnlyNoted store' := by
  have harmless := redelivery_harmless demoDeployment demoClock
    [.served (.request (timeout "pay_2"))] captured
    [.served (.request (.advanceClock (hours 1)))]
  have accepted
      : (Handler.exec demoDeployment (captured.request.handler demoDeployment)
          (World.act demoDeployment (World.start false demoClock)
            (.served (.request (timeout "pay_2"))))).1.toOption.map (·.status) = some "ok" := by
    decide +kernel
  simp only [List.foldl_cons, List.foldl_nil] at harmless
  generalize World.act demoDeployment (World.start false demoClock)
    (.served (.request (timeout "pay_2"))) = first at harmless accepted ⊢
  obtain ⟨response, answered, ok⟩ := answered_status accepted
  exact harmless response answered ok

end RecoveryAgent
