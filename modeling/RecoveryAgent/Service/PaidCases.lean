import RecoveryAgent.Service.Interference
import RecoveryAgent.Service.NextRetry
import RecoveryAgent.Service.Runs
import RecoveryAgent.Service.Serving

/-! A success delivery and a retry of one case, handled by two workers at once on Postgres.
Both read the case, decide on their copy and write the whole row back. A retry that has read
the row before the payment is stored goes on to its commit and its write all the same.
-/

namespace RecoveryAgent

open StateMachine Handler

-----------------------------------------------------------------------------------------
-- The two requests
-----------------------------------------------------------------------------------------

/-- The case was paid for, by a retry or without one. -/
def CaseState.paid (state : CaseState) : Bool :=
  state = .recovered ∨ state = .recoveredNaturally

/-- How a success event reaches a worker. -/
inductive SuccessDelivery where
  | webhook (signed : Bool) (entity : PaymentEntity)
  | simulated (request : SimulateSuccessRequest)

namespace SuccessDelivery

def request : SuccessDelivery → Request
  | .webhook signed entity => .paymentSucceeded signed entity
  | .simulated request => .simulateSuccess request

/-- The mandate under which the case is looked up; an empty one is refused. -/
def mandateId : SuccessDelivery → String
  | .webhook _ entity => entity.mandateId.getD ""
  | .simulated request => request.mandateId.getD ""

/-- The event the endpoint makes of the delivery for a case, if it accepts it. -/
def event (config : AppConfig) (capturedAt : Datetime) (case : RecoveryCase)
    : SuccessDelivery → Option PaymentSuccessEvent
  | .webhook signed entity =>
      if signed then (parsePaymentCaptured entity case).toOption else none
  | .simulated request =>
      if config.profileName = .demo then
        (PaymentSuccessEvent.create case.caseId request.paymentId request.amountPaise
          capturedAt).toOption
      else none

end SuccessDelivery

/-- A worker that handles a success event, and one that executes a retry of a case. -/
structure Rivals where
  payer : Worker
  delivery : SuccessDelivery
  executor : Worker
  caseId : PathSegment

namespace Rivals

variable (deployment : Deployment) (rivals : Rivals)

/-- The two requests about to be handled. -/
def pool (shared : Shared) : Workers Response where
  shared
  threads := [
    ⟨rivals.payer, (rivals.delivery.request.handler deployment).run⟩,
    ⟨rivals.executor, (executeRetry deployment rivals.caseId).run⟩
  ]

/-- A case that is paid keeps its state from one time to a later one, and no commit for it is
approved in between.
-/
def Closed (caseId : String) (shared later : Shared) : Prop :=
  ∀ case,
    (shared.store.view caseId).case = some case
    → case.state.paid
    → (later.store.view caseId).case.map (·.state) = some case.state
      ∧ committedAttempts later.log caseId = committedAttempts shared.log caseId

/-- However the two requests interleave, the case stays closed once it is paid. -/
def StaysClosed (shared : Shared) : Prop :=
  ∀ before after : List Nat,
    let paid := before.foldl (Pool.step (World.shares deployment)) (rivals.pool deployment shared)
    Closed rivals.caseId.text paid.shared
      (after.foldl (Pool.step (World.shares deployment)) paid).shared

/-- Alone, the retry would get past its checks: it would escalate the case or commit. -/
def Fires (shared : Shared) : Prop :=
  deployment.config.profileName = .demo
  ∧ ∃ case,
      (shared.store.view rivals.caseId.text).case = some case
      ∧ case.state = .retryScheduled
      ∧ (rivals.executor.distress.isDistressed case.instrumentId
            (rivals.executor.clock.reading 0) = true
        ∨ deployment.useEtcd = true
          ∧ ∃ decision,
              (shared.store.view rivals.caseId.text).pending.head? = some decision
              ∧ decision.scheduledAt ≤ rivals.executor.clock.reading 1)

instance (shared : Shared) : Decidable (rivals.Fires deployment shared) :=
  inferInstanceAs (Decidable (_ ∧ ∃ case ∈ (shared.store.view rivals.caseId.text).case,
    case.state = .retryScheduled ∧ (_ = true ∨ _ ∧
      ∃ decision ∈ (shared.store.view rivals.caseId.text).pending.head?,
        decision.scheduledAt ≤ rivals.executor.clock.reading 1)))

/-- The delivery is accepted for the case, which is not a control case, with its amount. -/
def Pays (shared : Shared) : Prop :=
  rivals.delivery.mandateId ≠ ""
  ∧ ∃ case,
      shared.store.findCaseByMandate rivals.delivery.mandateId = some case
      ∧ case.caseId = rivals.caseId.text
      ∧ case.bucket ≠ some .control
      ∧ ∃ event,
          rivals.delivery.event deployment.config (rivals.payer.clock.reading 0) case = some event
          ∧ event.amount = case.originalAmount

instance (shared : Shared) : Decidable (rivals.Pays deployment shared) :=
  inferInstanceAs (Decidable (_ ∧
    ∃ case ∈ shared.store.findCaseByMandate rivals.delivery.mandateId,
      case.caseId = rivals.caseId.text ∧ case.bucket ≠ some .control ∧
        ∃ event ∈ rivals.delivery.event deployment.config (rivals.payer.clock.reading 0) case,
          event.amount = case.originalAmount))

end Rivals

-----------------------------------------------------------------------------------------
-- A payment between the read and the write
-----------------------------------------------------------------------------------------

/-- What `execute_retry` does with the case it has read. -/
def Handler.executeRead (deployment : Deployment) (caseId : PathSegment) (case : RecoveryCase)
    : Handler Response := do
  if case.state ≠ .retryScheduled then
    refuse 409 ("Case is not in RETRY_SCHEDULED, current state=" ++ case.state.name)
  if ← isDistressed case.instrumentId (← now) then escalateDistressed case
  else
    match (← getPendingRetries).filter (·.caseId = caseId.text) with
    | [] => refuse 409 "No pending retry decision found"
    | decision :: _ => do
        let due ← now
        if due < decision.scheduledAt then
          refuse 409 ("Retry not yet due: scheduled_at=" ++ isoformat decision.scheduledAt
            ++ ", now=" ++ isoformat due)
        commitDecision deployment case caseId.text decision

theorem Handler.executeRetry_eq {deployment : Deployment}
    (demo : deployment.config.profileName = .demo) (caseId : PathSegment)
    : executeRetry deployment caseId
      = getCase caseId.text >>= executeRead deployment caseId := by
  unfold executeRetry
  rw [if_neg (not_not.mpr demo)]
  rfl

namespace Rivals

variable {deployment : Deployment} {rivals : Rivals} {shared : Shared}

/-- Handled at once, the delivery stores the scheduled case as recovered naturally, and leaves
its decisions and the commit log alone.
-/
theorem Pays.exec (pays : rivals.Pays deployment shared) {case : RecoveryCase}
    (stored : (shared.store.view rivals.caseId.text).case = some case)
    (scheduled : case.state = .retryScheduled)
    : ∃ spent view,
        World.Wrote ⟨rivals.payer, shared⟩
          (Handler.exec deployment (rivals.delivery.request.handler deployment)
            ⟨rivals.payer, shared⟩).2 spent rivals.caseId.text view
        ∧ view.case = some { case with state := .recoveredNaturally }
        ∧ view.decisions = (shared.store.view rivals.caseId.text).decisions := by
  obtain ⟨payer, delivery, executor, caseId⟩ := rivals
  obtain ⟨named, found, looked, owned, treated, event, accepted, whole⟩ := pays
  dsimp only at *
  have stored' := CaseStore.findCaseByMandate_view looked
  rw [owned, stored] at stored'
  cases stored'
  have settled (clock : Clock)
      : (handlePaymentSuccess case event clock).1 = { case with state := .recoveredNaturally } := by
    simp [handlePaymentSuccess, whole, treated, scheduled, awaitsExecution]
  rw [← owned] at stored ⊢
  have opened : Handler.exec deployment (openCase delivery.mandateId) ⟨payer, shared⟩
      = (.ok case, ⟨payer, shared⟩) := by
    have ran : Handler.exec deployment (findCaseByMandate delivery.mandateId) ⟨payer, shared⟩
        = (.ok (shared.store.findCaseByMandate delivery.mandateId), ⟨payer, shared⟩) := rfl
    unfold openCase
    rw [Handler.exec_bind, ran, looked]
    rfl
  -- both endpoints come to the same two writes, one of them after a reading of its clock
  suffices settles
      : ∃ spent adapt,
          (Handler.exec deployment (delivery.request.handler deployment) ⟨payer, shared⟩).2
          = (Handler.exec deployment (settleSuccess case event adapt)
              (World.tick ⟨payer, shared⟩ spent)).2 by
    obtain ⟨spent, adapt, same⟩ := settles
    obtain ⟨logged, _, wrote⟩ := @exec_settleSuccess_wrote deployment
      (World.tick ⟨payer, shared⟩ spent) case stored event adapt
    rw [settled, ← same] at wrote
    exact ⟨_, _, (World.Wrote.tick _ _ spent).trans wrote, rfl, rfl⟩
  cases delivery with
  | webhook signed entity =>
      simp only [SuccessDelivery.event, Option.ite_none_right_eq_some] at accepted
      obtain ⟨signed, accepted⟩ := accepted
      simp only [SuccessDelivery.mandateId] at named opened
      have parsed : parsePaymentCaptured entity case = .ok event := by
        generalize parsePaymentCaptured entity case = result at accepted ⊢
        cases result <;> simp_all [Except.toOption]
      refine ⟨0, storeConflict, ?_⟩
      simp only [SuccessDelivery.request, Request.handler, webhookPaymentSucceeded, signed]
      rw [if_neg (by simp), if_neg named, Handler.exec_bind, opened]
      simp only [parsed]
      rfl
  | simulated request =>
      simp only [SuccessDelivery.event, Option.ite_none_right_eq_some] at accepted
      obtain ⟨demo, accepted⟩ := accepted
      simp only [SuccessDelivery.mandateId] at named opened
      have created : PaymentSuccessEvent.create case.caseId request.paymentId
          request.amountPaise (payer.clock.reading 0) = .ok event := by
        generalize PaymentSuccessEvent.create _ _ _ _ = result at accepted ⊢
        cases result <;> simp_all [Except.toOption]
      refine ⟨1, id, ?_⟩
      simp only [SuccessDelivery.request, Request.handler, simulateSuccess]
      rw [if_neg (not_not.mpr demo), if_neg named, Handler.exec_bind, opened]
      simp only [Handler.exec_bind, Handler.exec_now, created]

/-- A retry that goes on with a scheduled case it has read changes the state of a row that was
neither executed nor escalated meanwhile, or has another commit approved.
-/
theorem Fires.exec (fires : rivals.Fires deployment shared) {case : RecoveryCase}
    (stored : (shared.store.view rivals.caseId.text).case = some case) {later : Shared}
    (sound : SoundLog later.log) {row : RecoveryCase}
    (moved : (later.store.view rivals.caseId.text).case = some row)
    (unexecuted : row.state ≠ .retryExecuted) (calm : row.state ≠ .escalated)
    (decisions
      : (later.store.view rivals.caseId.text).decisions
        = (shared.store.view rivals.caseId.text).decisions)
    : ∀ last, last
        = (Handler.exec deployment (executeRead deployment rivals.caseId case)
            ⟨rivals.executor, later⟩).2
      → (last.store.view rivals.caseId.text).case.map (·.state) ≠ some row.state
        ∨ committedAttempts last.log rivals.caseId.text
          ≠ committedAttempts later.log rivals.caseId.text := by
  obtain ⟨payer, delivery, executor, caseId⟩ := rivals
  obtain ⟨demo, read, stored', scheduled, admitted⟩ := fires
  dsimp only at *
  cases stored.symm.trans stored'
  have owned := CaseStore.view_caseId stored
  intro last ended
  unfold executeRead at ended
  rw [if_neg (not_not.mpr scheduled)] at ended
  simp only [exec_bind, exec_now, exec_isDistressed, exec_ite, World.tick_distress] at ended
  by_cases distressed
    : executor.distress.isDistressed case.instrumentId (executor.clock.reading 0) = true
  · rw [if_pos distressed] at ended
    obtain ⟨world, logged, raised, ran, _, wrote⟩ := @exec_escalateDistressed deployment
      (World.tick ⟨executor, later⟩ 1) case row (owned ▸ moved)
    rw [ran] at ended
    subst ended
    refine .inl ?_
    rw [← owned, wrote.view_eq]
    simpa using Ne.symm calm
  · rw [if_neg distressed] at ended
    obtain ⟨etcd, decision, first, due⟩ := admitted.resolve_left distressed
    have pending : (later.store.view caseId.text).pending
        = (shared.store.view caseId.text).pending :=
      congrArg (List.filter _) decisions
    obtain ⟨rest, listed⟩ := List.head?_eq_some_iff.mp (pending ▸ first)
    have open_ : ¬ executor.clock.reading 1 < decision.scheduledAt := not_lt.mpr due
    simp only [exec_bind, exec_getPendingRetries, World.tick_store, CaseStore.pending_eq, listed,
      exec_now, World.tick_clock, ServiceClock.reading_skip, if_neg open_, World.tick_tick]
      at ended
    by_cases committed : decision.attemptNumber ∈ committedAttempts later.log caseId.text
    · have touched := @exec_commitDecision_refused deployment etcd
        (World.tick ⟨executor, later⟩ 2) sound caseId.text caseId.noSlash case row moved decision
        unexecuted committed
      rw [← ended] at touched
      have healed := congrArg CaseView.case touched.here
      refine .inl ?_
      rw [show (last.store.view caseId.text).case = _ from healed]
      simpa [executedView] using Ne.symm unexecuted
    · have recorded : decision ∈ (later.store.view caseId.text).decisions :=
        (List.mem_filter.mp (show decision ∈ (later.store.view caseId.text).pending by
          rw [listed]; simp)).1
      have touched := @exec_commitDecision_approved deployment etcd
        (World.tick ⟨executor, later⟩ 2) sound caseId.text caseId.noSlash case row moved decision
        owned scheduled recorded committed
      rw [← ended] at touched
      have approved := congrArg CaseView.committed touched.here
      refine .inr ?_
      rw [show committedAttempts last.log caseId.text = _ from approved]
      simp [World.view]

/-- The retry reads the case, the delivery is handled to its end, and the retry goes on. -/
theorem not_staysClosed (sound : SoundLog shared.log) (fires : rivals.Fires deployment shared)
    (pays : rivals.Pays deployment shared)
    : ¬ rivals.StaysClosed deployment shared := by
  intro closed
  obtain ⟨demo, case, stored, scheduled, _⟩ := id fires
  -- the executor holds the case as it was read
  let started : Workers Response := ⟨shared, [
    ⟨rivals.payer, (rivals.delivery.request.handler deployment).run⟩,
    ⟨rivals.executor, (executeRead deployment rivals.caseId case).run⟩]⟩
  have first : (rivals.pool deployment shared).step (World.shares deployment) 1 = started := by
    have got : shared.store.getCase rivals.caseId.text = .ok case := by
      rcases shared.store.getCase_eq rivals.caseId.text with ⟨found, same, got⟩ | ⟨absent, _⟩
      · cases stored.symm.trans same
        exact got
      · rw [stored] at absent
        cases absent
    have run : (executeRetry deployment rivals.caseId).run
        = .request (.getCase rivals.caseId.text) fun reply =>
            (orRaise reply >>= executeRead deployment rivals.caseId).run := by
      rw [executeRetry_eq demo]
      rfl
    unfold pool
    rw [run]
    change (⟨shared, _⟩ : Workers Response) = _
    simp only [started, World.shares, World.answer, got]
    rfl
  obtain ⟨n, paid, others⟩ := Workers.exists_schedule deployment
    (show started.threads[0]? = some ⟨rivals.payer, _⟩ from rfl)
  obtain ⟨spent, view, wrote, settled, decisions⟩ := pays.exec stored scheduled
  obtain ⟨m, ended, _⟩ := Workers.exists_schedule deployment
    ((others 1 (by decide)).trans (show started.threads[1]? = some ⟨rivals.executor, _⟩ from rfl))
  have closed := closed (1 :: List.replicate n 0) (List.replicate m 1)
  simp only [List.foldl_cons, first] at closed
  rw [ended, paid] at closed
  have row : (((Handler.exec deployment (rivals.delivery.request.handler deployment)
        ⟨rivals.payer, shared⟩).2).store.view rivals.caseId.text).case
      = some { case with state := .recoveredNaturally } := by
    rw [wrote.view_eq, settled]
  obtain ⟨state, commits⟩ := closed _ row (by simp [CaseState.paid])
  rcases fires.exec stored (wrote.log ▸ sound) row (by simp) (by simp)
      (by rw [wrote.view_eq, decisions]) _ rfl with moved | approved
  · exact moved state
  · exact approved commits

-----------------------------------------------------------------------------------------
-- A retry that does not get past its checks
-----------------------------------------------------------------------------------------

/-- The decisions of a case are as before, and so is the case, unless it is not scheduled. -/
def Unchanged (caseId : String) (shared later : Shared) : Prop :=
  (later.store.view caseId).decisions = (shared.store.view caseId).decisions
  ∧ ∀ case,
      (later.store.view caseId).case = some case
      → case.state = .retryScheduled
      → (shared.store.view caseId).case = some case

instance (caseId : String) : IsPreorder Shared (Unchanged caseId) where
  refl _ := ⟨rfl, fun _ found _ => found⟩
  trans _ _ _ first second :=
    ⟨second.1.trans first.1, fun case found scheduled =>
      first.2 case (second.2 case found scheduled) scheduled⟩

/-- While nobody but itself schedules the case, such a retry leaves what is shared alone. -/
theorem executor_still (held : ¬ rivals.Fires deployment shared)
    : Honours (World.shares deployment) (.among (Unchanged rivals.caseId.text) Eq)
        (fun _ _ _ => True)
        (executeRetry deployment rivals.caseId) rivals.executor shared := by
  obtain ⟨payer, delivery, executor, caseId⟩ := rivals
  dsimp only
  unfold Fires at held
  dsimp only at held
  unfold executeRetry
  refine honours_check (fun _ => trivial) fun demo => ?_
  refine honours_stored fun read unchanged => ⟨rfl, ?_⟩
  rcases read.store.getCase_eq caseId.text with ⟨case, found, got⟩ | ⟨_, raised, got⟩
  swap
  · simp only [World.shares, World.answer, got]
  simp only [World.shares, World.answer, got]
  refine honours_check (fun _ => trivial) fun scheduled => ?_
  have scheduled := not_not.mp scheduled
  have stored := unchanged.2 case found scheduled
  refine honours_now fun gated first => ⟨rfl, ?_⟩
  refine honours_read
    (fun _ => executor.distress.isDistressed case.instrumentId (executor.clock.reading 0)) _
    (fun _ => rfl) fun asked second => ⟨rfl, ?_⟩
  by_cases distressed
    : executor.distress.isDistressed case.instrumentId (executor.clock.reading 0) = true
  · exact absurd ⟨not_not.mp demo, case, stored, scheduled, .inl distressed⟩ held
  rw [if_neg distressed]
  refine honours_read (·.store.getPendingRetries) _ (fun _ => rfl) fun listed third => ⟨rfl, ?_⟩
  have decisions : (listed.store.view caseId.text).pending
      = (shared.store.view caseId.text).pending :=
    congrArg (List.filter _) (third.1.trans (second.1.trans (first.1.trans unchanged.1)))
  rw [CaseStore.pending_eq, decisions]
  cases pending : (shared.store.view caseId.text).pending with
  | nil => trivial
  | cons decision rest =>
      refine honours_now fun timed _ => ⟨rfl, ?_⟩
      refine honours_check (fun _ => trivial) fun due => ?_
      have etcd : deployment.useEtcd = false := by
        by_contra etcd
        refine held ⟨not_not.mp demo, case, stored, scheduled, .inr ⟨by simpa using etcd, ?_⟩⟩
        refine ⟨decision, congrArg List.head? pending, ?_⟩
        simpa [ServiceClock.reading_skip] using due
      unfold commitDecision
      refine honours_now fun stamped _ => ⟨rfl, ?_⟩
      exact honours_commitEffect_inMemory etcd fun _ _ _ => ⟨rfl, trivial⟩

section Delivery

variable {rely guarantee : Shared → Shared → Prop} [IsPreorder Shared rely]

/-- Apart from its reads and its appends a settlement is one update. -/
theorem honours_settleSuccess (still : ∀ now, guarantee now now)
    (appends
      : ∀ entries op own now,
          Op.Appends entries op → guarantee now (World.shares deployment op (own, now)).2.2)
    {case : RecoveryCase} {event : PaymentSuccessEvent} {adapt : Raised → Raised}
    {own : Worker}
    (updates
      : ∀ now own clock,
          rely shared now
          → guarantee now
              (World.shares deployment (.updateCase (handlePaymentSuccess case event clock).1)
                (own, now)).2.2)
    : Honours (World.shares deployment) (.among rely guarantee) (fun _ _ _ => True)
        (settleSuccess case event adapt) own shared := by
  unfold settleSuccess
  refine honours_read (fun _ => own.clock.view) { own with clock := own.clock.skip 1 }
    (fun _ => rfl) fun read first => ⟨still read, ?_⟩
  have updates (now : Shared) (own' : Worker) := updates now own' own.clock.view
  generalize handlePaymentSuccess case event own.clock.view = handled at updates ⊢
  have written
      : Honours (World.shares deployment) (.among rely guarantee) (fun _ _ _ => True)
          (ExceptT.adapt adapt do
            updateCase handled.1
            appendAll handled.2)
          { own with clock := own.clock.skip 1 } read := by
    refine honours_adapt (honours_stored fun now second => ?_)
    refine ⟨updates now _ (trans_of rely first second), ?_⟩
    split
    · exact (appends_appendAll (List.Subset.refl _)).honours
        (fun op own _ now permitted _ _ => ⟨appends _ op own now permitted, trivial⟩) trivial
    · trivial
  exact written.bind (fun _ _ _ _ => trivial) fun _ _ _ _ => trivial

/-- A delivery settles the case that its mandate finds, if it accepts it. -/
theorem honours_delivery (still : ∀ now, guarantee now now)
    (settles
      : ∀ now case event own adapt,
          rely shared now
          → rivals.delivery.mandateId ≠ ""
          → now.store.findCaseByMandate rivals.delivery.mandateId = some case
          → rivals.delivery.event deployment.config (rivals.payer.clock.reading 0) case
              = some event
          → Honours (World.shares deployment) (.among rely guarantee) (fun _ _ _ => True)
              (settleSuccess case event adapt) own now)
    : Honours (World.shares deployment) (.among rely guarantee) (fun _ _ _ => True)
        (rivals.delivery.request.handler deployment) rivals.payer shared := by
  obtain ⟨payer, delivery, executor, caseId⟩ := rivals
  dsimp only at *
  have opens {next : RecoveryCase → Handler Response} (mandateId : String)
      (found
        : ∀ now case,
            rely shared now
            → now.store.findCaseByMandate mandateId = some case
            → Honours (World.shares deployment) (.among rely guarantee) (fun _ _ _ => True)
                (next case) payer now)
      : Honours (World.shares deployment) (.among rely guarantee) (fun _ _ _ => True)
          (openCase mandateId >>= next) payer shared := by
    refine fun now relied => ⟨still now, ?_⟩
    dsimp only [World.shares, World.answer]
    cases looked : now.store.findCaseByMandate mandateId with
    | some case => exact found now case relied looked
    | none => trivial
  cases delivery with
  | webhook signed entity =>
      refine honours_check (fun _ => trivial) fun trusted => ?_
      refine honours_check (fun _ => trivial) fun named => ?_
      refine opens _ fun now case relied found => ?_
      split
      · next event parsed =>
          have signed : signed = true := by simpa using trusted
          refine settles now case event payer _ relied named found ?_
          simp [SuccessDelivery.event, signed, parsed, Except.toOption]
      · trivial
  | simulated request =>
      refine honours_check (fun _ => trivial) fun demo => ?_
      refine honours_check (fun _ => trivial) fun named => ?_
      refine opens _ fun now case relied found => ?_
      refine honours_now fun later relied' => ⟨still later, ?_⟩
      split
      · next event created =>
          refine (settles now case event _ _ relied named found ?_).stable relied'
          have demo := not_not.mp demo
          simp [SuccessDelivery.event, demo, created, Except.toOption]
      · trivial

end Delivery

/-- Appends change neither cases nor decisions, and no commit. -/
theorem answer_appends {entries : List AuditEntry} {op : Op} (appends : op.Appends entries)
    (world : World)
    : (world.answer deployment op).2.log = world.log
      ∧ ∀ caseId,
          ((world.answer deployment op).2.store.view caseId).case = (world.store.view caseId).case
          ∧ ((world.answer deployment op).2.store.view caseId).decisions
            = (world.store.view caseId).decisions := by
  cases op with
  | nextSequence => exact ⟨rfl, fun caseId => by simp [World.answer]⟩
  | lastEntryHash of => exact ⟨rfl, fun _ => ⟨rfl, rfl⟩⟩
  | insertAudit entry =>
      simp only [World.answer]
      cases inserted : world.store.insertAudit entry with
      | error raised => exact ⟨rfl, fun _ => ⟨rfl, rfl⟩⟩
      | ok store =>
          refine ⟨rfl, fun caseId => ?_⟩
          simp only [World.stored, CaseStore.view_insertAudit inserted]
          by_cases same : caseId = entry.caseId
          · subst same
            simp
          · simp [same]
  | _ => exact appends.elim

/-- A success keeps the state of a paid case, and never schedules one. -/
theorem handlePaymentSuccess_closes (case : RecoveryCase) (event : PaymentSuccessEvent)
    (clock : Clock)
    : (case.state.paid → (handlePaymentSuccess case event clock).1.state = case.state)
      ∧ ((handlePaymentSuccess case event clock).1.state = .retryScheduled
        → (handlePaymentSuccess case event clock).1 = case) := by
  unfold handlePaymentSuccess
  dsimp only
  repeat' split
  all_goals
    refine ⟨fun paid => ?_, fun scheduled => ?_⟩ <;>
    first
      | rfl
      | cases scheduled
      | rcases of_decide_eq_true paid with state | state <;> simp_all [awaitsExecution]

/-- Beside a retry that leaves everything alone, a delivery keeps a paid case closed, and never
schedules one.
-/
theorem payer_closes
    : Honours (World.shares deployment)
        (.among Eq fun shared later =>
          Closed rivals.caseId.text shared later ∧ Unchanged rivals.caseId.text shared later)
        (fun _ _ _ => True) (rivals.delivery.request.handler deployment) rivals.payer shared := by
  have same {now later : Shared} (log : later.log = now.log)
      (cases_ : (later.store.view rivals.caseId.text).case
        = (now.store.view rivals.caseId.text).case)
      (decisions : (later.store.view rivals.caseId.text).decisions
        = (now.store.view rivals.caseId.text).decisions)
      : Closed rivals.caseId.text now later ∧ Unchanged rivals.caseId.text now later := by
    refine ⟨fun case stored _ => ?_, decisions, fun case stored _ => cases_ ▸ stored⟩
    rw [cases_, stored, log]
    exact ⟨rfl, rfl⟩
  refine honours_delivery (fun _ => same rfl rfl rfl)
    fun now case event own adapt reached named found accepted => ?_
  subst reached
  refine honours_settleSuccess (fun _ => same rfl rfl rfl)
    (fun entries op own now appends => ?_) fun later own clock reached => ?_
  · obtain ⟨log, views⟩ := @answer_appends deployment entries op appends ⟨own, now⟩
    exact same log (views _).1 (views _).2
  · subst reached
    have owned := (handlePaymentSuccess_sameCase case clock event).caseId
    obtain ⟨keepsPaid, schedulesNone⟩ := handlePaymentSuccess_closes case event clock
    have stored := CaseStore.findCaseByMandate_view found
    generalize (handlePaymentSuccess case event clock).1 = settled at *
    simp only [World.shares, World.answer]
    cases updated : shared.store.updateCase settled with
    | error raised => exact same rfl rfl rfl
    | ok store =>
        have views := CaseStore.view_updateCase updated
        simp only [World.stored]
        by_cases here : rivals.caseId.text = settled.caseId
        · have row : (store.view rivals.caseId.text).case = some settled := by
            rw [here, views, CaseStore.overwrite, Function.update_self, owned, stored]
            rfl
          rw [← owned, ← here] at stored
          refine ⟨fun case' stored' paid => ?_, ?_, fun case' stored' scheduled => ?_⟩
          · cases stored.symm.trans stored'
            rw [row, Option.map_some, keepsPaid paid]
            exact ⟨rfl, rfl⟩
          · rw [here, views, CaseStore.overwrite, Function.update_self]
          · cases row.symm.trans stored'
            rw [stored, schedulesNone scheduled]
        · have elsewhere
              : store.view rivals.caseId.text = shared.store.view rivals.caseId.text := by
            rw [views, CaseStore.overwrite, Function.update_of_ne here]
          exact same rfl (by rw [elsewhere]) (by rw [elsewhere])

-----------------------------------------------------------------------------------------
-- Both at once
-----------------------------------------------------------------------------------------

/-- What two requests that bear each other both guarantee holds along every schedule. -/
theorem kept_along {relyPayer relyExecutor guaranteePayer guaranteeExecutor kept
      : Shared → Shared → Prop}
    [IsPreorder Shared relyPayer] [IsPreorder Shared relyExecutor] [IsPreorder Shared kept]
    (payer
      : Honours (World.shares deployment) (.among relyPayer guaranteePayer) (fun _ _ _ => True)
          (rivals.delivery.request.handler deployment) rivals.payer shared)
    (executor
      : Honours (World.shares deployment) (.among relyExecutor guaranteeExecutor)
          (fun _ _ _ => True)
          (executeRetry deployment rivals.caseId) rivals.executor shared)
    (bears : ∀ now later, guaranteePayer now later → relyExecutor now later ∧ kept now later)
    (borne : ∀ now later, guaranteeExecutor now later → relyPayer now later ∧ kept now later)
    (before after : List Nat)
    : let paid := before.foldl (Pool.step (World.shares deployment))
        (rivals.pool deployment shared)
      kept shared paid.shared
        ∧ kept paid.shared (after.foldl (Pool.step (World.shares deployment)) paid).shared := by
  let rely : Nat → Shared → Shared → Prop
    | 0 => relyPayer
    | 1 => relyExecutor
    | _ => fun _ _ => True
  let guarantee : Nat → Shared → Shared → Prop
    | 0 => guaranteePayer
    | 1 => guaranteeExecutor
    | _ => fun _ _ => False
  have preorder : ∀ i, IsPreorder Shared (rely i)
    | 0 => inferInstanceAs (IsPreorder Shared relyPayer)
    | 1 => inferInstanceAs (IsPreorder Shared relyExecutor)
    | _ + 2 => { refl := fun _ => trivial, trans := fun _ _ _ _ _ => trivial }
  have fits
      : ∀ i j, i ≠ j → ∀ now later, guarantee i now later → rely j now later
    | 0, 1, _, now, later, kept => (bears now later kept).1
    | 1, 0, _, now, later, kept => (borne now later kept).1
    | _, _ + 2, _, _, _, _ => trivial
    | 0, 0, other, _, _, _ => absurd rfl other
    | 1, 1, other, _, _, _ => absurd rfl other
    | _ + 2, 0, _, _, _, never => never.elim
    | _ + 2, 1, _, _, _, never => never.elim
  have keeps : ∀ i now later, guarantee i now later → kept now later
    | 0, now, later, kept => (bears now later kept).2
    | 1, now, later, kept => (borne now later kept).2
  have honoured
      : Pool.Honoured (World.shares deployment) rely guarantee (rivals.pool deployment shared)
    | 0, _, found => Option.some.inj found ▸ payer
    | 1, _, found => Option.some.inj found ▸ executor
  obtain ⟨between, first⟩ := honoured.run fits keeps before
  exact ⟨first, (between.run fits keeps after).2⟩

instance (caseId : String) : IsPreorder Shared (Closed caseId) where
  refl _ := fun _ stored _ => ⟨by rw [stored]; rfl, rfl⟩
  trans _ middle _ first second := fun case stored paid => by
    obtain ⟨state, commits⟩ := first case stored paid
    obtain ⟨case', stored', same⟩ := Option.map_eq_some_iff.mp state
    obtain ⟨state', commits'⟩ := second case' stored' (same ▸ paid)
    exact ⟨state'.trans (congrArg some same), commits'.trans commits⟩

/-- A retry that does not get past its checks leaves a paid case closed. -/
theorem staysClosed_of_held (held : ¬ rivals.Fires deployment shared)
    : rivals.StaysClosed deployment shared := fun before after =>
  (kept_along payer_closes (executor_still held) (fun _ _ both => ⟨both.2, both.1⟩)
    (fun now _ same => ⟨same, same ▸ refl_of (Closed rivals.caseId.text) now⟩) before after).2

end Rivals

-----------------------------------------------------------------------------------------
-- A delivery that does not pay
-----------------------------------------------------------------------------------------

/-- What no request changes about a case, and what decides whether an event pays for it. -/
def RecoveryCase.terms (case : RecoveryCase) : String × String × Int × Option Bucket :=
  (case.caseId, case.mandateId, case.originalAmount, case.bucket)

/-- An operation that writes no case. -/
def Op.SparesCases : Op → Prop
  | .createCase _ => False
  | .updateCase _ => False
  | .mutateCase _ => False
  | _ => True

theorem Op.Appends.sparesCases {entries : List AuditEntry} {op : Op}
    (appends : op.Appends entries)
    : op.SparesCases := by
  cases op with
  | createCase | updateCase | mutateCase => exact appends.elim
  | _ => trivial

theorem Op.SparesCases.answer {op : Op} (spares : op.SparesCases) (deployment : Deployment)
    {world : World} {store : PostgresCaseStore} (postgres : world.store = .postgres store)
    : ∃ store',
        (world.answer deployment op).2.store = .postgres store'
        ∧ store'.recoveryCases = store.recoveryCases := by
  obtain ⟨worker, ⟨_, log⟩⟩ := world
  cases postgres
  cases op with
  | recordFailure event =>
      simp only [World.answer, CaseStore.recordFailure, PostgresCaseStore.recordFailure]
      split <;> exact ⟨_, rfl, rfl⟩
  | recordRetryDecision decision =>
      simp only [World.answer, CaseStore.recordRetryDecision,
        PostgresCaseStore.recordRetryDecision]
      cases store.retryDecisions.insert? decision <;> exact ⟨_, rfl, rfl⟩
  | insertAudit entry =>
      simp only [World.answer, CaseStore.insertAudit, PostgresCaseStore.insertAudit]
      cases store.auditEntries.insert? entry <;> exact ⟨_, rfl, rfl⟩
  | commitEffect caseId attempt effect =>
      simp only [World.answer, World.commitEffect]
      split <;> exact ⟨_, rfl, rfl⟩
  | advanceClock delta =>
      simp only [World.answer]
      split <;> exact ⟨_, rfl, rfl⟩
  | createCase | updateCase | mutateCase => exact spares.elim
  | _ => exact ⟨_, rfl, rfl⟩

/-- On Postgres, the cases are those of the given terms, and the one case is not paid. -/
structure Unpaid (deployment : Deployment) (caseId : String)
    (terms : List (String × String × Int × Option Bucket)) (shared : Shared)
    : Prop where
  sound : shared.Sound deployment
  table
    : ∃ store,
        shared.store = .postgres store ∧ store.recoveryCases.rows.map RecoveryCase.terms = terms
  unpaid : ∀ case, (shared.store.view caseId).case = some case → case.state.paid = false

namespace Unpaid

variable {deployment : Deployment} {caseId : String}
  {terms : List (String × String × Int × Option Bucket)} {shared : Shared}

theorem spared (holds : Unpaid deployment caseId terms shared) {op : Op}
    (commits : op.Commits) (spares : op.SparesCases) (own : Worker)
    : Unpaid deployment caseId terms (World.shares deployment op (own, shared)).2.2 := by
  obtain ⟨sound, ⟨store, postgres, rows⟩, unpaid⟩ := holds
  obtain ⟨store', postgres', same⟩ :=
    @Op.SparesCases.answer op spares deployment ⟨own, shared⟩ store postgres
  refine ⟨@Shared.Sound.answer deployment op commits ⟨own, shared⟩ sound,
    ⟨store', postgres', same ▸ rows⟩, fun case stored => unpaid case ?_⟩
  simp only [World.shares, postgres', CaseStore.view, same] at stored
  simpa only [postgres, CaseStore.view] using stored

/-- A case that is read is one of those, and not paid if it is the one case. -/
theorem got (holds : Unpaid deployment caseId terms shared) {other : String}
    {case : RecoveryCase} (got : shared.store.getCase other = .ok case)
    : case.terms ∈ terms ∧ case.caseId = other ∧ (other = caseId → case.state.paid = false) := by
  rcases shared.store.getCase_eq other with ⟨found, stored, read⟩ | ⟨_, _, read⟩
  swap
  · cases got.symm.trans read
  cases got.symm.trans read
  obtain ⟨store, postgres, rows⟩ := holds.table
  refine ⟨?_, CaseStore.view_caseId stored, fun same => holds.unpaid case (same ▸ stored)⟩
  rw [postgres] at stored
  exact rows ▸ List.mem_map_of_mem (Table.mem_of_find? stored)

/-- Writing back one of the cases keeps the terms, and so does what is unpaid. -/
theorem updated (holds : Unpaid deployment caseId terms shared) {case : RecoveryCase}
    (known : case.terms ∈ terms) (unpaid : case.caseId = caseId → case.state.paid = false)
    (own : Worker)
    : Unpaid deployment caseId terms
        (World.shares deployment (.updateCase case) (own, shared)).2.2 := by
  obtain ⟨sound, ⟨store, postgres, rows⟩, before⟩ := holds
  obtain ⟨_, log⟩ := shared
  cases postgres
  refine ⟨@Shared.Sound.answer deployment (.updateCase case) trivial ⟨own, .postgres store, log⟩
    sound, ⟨_, rfl, ?_⟩, fun row stored => ?_⟩
  · rw [← rows]
    refine Table.map_update fun old stored => ?_
    obtain ⟨row, member, same⟩ := List.mem_map.mp (rows ▸ known)
    have key : row.caseId = case.caseId := congrArg Prod.fst same
    cases stored.symm.trans (key ▸ Table.find?_of_mem member)
    exact same.symm
  · have stored : (store.recoveryCases.update case).find? caseId = some row := stored
    rw [Table.find?_update] at stored
    split at stored
    · next here =>
        obtain ⟨_, _, rfl⟩ := Option.map_eq_some_iff.mp stored
        exact unpaid here.symm
    · exact before row stored

/-- A mandate finds a case by the terms. -/
theorem found (holds : Unpaid deployment caseId terms shared) (mandateId : String)
    : (shared.store.findCaseByMandate mandateId).map RecoveryCase.terms
      = terms.find? (·.2.1 = mandateId) := by
  obtain ⟨store, postgres, rows⟩ := holds.table
  rw [postgres, ← rows, List.find?_map]
  rfl

end Unpaid

/-- An event of another amount, or for a control case, pays for nothing. -/
theorem handlePaymentSuccess_unpaid {case : RecoveryCase} {event : PaymentSuccessEvent}
    (unfit : event.amount ≠ case.originalAmount ∨ case.bucket = some .control)
    (unpaid : case.state.paid = false) (clock : Clock)
    : (handlePaymentSuccess case event clock).1.state.paid = false := by
  unfold handlePaymentSuccess
  dsimp only
  split
  · exact unpaid
  · next whole =>
      rw [if_pos (unfit.resolve_left whole)]
      split
      · exact unpaid
      · rfl

namespace SuccessDelivery

/-- Whether a delivery is accepted for a case depends on the id of the case only. -/
theorem event_congr {config : AppConfig} {capturedAt : Datetime} {case case' : RecoveryCase}
    (same : case'.caseId = case.caseId) (delivery : SuccessDelivery)
    : delivery.event config capturedAt case' = delivery.event config capturedAt case := by
  cases delivery <;> simp only [event, parsePaymentCaptured, same]

end SuccessDelivery

namespace Rivals

variable {deployment : Deployment} {rivals : Rivals} {shared : Shared}

/-- A delivery that does not pay for the case leaves it unpaid. -/
theorem payer_keepsUnpaid {terms : List (String × String × Int × Option Bucket)}
    (holds : Unpaid deployment rivals.caseId.text terms shared)
    (unfit : ¬ rivals.Pays deployment shared)
    : Honours (World.shares deployment)
        (.among
          (fun now later =>
            Unpaid deployment rivals.caseId.text terms now
            → Unpaid deployment rivals.caseId.text terms later)
          fun now later =>
            Unpaid deployment rivals.caseId.text terms now
            → Unpaid deployment rivals.caseId.text terms later)
        (fun _ _ _ => True) (rivals.delivery.request.handler deployment) rivals.payer shared := by
  have preorder : IsPreorder Shared fun now later =>
      Unpaid deployment rivals.caseId.text terms now
      → Unpaid deployment rivals.caseId.text terms later :=
    { refl := fun _ => id, trans := fun _ _ _ first second => second ∘ first }
  refine honours_delivery (fun _ => id) fun now case event own adapt relied named found accepted =>
    ?_
  have before := relied holds
  have looked := before.found rivals.delivery.mandateId
  rw [found, Option.map_some] at looked
  have same (clock : Clock) := handlePaymentSuccess_sameCase case clock event
  refine honours_settleSuccess (fun _ => id) (fun entries op own now appends current => ?_)
    fun later own clock reached current => ?_
  · exact current.spared appends.plain.commits appends.sparesCases own
  refine current.updated ?_ (fun here => ?_) own
  · have kept : (handlePaymentSuccess case event clock).1.terms = case.terms := by
      simp only [RecoveryCase.terms, (same clock).caseId, (same clock).mandateId,
        (same clock).originalAmount, (same clock).bucket]
    exact kept ▸ List.mem_of_find?_eq_some looked.symm
  rw [(same clock).caseId] at here
  refine handlePaymentSuccess_unpaid ?_
    (before.unpaid case (here ▸ CaseStore.findCaseByMandate_view found)) clock
  by_contra fit
  obtain ⟨whole, treated⟩ := not_or.mp fit
  -- the mandate found a case of the same terms at the start
  obtain ⟨first, found', terms'⟩ := Option.map_eq_some_iff.mp
    ((holds.found rivals.delivery.mandateId).trans looked.symm)
  simp only [RecoveryCase.terms, Prod.mk.injEq] at terms'
  obtain ⟨caseId, _, amount, bucket⟩ := terms'
  rw [← rivals.delivery.event_congr caseId] at accepted
  exact unfit ⟨named, first, found', caseId.trans here, bucket ▸ treated, event, accepted,
    (not_not.mp whole).trans amount.symm⟩

end Rivals

section Executor

variable {deployment : Deployment} {caseId : String}
  {terms : List (String × String × Int × Option Bucket)} {α : Type}

theorem keeps_spared {handler : Handler α}
    (issues : Issues (fun op => op.Commits ∧ op.SparesCases) handler)
    : Keeps deployment (Unpaid deployment caseId terms) handler :=
  issues.keeps fun _ own _ both holds => holds.spared both.1 both.2 own

theorem keeps_now : Keeps deployment (Unpaid deployment caseId terms) now :=
  keeps_spared (.bind (issues_call ⟨trivial, trivial⟩) fun _ => issues_pure _)

theorem keeps_append (entry : AuditEntry)
    : Keeps deployment (Unpaid deployment caseId terms) (appendAudit entry) :=
  keeps_spared ((appends_appendAudit (List.mem_singleton_self entry)).mono fun _ appends =>
    ⟨appends.plain.commits, appends.sparesCases⟩)

/-- A write of one of the cases in a state that is not paid. -/
theorem keeps_update {case : RecoveryCase} (known : case.terms ∈ terms)
    (unpaid : case.state.paid = false) {next : Unit → Handler α}
    (keeps : Keeps deployment (Unpaid deployment caseId terms) (next ()))
    : Keeps deployment (Unpaid deployment caseId terms) (updateCase case >>= next) :=
  keeps_stored fun own _ holds => ⟨holds.updated known (fun _ => unpaid) own, fun _ _ => keeps⟩

theorem keeps_applyEffect {case : RecoveryCase} (known : case.terms ∈ terms) {effect : Effect}
    (executes : effect.toState = .retryExecuted)
    : Keeps deployment (Unpaid deployment caseId terms) (applyEffect case effect) := by
  unfold applyEffect
  split
  · exact keeps_pure _
  · refine @keeps_update deployment caseId terms _ { case with state := effect.toState } known
      (by rw [executes]; rfl) _ (keeps_now.bind fun _ => ?_)
    exact (keeps_append _).bind fun _ => keeps_pure _

theorem keeps_escalateDistressed {case : RecoveryCase} (known : case.terms ∈ terms)
    : Keeps deployment (Unpaid deployment caseId terms) (escalateDistressed case) := by
  refine @keeps_update deployment caseId terms _ { case with state := .escalated } known rfl _ ?_
  exact keeps_now.bind fun _ => (keeps_append _).bind fun _ => keeps_throw _

/-- The loop of a heal, by induction over the effects. -/
theorem keeps_healFrom {effects : List Effect}
    (execute : ∀ effect ∈ effects, effect.toState = .retryExecuted) (other : String)
    : Keeps deployment (Unpaid deployment caseId terms) (healFrom other effects) := by
  induction effects with
  | nil => exact keeps_pure _
  | cons effect rest ih =>
      obtain ⟨first, later⟩ := List.forall_mem_cons.mp execute
      refine keeps_stored fun own now holds => ⟨holds, fun case read => ?_⟩
      exact (keeps_applyEffect (holds.got read).1 first).bind fun _ => ih later

theorem keeps_reconcileCase (useEtcd : Bool) (other : String)
    : Keeps deployment (Unpaid deployment caseId terms) (reconcileCase useEtcd other) := by
  unfold reconcileCase
  split
  · refine keeps_swallow (keeps_call fun own now holds => ⟨holds, ?_⟩)
    refine keeps_healFrom (fun effect member => ?_) other
    obtain ⟨row, stored, _, rfl⟩ := EtcdStore.mem_getPrefix.mp member
    exact (holds.sound.log row stored).2.1
  · exact keeps_pure _

theorem keeps_commitDecision {case : RecoveryCase} (known : case.terms ∈ terms)
    (segment : PathSegment) (decision : RetryDecision)
    : Keeps deployment (Unpaid deployment caseId terms)
        (commitDecision deployment case segment.text decision) := by
  refine keeps_now.bind fun instant => keeps_call fun own now holds => ?_
  have commits : Op.Commits (.commitEffect segment.text decision.attemptNumber
      (retryEffect segment.text decision instant)) :=
    ⟨rfl, rfl, rfl, segment.noSlash⟩
  refine ⟨holds.spared commits trivial own, ?_⟩
  split
  · exact keeps_throw _
  · exact (keeps_reconcileCase _ _).bind fun _ => keeps_throw _
  · refine (keeps_applyEffect known rfl).bind fun _ => ?_
    exact (keeps_spared (issues_stored ⟨trivial, trivial⟩)).bind fun _ => keeps_pure _

/-- A retry leaves an unpaid case unpaid. -/
theorem keeps_executeRetry (segment : PathSegment)
    : Keeps deployment (Unpaid deployment caseId terms) (executeRetry deployment segment) := by
  refine keeps_check fun _ => keeps_stored fun own now holds => ⟨holds, fun case read => ?_⟩
  have known := (holds.got read).1
  refine keeps_check fun _ => keeps_now.bind fun instant => ?_
  refine keeps_call fun own now holds => ⟨holds, ?_⟩
  split
  · exact keeps_escalateDistressed known
  · refine keeps_call fun own now holds => ⟨holds, ?_⟩
    split
    · exact keeps_throw _
    · refine keeps_now.bind fun due => keeps_check fun _ => ?_
      exact keeps_commitDecision known segment _

end Executor

-----------------------------------------------------------------------------------------
-- Exactly when a paid case stays closed
-----------------------------------------------------------------------------------------

/-- Workers that start on Postgres stay on it. -/
theorem Workers.postgres_run (deployment : Deployment) (events : List Workers.Event)
    : ∃ store, ((Workers.start true).run deployment events).shared.store = .postgres store := by
  have keeps (workers : Workers Unit) (event : Workers.Event)
      (behind : workers.shared.store.isInMemory = false)
      : (workers.handle deployment event).shared.store.isInMemory = false := by
    cases event with
    | call worker job => exact behind
    | step i =>
        rcases Pool.step_cases (World.shares deployment) workers i with same | ⟨own, op, _, _, step⟩
        · exact (congrArg (·.shared.store.isInMemory) same).trans behind
        · refine (congrArg (·.shared.store.isInMemory) step).trans ?_
          exact (World.answer_isInMemory deployment op ⟨own, workers.shared⟩).trans behind
    | reorder cases decisions =>
        exact (workers.shared.store.isInMemory_reorder cases decisions).trans behind
  have behind := @Run.keeps _ _ (Workers.handle deployment) (Workers.start true)
    (·.shared.store.isInMemory = false) rfl keeps events
  unfold Workers.run
  generalize (events.foldl (Workers.handle deployment) (Workers.start true)).shared.store = store
    at behind ⊢
  cases store with
  | inMemory store => cases behind
  | postgres store => exact ⟨store, rfl⟩

namespace Rivals

variable {deployment : Deployment} {rivals : Rivals} {shared : Shared}

/-- Where the delivery does not pay, a case that is not paid at first is never paid. -/
theorem staysClosed_of_unfit {terms : List (String × String × Int × Option Bucket)}
    (holds : Unpaid deployment rivals.caseId.text terms shared)
    (unfit : ¬ rivals.Pays deployment shared)
    : rivals.StaysClosed deployment shared := by
  have preorder : IsPreorder Shared fun now later =>
      Unpaid deployment rivals.caseId.text terms now
      → Unpaid deployment rivals.caseId.text terms later :=
    { refl := fun _ => id, trans := fun _ _ _ first second => second ∘ first }
  intro before after
  have along := kept_along (payer_keepsUnpaid holds unfit)
    ((keeps_executeRetry rivals.caseId rivals.executor shared holds).mono fun _ _ _ _ => trivial)
    (fun _ _ kept => ⟨kept, kept⟩) (fun _ _ kept => ⟨kept, kept⟩) before after
  intro paid case stored closed
  rw [(along.1 holds).unpaid case stored] at closed
  cases closed

/-- A paid case stays closed exactly if the retry does not get past its checks, or the
delivery does not pay for the case.
-/
theorem staysClosed_iff (deployment : Deployment) (events : List Workers.Event)
    (rivals : Rivals)
    : rivals.StaysClosed deployment ((Workers.start true).run deployment events).shared
      ↔ ¬ (rivals.Fires deployment ((Workers.start true).run deployment events).shared
        ∧ rivals.Pays deployment ((Workers.start true).run deployment events).shared) := by
  have sound := (Workers.sound_run deployment true events).shared
  obtain ⟨store, postgres⟩ := Workers.postgres_run deployment events
  generalize ((Workers.start true).run deployment events).shared = shared at sound postgres ⊢
  constructor
  · exact fun closed both => not_staysClosed sound.log both.1 both.2 closed
  · intro apart
    by_cases fires : rivals.Fires deployment shared
    · obtain ⟨_, case, stored, scheduled, _⟩ := id fires
      refine staysClosed_of_unfit ⟨sound, ⟨store, postgres, rfl⟩, fun row stored' => ?_⟩
        fun pays => apart ⟨fires, pays⟩
      cases stored.symm.trans stored'
      rw [scheduled]
      rfl
    · exact staysClosed_of_held fires

/-- The first failure of a case and its notice, handled one after the other. -/
def noticing : List Workers.Event :=
  [.call ⟨demoClock, .new, []⟩ (.request (timeout "pay_2"))] ++ List.replicate 30 (.step 0)
    ++ [.call ⟨demoClock, .new, []⟩ (.request (.sendNotice ⟨"pay_2", firstPayment_noSlash⟩ ⟨false, 0⟩))]
    ++ List.replicate 30 (.step 1)

/-- The payment of that case in full, and its retry four days later. -/
def racing : Rivals where
  payer := ⟨demoClock, .new, []⟩
  delivery := .simulated
    { paymentId := "pay_3", amountPaise := 50000, mandateId := some "mandate_1",
      amountPaise_pos := fiveHundredRupees_pos }
  executor := ⟨{ demoClock with offset := hours 96 }, .new, []⟩
  caseId := ⟨"pay_2", firstPayment_noSlash⟩

/-- A case that is paid in full does not always stay closed: the retry has read it before. -/
theorem staysClosed_not_always
    : ¬ ∀ (deployment : Deployment) (events : List Workers.Event) (rivals : Rivals),
        rivals.Pays deployment ((Workers.start true).run deployment events).shared
        → rivals.StaysClosed deployment ((Workers.start true).run deployment events).shared := by
  intro claimed
  have sound := (Workers.sound_run demoDeployment true noticing).shared.log
  have closed := claimed demoDeployment noticing racing (by decide +kernel)
  exact not_staysClosed sound (by decide +kernel) (by decide +kernel) closed

end Rivals

end RecoveryAgent
