import RecoveryAgent.Service.CaseStep

/-! Every request a worker serves is a step of one case, an execution, or a move of the
clock.
-/

namespace RecoveryAgent

open StateMachine

namespace Handler

variable (deployment : Deployment) (config : AppConfig)

/-- A check that refuses the request changes nothing. -/
theorem stepped_check {request : Request} {world : World} (sound : SoundLog world.log)
    {c : Prop} [Decidable c] {α : Type} {status : Nat} {message : String}
    {unreached : PUnit → Handler α} {rest : Handler α}
    (passed : ¬ c → World.Stepped config request world (exec deployment rest world).2)
    : World.Stepped config request world
        (exec deployment (if c then refuse status message >>= unreached else rest) world).2 := by
  by_cases refused : c
  · rw [if_pos refused]
    exact .refl sound
  · rw [if_neg refused]
    exact passed refused

-----------------------------------------------------------------------------------------
-- Success deliveries
-----------------------------------------------------------------------------------------

/-- A success delivery on a stored case writes what the state machine makes of it. -/
theorem exec_settleSuccess_wrote {world : World} {case : RecoveryCase}
    (stored : (world.store.view case.caseId).case = some case) (event : PaymentSuccessEvent)
    (adapt : Raised → Raised)
    : ∃ logged,
        logged.map (·.bare) = (handlePaymentSuccess case event world.clock.view).2
        ∧ world.Wrote (exec deployment (settleSuccess case event adapt) world).2 1 case.caseId
            { world.store.view case.caseId with
              case := some (handlePaymentSuccess case event world.clock.view).1
              trail := (world.store.view case.caseId).trail ++ logged } := by
  have answer := handlePaymentSuccess_answer case deployment.config world.clock.view event
  unfold settleSuccess
  simp only [exec_bind, exec_readClock]
  generalize handlePaymentSuccess case event world.clock.view = handled at answer ⊢
  obtain ⟨case', entries⟩ := handled
  dsimp only at answer ⊢
  have same := answer.sameCase.caseId
  have stored' : ((world.tick 1).store.view case'.caseId).case = some case := by
    rw [same]
    exact stored
  obtain ⟨first, updated, overwrote⟩ := exec_updateCase deployment (world.tick 1) stored'
  obtain ⟨last, logged, appended, bare, added⟩ :=
    @exec_appendAll deployment first case.caseId entries fun entry member =>
      ⟨(answer.entries_plain entry member).2.2.2.2, (answer.entries_plain entry member).1⟩
  rw [same] at overwrote
  have wrote := overwrote.trans added
  have before : first.store.view case.caseId = _ := overwrote.view_eq
  rw [before] at wrote
  simp only [exec_adapt, exec_bind, updated, appended, Except.mapError, exec_pure]
  exact ⟨logged, bare, (World.Wrote.tick world case.caseId 1).trans wrote⟩

/-- A success delivery on a stored case is one answer of the case. -/
theorem exec_settleSuccess {world : World} (sound : SoundLog world.log) {case : RecoveryCase}
    (stored : (world.view case.caseId).case = some case) (event : PaymentSuccessEvent)
    (adapt : Raised → Raised) {request : Request}
    (mismatches : event.amount ≠ case.originalAmount → request.Mismatches world.store case)
    : World.Stepped config request world
        (exec deployment (settleSuccess case event adapt) world).2 := by
  have answer := handlePaymentSuccess_answer case config world.clock.view event
  have flags := handlePaymentSuccess_flags case world.clock.view event
  obtain ⟨logged, bare, wrote⟩ := exec_settleSuccess_wrote deployment stored event adapt
  refine ⟨1, case.caseId, _, wrote.touched sound, ?_⟩
  have step : CaseStep config request world 1 case.caseId _ :=
    .answered Nat.one_pos stored answer (List.prefix_refl _) fun ⟨entry, member, target⟩ =>
      (flags entry member target).imp mismatches id
  simpa [World.view, bare] using step

/-- A case looked up by its mandate is stored; nothing is written for a missing one. -/
theorem exec_openCase (world : World) (mandateId : String)
    : (∃ case,
        (world.view case.caseId).case = some case
        ∧ world.store.findCaseByMandate mandateId = some case
        ∧ exec deployment (openCase mandateId) world = (.ok case, world))
      ∨ ∃ raised, exec deployment (openCase mandateId) world = (.error raised, world) := by
  have looked : exec deployment (findCaseByMandate mandateId) world
      = (.ok (world.store.findCaseByMandate mandateId), world) := rfl
  unfold openCase
  rw [exec_bind, looked]
  cases found : world.store.findCaseByMandate mandateId with
  | none => exact .inr ⟨_, rfl⟩
  | some case => exact .inl ⟨case, CaseStore.findCaseByMandate_view found, rfl, rfl⟩

/-- A parsed capture carries the amount of its payload. -/
theorem parsePaymentCaptured_amount {entity : PaymentEntity} {case : RecoveryCase}
    {event : PaymentSuccessEvent} (parsed : parsePaymentCaptured entity case = .ok event)
    : entity.amount = some event.amount := by
  simp only [parsePaymentCaptured, bind, Except.bind] at parsed
  split at parsed
  swap
  · cases parsed
  split at parsed
  swap
  · cases parsed
  next amount found =>
  split at parsed
  · cases parsed
  split at parsed
  swap
  · cases parsed
  rw [found, (PaymentSuccessEvent.create_eq parsed).2]

/-- `webhook_payment_succeeded` answers the case of the mandate, if it writes at all. -/
theorem exec_webhookPaymentSucceeded {world : World} (sound : SoundLog world.log)
    (signed : Bool) (entity : PaymentEntity)
    : World.Stepped config (.paymentSucceeded signed entity) world
        (exec deployment (webhookPaymentSucceeded signed entity) world).2 := by
  unfold webhookPaymentSucceeded
  refine stepped_check deployment config sound fun _ => ?_
  refine stepped_check deployment config sound fun _ => ?_
  rw [exec_bind]
  rcases exec_openCase deployment world (entity.mandateId.getD "") with
    ⟨case, stored, found, opened⟩ | ⟨raised, refused⟩
  swap
  · rw [refused]
    exact .refl sound
  rw [opened]
  dsimp only
  cases parsed : parsePaymentCaptured entity case with
  | error raised => exact .refl sound
  | ok event =>
      refine exec_settleSuccess deployment config sound stored event storeConflict ?_
      refine fun mismatch => ⟨found, fun same => ?_⟩
      rw [parsePaymentCaptured_amount parsed, Option.some.injEq] at same
      exact mismatch same

/-- `simulate_success` answers the case of the mandate, if it writes at all. -/
theorem exec_simulateSuccess {world : World} (sound : SoundLog world.log)
    (request : SimulateSuccessRequest)
    : World.Stepped config (.simulateSuccess request) world
        (exec deployment (simulateSuccess config request) world).2 := by
  unfold simulateSuccess
  refine stepped_check deployment config sound fun _ => ?_
  refine stepped_check deployment config sound fun _ => ?_
  rw [exec_bind]
  rcases exec_openCase deployment world (request.mandateId.getD "") with
    ⟨case, stored, found, opened⟩ | ⟨raised, refused⟩
  swap
  · rw [refused]
    exact .refl sound
  simp only [opened, exec_bind, exec_now]
  refine @World.Stepped.after _ _ _ _ 1 ?_
  cases created : PaymentSuccessEvent.create case.caseId request.paymentId request.amountPaise
      (world.clock.reading 0) with
  | error raised => exact .refl sound
  | ok event =>
      refine @exec_settleSuccess deployment config (world.tick 1) sound case stored event id _ ?_
      rw [(PaymentSuccessEvent.create_eq created).2]
      exact fun mismatch => ⟨found, mismatch⟩

-----------------------------------------------------------------------------------------
-- Failure deliveries
-----------------------------------------------------------------------------------------

/-- A parsed failure carries the codes of its payload. -/
theorem parsePaymentFailed_codes {entity : PaymentEntity} {existingCase : Option RecoveryCase}
    {attemptNumber : Option Nat} {event : PaymentFailureEvent}
    (parsed : parsePaymentFailed entity existingCase attemptNumber = .ok event)
    : event.reasonCode = entity.errorCode.getD (.str "")
      ∧ event.errorReason = entity.errorReason := by
  unfold parsePaymentFailed at parsed
  by_cases upi : entity.method ≠ some "upi"
  · rw [if_pos upi] at parsed
    cases parsed
  rw [if_neg upi] at parsed
  by_cases inr : entity.currency ≠ some "INR"
  · rw [if_pos inr] at parsed
    cases parsed
  rw [if_neg inr] at parsed
  simp only [bind, Except.bind] at parsed
  repeat' split at parsed
  all_goals cases parsed
  all_goals exact ⟨rfl, rfl⟩

/-- The codes of a simulated failure are text. -/
theorem SimulateFailureRequest.codes (request : SimulateFailureRequest)
    : (Json.str request.errorCode).isCode
      ∧ ((request.errorReason.map Json.str).getD .null).isCode := by
  refine ⟨Json.isCode_str _, ?_⟩
  cases request.errorReason with
  | none => exact Json.isCode_null
  | some reason => exact Json.isCode_str reason

/-- The writes of a delivery, once the state machine has answered: the case row, the payment,
and the entries where the payment was not recorded before.
-/
theorem exec_recordDelivery {world world' : World} {case : RecoveryCase}
    {decisions : List RetryDecision} {trail : List AuditEntry} {handler : Handler Unit}
    (put : exec deployment handler world = (.ok (), world'))
    (wrote : world.Wrote world' 0 case.caseId ⟨some case, decisions, trail⟩)
    (event : PaymentFailureEvent) (entries : List AuditEntry)
    (plain : ∀ entry ∈ entries, entry.Fresh ∧ entry.caseId = case.caseId)
    : ∃ result last logged,
        exec deployment (do handler; recordFailure event; appendAll entries) world
          = (result, last)
        ∧ logged.map (·.bare) <+: entries
        ∧ world.Wrote last 0 case.caseId ⟨some case, decisions, trail ++ logged⟩ := by
  have before := wrote.view_eq
  rcases exec_recordFailure deployment world' event case.caseId with
    ⟨mid, recorded, still⟩ | ⟨raised, refused⟩
  · obtain ⟨last, logged, appended, bare, added⟩ :=
      @exec_appendAll deployment mid case.caseId entries plain
    rw [still.view_eq, before] at added
    refine ⟨.ok (), last, logged, ?_, bare ▸ List.prefix_refl _,
      (wrote.trans still).trans added⟩
    simp only [exec_bind, put, recorded, appended]
  · refine ⟨.error raised, world', [], ?_, List.nil_prefix, by simpa using wrote⟩
    simp only [exec_bind, put, refused]

/-- A failure delivery for a stored case answers it, or has counted its outcome. -/
theorem exec_ingestFailure_existing {world : World} (sound : SoundLog world.log)
    {case : RecoveryCase} (stored : (world.view case.caseId).case = some case)
    {entity : PaymentEntity} (detail : PyError → Detail) {request : Request}
    (unclassifiable
      : ∀ raised,
          classifyFailure config (entity.errorCode.getD (.str "")) entity.errorReason
            = .error raised
          → request.Unclassifiable config world.store case)
    : World.Stepped config request world
        (exec deployment (ingestFailure config entity (some case) detail) world).2 := by
  have attempts : exec deployment (getMaxAttemptNumber case.caseId) world
      = (.ok (world.store.getMaxAttemptNumber case.caseId), world) := rfl
  unfold ingestFailure
  simp only [exec_bind, attempts, exec_pure]
  cases parsed : parsePaymentFailed entity (some case)
      (some (world.store.getMaxAttemptNumber case.caseId + 1)) with
  | error raised => exact .refl sound
  | ok event =>
      simp only [exec_pure, handleFailure, exec_bind, exec_readClock]
      cases handled : (handleExistingFailure case event config world.clock.view).result with
      | error raised =>
          obtain ⟨executed, counted, classified⟩ :=
            handleExistingFailure_raised case config world.clock.view handled
          rw [(parsePaymentFailed_codes parsed).1, (parsePaymentFailed_codes parsed).2]
            at classified
          rw [counted]
          obtain ⟨last, mutated, wrote⟩ := @exec_mutateCase deployment (world.tick 1)
            { case with retriesUsed := case.retriesUsed + 1 } case stored
          simp only [exec_bind, mutated, exec_throw]
          rcases wrote with same | ⟨inMemory, changed⟩
          · exact ⟨1, case.caseId, _, (same.touched sound).after, .same⟩
          · exact ⟨1, case.caseId, _, (changed.touched sound).after,
              .counted inMemory stored executed (unclassifiable raised classified)⟩
      | ok done =>
          obtain ⟨event', entries⟩ := done
          have answer := handleExistingFailure_answer case config world.clock.view handled
          have unflagged := handleExistingFailure_unflagged case config world.clock.view handled
          generalize (handleExistingFailure case event config world.clock.view).case = case'
            at answer ⊢
          have same := answer.sameCase.caseId
          obtain ⟨first, updated, overwrote⟩ :=
            @exec_updateCase deployment (world.tick 1) case' case (by rw [same]; exact stored)
          obtain ⟨result, last, logged, recorded, part, wrote⟩ :=
            exec_recordDelivery deployment updated overwrote event' entries fun entry member =>
              ⟨(answer.entries_plain entry member).2.2.2.2,
                ((answer.entries_plain entry member).1).trans same.symm⟩
          have ended
              : World.Stepped config request world last := by
            rw [same] at wrote
            refine ⟨1, case.caseId, _, (wrote.touched sound).after, ?_⟩
            have step
                : CaseStep config request world 1 case.caseId _ :=
              .answered Nat.one_pos stored answer part fun flagged => by
                obtain ⟨entry, member, target⟩ := flagged
                exact absurd target (unflagged entry member)
            simpa [World.view] using step
          simp only [exec_pure, exec_adapt, recorded]
          cases result with
          | ok _ => exact ended
          | error raised => exact ended

/-- A failure delivery without a case opens one, if it writes at all. -/
theorem exec_ingestFailure_new {world : World} (sound : SoundLog world.log)
    (entity : PaymentEntity) (detail : PyError → Detail) (request : Request)
    : World.Stepped config request world
        (exec deployment (ingestFailure config entity none detail) world).2 := by
  unfold ingestFailure
  simp only [exec_bind, exec_pure]
  cases parsed : parsePaymentFailed entity none none with
  | error raised => exact .refl sound
  | ok event =>
      simp only [exec_pure, handleFailure, exec_bind, exec_readClock]
      cases handled : handleNewFailure event config world.clock.view with
      | error raised => exact .tick sound 1
      | ok done =>
          obtain ⟨case, event', entries⟩ := done
          have opened := handleNewFailure_opened handled
          rcases exec_createCase deployment (world.tick 1) case with
            ⟨first, created, absent, wrote⟩ | ⟨raised, refused⟩
          swap
          · simp only [exec_pure, exec_adapt, exec_bind, refused]
            exact .tick sound 1
          obtain ⟨result, last, logged, recorded, part, wrote⟩ :=
            exec_recordDelivery deployment created wrote event' entries fun entry member =>
              ⟨opened.fresh entry member, opened.entries_named entry member⟩
          have touched := (wrote.touched sound).after
          have step (spent : Nat)
              : CaseStep config request world (1 + spent) case.caseId _ :=
            .opened (by omega) absent opened part
          simp only [exec_pure, exec_adapt, recorded]
          cases result with
          | error raised =>
              refine ⟨1, case.caseId, _, touched, ?_⟩
              simpa [World.view] using step 0
          | ok _ =>
              refine ⟨2, case.caseId, _, touched.before 1
                (last.distress.recordFailure case.instrumentId (last.clock.reading 0)), ?_⟩
              simpa [World.view] using step 1

/-- The case of a mandate is stored, where there is one. -/
theorem exec_lookupMandate (world : World) (mandateId : Option String)
    : ∃ existing,
        exec deployment (lookupMandate mandateId) world = (.ok existing, world)
        ∧ ∀ case, existing = some case
          → (world.view case.caseId).case = some case
            ∧ mandateId.bind world.store.findCaseByMandate = some case := by
  cases mandateId with
  | none => exact ⟨none, rfl, by simp⟩
  | some mandateId =>
      by_cases empty : mandateId = ""
      · exact ⟨none, by simp [lookupMandate, empty], by simp⟩
      · refine ⟨world.store.findCaseByMandate mandateId, ?_, fun case found =>
          ⟨CaseStore.findCaseByMandate_view found, found⟩⟩
        simp only [lookupMandate, if_neg empty]
        rfl

/-- A failure delivery, with or without a case. -/
theorem exec_ingestFailure {world : World} (sound : SoundLog world.log)
    {existing : Option RecoveryCase}
    (stored : ∀ case, existing = some case → (world.view case.caseId).case = some case)
    {entity : PaymentEntity} (detail : PyError → Detail) {request : Request}
    (unclassifiable
      : ∀ case raised,
          existing = some case
          → classifyFailure config (entity.errorCode.getD (.str "")) entity.errorReason
            = .error raised
          → request.Unclassifiable config world.store case)
    : World.Stepped config request world
        (exec deployment (ingestFailure config entity existing detail) world).2 := by
  cases existing with
  | none => exact exec_ingestFailure_new deployment config sound entity detail request
  | some case =>
      exact exec_ingestFailure_existing deployment config sound (stored case rfl) detail
        fun raised => unclassifiable case raised rfl

/-- What follows a handler without asking for anything leaves the world as it is. -/
theorem exec_bind_pure {α β : Type} (world : World) (handler : Handler α) (result : α → β)
    : (exec deployment (do let value ← handler; pure (result value)) world).2
      = (exec deployment handler world).2 := by
  rw [exec_bind]
  rcases exec deployment handler world with ⟨_ | _, _⟩ <;> rfl

/-- `webhook_payment_failed` opens or answers a case, if it writes at all. -/
theorem exec_webhookPaymentFailed {world : World} (sound : SoundLog world.log)
    (signed : Bool) (entity : PaymentEntity)
    : World.Stepped config (.paymentFailed signed entity) world
        (exec deployment (webhookPaymentFailed config signed entity) world).2 := by
  have looked (paymentId : String)
      : exec deployment (findAttemptByPaymentId paymentId) world
        = (.ok (world.store.findAttemptByPaymentId paymentId), world) := rfl
  unfold webhookPaymentFailed
  refine stepped_check deployment config sound fun _ => ?_
  refine stepped_check deployment config sound fun _ => ?_
  rw [exec_bind, looked]
  dsimp only
  cases world.store.findAttemptByPaymentId (entity.id.getD "") with
  | some attempt => exact .refl sound
  | none =>
      obtain ⟨existing, found, stored⟩ := exec_lookupMandate deployment world entity.mandateId
      dsimp only
      rw [exec_bind, found]
      dsimp only
      rw [exec_bind_pure]
      exact exec_ingestFailure deployment config sound (fun case same => (stored case same).1) _
        fun case raised same failed => ⟨(stored case same).2, raised, failed⟩

/-- `simulate_failure` opens or answers a case, if it writes at all. -/
theorem exec_simulateFailure {world : World} (sound : SoundLog world.log)
    (request : SimulateFailureRequest)
    : World.Stepped config (.simulateFailure request) world
        (exec deployment (simulateFailure config request) world).2 := by
  unfold simulateFailure
  refine stepped_check deployment config sound fun _ => ?_
  obtain ⟨existing, found, stored⟩ := exec_lookupMandate deployment world request.mandateId
  rw [exec_bind, found]
  dsimp only
  rw [exec_bind_pure]
  exact exec_ingestFailure deployment config sound (fun case same => (stored case same).1) _
    fun case raised same failed => ⟨(stored case same).2, raised, failed⟩

-----------------------------------------------------------------------------------------
-- Notices and resolutions
-----------------------------------------------------------------------------------------

/-- The case and the entries of a notice that was sent are written before its decision is. -/
theorem exec_noticed {world : World} {case case' : RecoveryCase} {clock : Clock}
    {previous : Option Datetime} {bandit : Option Suggest} {entries : List AuditEntry}
    {decision : RetryDecision} (stored : (world.store.view case.caseId).case = some case)
    (sent : Noticed case config clock previous bandit case' entries decision)
    : ∃ written logged,
        logged.map (·.bare) = entries
        ∧ world.Wrote written 0 case.caseId
            { world.store.view case.caseId with
              case := some case'
              trail := (world.store.view case.caseId).trail ++ logged }
        ∧ exec deployment (do
              updateCase case'
              appendAll entries
              recordRetryDecision decision
              return Response.ofCase case') world
          = exec deployment (do
              recordRetryDecision decision
              return Response.ofCase case') written := by
  have named : case'.caseId = case.caseId := by rw [sent.case_eq]
  have fresh : ∀ entry ∈ entries, entry.Fresh ∧ entry.caseId = case.caseId := by
    rw [sent.entries_eq]
    simp [noticeEntries, AuditEntry.Fresh, AuditEntry.bare, audit]
  obtain ⟨first, updated, overwrote⟩ :=
    @exec_updateCase deployment world case' case (by rw [named]; exact stored)
  obtain ⟨written, logged, appended, bare, added⟩ := exec_appendAll deployment first entries fresh
  rw [named] at overwrote
  rw [overwrote.view_eq] at added
  refine ⟨written, logged, bare, overwrote.trans added, ?_⟩
  rw [exec_bind, updated]
  dsimp only
  rw [exec_bind, appended]

/-- `send_notice` sends the notice of a pending case and decides its retry. -/
theorem exec_sendNotice {world : World} (sound : SoundLog world.log) (caseId : PathSegment)
    (draw : Draw)
    : World.Stepped config (.sendNotice caseId draw) world
        (exec deployment (sendNotice config caseId draw) world).2 := by
  unfold sendNotice
  refine stepped_check deployment config sound fun demo => ?_
  have demo := not_not.mp demo
  rw [exec_bind, exec_now]
  dsimp only
  refine @World.Stepped.after _ _ _ _ 1 ?_
  have ticked : SoundLog (world.tick 1).log := sound
  refine stepped_check deployment config ticked fun _ => ?_
  rw [exec_bind]
  rcases exec_getCase deployment (world.tick 1) caseId.text with
    ⟨case, stored, got⟩ | ⟨absent, raised, got⟩
  swap
  · rw [got]
    exact .refl sound
  rw [got]
  dsimp only
  have id_eq := CaseStore.view_caseId stored
  rw [← id_eq] at stored
  refine stepped_check deployment config ticked fun pending => ?_
  have pending := not_not.mp pending
  rw [exec_bind, exec_readClock]
  dsimp only
  cases result
    : (markNoticeSent case config (world.tick 1).clock.view none none
        (some (slotBandit.suggestFrom draw))).result with
  | error raised =>
      rcases markNoticeSent_raised case config (world.tick 1).clock.view result with
        ⟨elsewhere, _⟩ | ⟨_, noticed⟩
      · exact absurd pending elsewhere
      obtain ⟨last, mutated, wrote⟩ := @exec_mutateCase deployment ((world.tick 1).tick 2)
        { case with state := .noticeSent } case stored
      rw [noticed]
      simp only [exec_bind, mutated, exec_throw]
      rcases wrote with same | ⟨_, changed⟩
      · exact ⟨2, case.caseId, _, (same.touched ticked).after, .same⟩
      · exact ⟨2, case.caseId, _, (changed.touched ticked).after, .noticeLost stored pending⟩
  | ok done =>
      obtain ⟨entries, decision⟩ := done
      have sent := markNoticeSent_ok case config (world.tick 1).clock.view result
      have decided := Scheduled.ofNoticed sent
      obtain ⟨written, logged, bare, noticed, run⟩ := @exec_noticed deployment config
        ((world.tick 1).tick 2) _ _ _ _ _ _ _ stored sent
      dsimp only
      rw [run, exec_bind_pure]
      have named := sent.caseId
      rw [sent.entries_eq] at bare
      rw [sent.case_eq] at noticed
      rcases exec_recordRetryDecision deployment written decision with
        ⟨last, recorded, fresh, wrote⟩ | ⟨taken, raised, refused⟩
      · rw [named, noticed.view_eq] at fresh wrote
        rw [recorded]
        refine ⟨2, case.caseId, _, ((noticed.trans wrote).touched ticked).after, ?_⟩
        have step : CaseStep config (.sendNotice caseId draw) (world.tick 1) 2 case.caseId
            _ :=
          .noticed demo Nat.one_lt_two stored pending decided fresh
        simpa [World.view, bare] using step
      · rw [named, noticed.view_eq] at taken
        rw [refused]
        refine ⟨2, case.caseId, _, (noticed.touched ticked).after, ?_⟩
        have step : CaseStep config (.sendNotice caseId draw) (world.tick 1) 2 case.caseId
            _ :=
          .noticedAgain demo Nat.one_lt_two stored pending decided taken
        simpa [World.view, bare] using step

/-- `resolve_escalation` closes an escalated case. -/
theorem exec_resolveEscalation {world : World} (sound : SoundLog world.log)
    (caseId : PathSegment) (note : String)
    : World.Stepped config (.resolveEscalation caseId note) world
        (exec deployment (resolveEscalation config caseId note) world).2 := by
  unfold resolveEscalation
  refine stepped_check deployment config sound fun _ => ?_
  rw [exec_bind]
  rcases exec_getCase deployment world caseId.text with
    ⟨case, stored, got⟩ | ⟨absent, raised, got⟩
  swap
  · rw [got]
    exact .refl sound
  rw [got]
  dsimp only
  have id_eq := CaseStore.view_caseId stored
  rw [← id_eq] at stored
  refine stepped_check deployment config sound fun escalated => ?_
  have escalated := not_not.mp escalated
  cases parseResolutionNote note with
  | none => exact .refl sound
  | some resolution =>
      obtain ⟨first, updated, overwrote⟩ := @exec_updateCase deployment world
        { case with state := .resolvedByHuman, resolutionNote := some resolution } case stored
      have ticked := World.Wrote.tick first case.caseId 1
      obtain ⟨last, logged, appended, bare, added⟩ := exec_appendAudit deployment (first.tick 1)
        (show (humanResolution case.caseId (first.clock.reading 0)).Fresh from rfl)
      have wrote := (overwrote.trans ticked).trans added
      have before : first.store.view case.caseId = _ := overwrote.view_eq
      simp only [humanResolution, World.tick_store, before] at wrote
      simp only [exec_bind, updated, exec_now, appended, exec_pure]
      refine ⟨1, case.caseId, _, wrote.touched sound, ?_⟩
      have step := @CaseStep.resolved config (.resolveEscalation caseId note) world 1
        case.caseId case resolution 0 Nat.one_pos stored escalated
      have reading : first.clock.reading 0 = world.clock.reading 0 := overwrote.reading 0
      simpa [World.view, bare, reading] using step

-----------------------------------------------------------------------------------------
-- The clock and the detector
-----------------------------------------------------------------------------------------

/-- `record_failure` of the admin API feeds the detector and changes nothing that is stored. -/
theorem exec_recordInstrumentFailure {world : World} (sound : SoundLog world.log)
    (instrumentId : String)
    : World.Stepped config (.recordFailure instrumentId) world
        (exec deployment (recordInstrumentFailure instrumentId) world).2 :=
  ⟨1, "", _, (World.Touched.tick sound "" 0).before 1
    (world.distress.recordFailure instrumentId (world.clock.reading 0)), .same⟩

end Handler

-----------------------------------------------------------------------------------------
-- Requests
-----------------------------------------------------------------------------------------

/-- A worker has moved its clock by a positive amount, and nothing else. -/
structure World.Advanced (world world' : World) (delta : Timedelta) : Prop where
  positive : 0 < delta
  clock : world'.clock = { world.clock with
    reads := world.clock.reads + 1, offset := world.clock.offset + delta }
  store : world'.store = world.store
  log : world'.log = world.log

/-- What serving a request does to what is stored. -/
inductive Served (deployment : Deployment) (world world' : World) : Request → Prop where
  | stepped {request : Request}
      (stepped : World.Stepped deployment.config request world world')
    : Served deployment world world' request
  | executed (caseId : Handler.PathSegment)
      (outcome : ExecuteRetryOutcome deployment world world' caseId.text)
    : Served deployment world world' (.executeRetry caseId)
  | advanced {delta : Timedelta} (advanced : world.Advanced world' delta)
    : Served deployment world world' (.advanceClock delta)

/-- `advance_clock` moves the clock of the worker or is refused. -/
theorem Handler.exec_advanceClock (deployment : Deployment) {world : World}
    (sound : SoundLog world.log) (delta : Timedelta)
    : Served deployment world
        (exec deployment (advanceClock deployment.config delta) world).2
        (.advanceClock delta) := by
  have still : Served deployment world world (.advanceClock delta) := .stepped (.refl sound)
  unfold advanceClock
  by_cases demo : deployment.config.profileName ≠ .demo
  · simpa only [if_pos demo, exec_bind, exec_refuse] using still
  rw [if_neg demo]
  by_cases backward : delta ≤ 0
  · simpa only [if_pos backward, exec_bind, exec_refuse] using still
  rw [if_neg backward]
  have asked : exec deployment (advance delta) world
      = (.ok (World.answer deployment (.advanceClock delta) world).1,
        (World.answer deployment (.advanceClock delta) world).2) := rfl
  rw [exec_bind, asked]
  cases moved : world.clock.advance delta with
  | error raised => simpa only [World.answer, moved, exec_throw] using still
  | ok clock =>
      simp only [World.answer, moved, exec_bind, exec_now, exec_pure]
      refine .advanced ⟨not_le.mp backward, ?_, rfl, rfl⟩
      unfold ServiceClock.advance at moved
      split at moved <;> cases moved
      rfl

/-- Every request is served by one of these. -/
theorem Request.served (deployment : Deployment) {world : World} (sound : SoundLog world.log)
    (request : Request)
    : Served deployment world
        (Handler.exec deployment (request.handler deployment) world).2 request := by
  cases request with
  | paymentFailed signed entity =>
      exact .stepped (Handler.exec_webhookPaymentFailed deployment _ sound signed entity)
  | simulateFailure request =>
      exact .stepped (Handler.exec_simulateFailure deployment _ sound request)
  | paymentSucceeded signed entity =>
      exact .stepped (Handler.exec_webhookPaymentSucceeded deployment _ sound signed entity)
  | simulateSuccess request =>
      exact .stepped (Handler.exec_simulateSuccess deployment _ sound request)
  | sendNotice caseId draw =>
      exact .stepped (Handler.exec_sendNotice deployment _ sound caseId draw)
  | executeRetry caseId =>
      exact .executed caseId (Handler.exec_executeRetry deployment world sound caseId)
  | advanceClock delta => exact Handler.exec_advanceClock deployment sound delta
  | resolveEscalation caseId note =>
      exact .stepped (Handler.exec_resolveEscalation deployment _ sound caseId note)
  | recordFailure instrumentId =>
      exact .stepped (Handler.exec_recordInstrumentFailure deployment _ sound instrumentId)

end RecoveryAgent
