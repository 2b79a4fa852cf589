import RecoveryAgent.Service.Filing

/-! Which operations the handlers issue.
Most handlers neither commit nor write decisions or failures. The few that do are left to the
modules that say which commits, decisions and failures they make.
-/

namespace RecoveryAgent

open StateMachine

/-- Neither a commit nor a write of a decision or a failure. -/
def Op.Plain : Op → Prop
  | .commitEffect _ _ _ => False
  | .recordFailure _ => False
  | .recordRetryDecision _ => False
  | .updateRetryDecision _ => False
  | _ => True

/-- An operation that writes neither a case nor an entry nor a decision, and commits nothing. -/
def Op.Quiet : Op → Prop
  | .createCase _ => False
  | .updateCase _ => False
  | .insertAudit _ => False
  | .recordFailure _ => True
  | op => op.Plain

theorem Op.Quiet.plain_or {op : Op} (quiet : op.Quiet)
    : op.Plain ∨ ∃ event, op = .recordFailure event := by
  cases op with
  | recordFailure event => exact .inr ⟨event, rfl⟩
  | createCase | updateCase | insertAudit => exact quiet.elim
  | _ => exact .inl quiet

/-- A statement of an append, and if it is the insert, of one of the entries. -/
def Op.Appends (entries : List AuditEntry) : Op → Prop
  | .nextSequence => True
  | .lastEntryHash _ => True
  | .insertAudit logged => ∃ entry ∈ entries, logged.bare = entry.bare
  | _ => False

theorem Op.Appends.plain {entries : List AuditEntry} {op : Op} (appends : op.Appends entries)
    : op.Plain := by
  cases op with
  | nextSequence | lastEntryHash | insertAudit => trivial
  | _ => exact appends.elim

namespace Handler

variable {α β : Type} {ok : Op → Prop}

-----------------------------------------------------------------------------------------
-- Rules
-----------------------------------------------------------------------------------------

/-- Whatever the handler is answered, it issues permitted operations only. -/
def Issues (ok : Op → Prop) (handler : Handler α) : Prop := Program.Uses ok handler.run

theorem issues_pure (value : α) : Issues ok (pure value) := Program.uses_pure _ _

theorem issues_throw (raised : Raised) : Issues ok (throw raised : Handler α) :=
  Program.uses_pure _ _

theorem Issues.bind {handler : Handler α} {next : α → Handler β} (first : Issues ok handler)
    (rest : ∀ value, Issues ok (next value))
    : Issues ok (handler >>= next) := by
  unfold Issues
  rw [ExceptT.run_bind]
  refine Program.Uses.bind first fun result => ?_
  cases result with
  | ok value => exact rest value
  | error raised => exact issues_throw raised

theorem Issues.mono {ok' : Op → Prop} {handler : Handler α} (issues : Issues ok handler)
    (implies : ∀ op, ok op → ok' op)
    : Issues ok' handler :=
  Program.Uses.mono issues implies

theorem issues_call {op : Op} (permitted : ok op) : Issues ok (call op) :=
  Program.uses_request.mpr ⟨permitted, fun _ => Program.uses_pure _ _⟩

theorem issues_orRaise (reply : Except StoreException α) : Issues ok (orRaise reply) := by
  cases reply with
  | ok value => exact issues_pure value
  | error raised => exact issues_throw _

/-- A store call that raises what it is answered. -/
theorem issues_stored {op : Op} (permitted : ok op)
    {reply : Res op → Except StoreException α}
    : Issues ok (do orRaise (reply (← call op))) :=
  .bind (issues_call permitted) fun _ => issues_orRaise _

theorem issues_adapt {handler : Handler α} (f : Raised → Raised) (issues : Issues ok handler)
    : Issues ok (ExceptT.adapt f handler) := by
  unfold Issues ExceptT.adapt
  rw [ExceptT.run_mk]
  exact Program.Uses.bind issues fun _ => Program.uses_pure _ _

theorem issues_swallow {handler : Handler Unit} (issues : Issues ok handler)
    : Issues ok (swallow handler) :=
  Program.Uses.bind issues fun _ => Program.uses_pure _ _

theorem issues_lift {handler : Handler α} (issues : Issues ok handler)
    : Issues ok (ExceptT.lift handler.run) := by
  unfold Issues ExceptT.lift
  rw [ExceptT.run_mk]
  exact Program.Uses.bind issues fun _ => Program.uses_pure _ _

/-- A check that refuses the request issues nothing. -/
theorem issues_check {c : Prop} [Decidable c] {status : Nat} {message : String}
    {unreached : PUnit → Handler α} {rest : Handler α} (passed : Issues ok rest)
    : Issues ok (if c then refuse status message >>= unreached else rest) := by
  split
  · exact Program.uses_pure _ _
  · exact passed

/-- It issues permitted operations only, and what it returns is of a kind. -/
def Returns (ok : Op → Prop) (kind : α → Prop) (handler : Handler α) : Prop :=
  Program.Follows (Program.permits ok) (fun result _ => ∀ value, result = .ok value → kind value)
    ⟨⟩ handler.run

theorem returns_pure {kind : α → Prop} {value : α} (holds : kind value)
    : Returns ok kind (pure value) := by
  rintro _ ⟨⟩
  exact holds

theorem returns_throw (kind : α → Prop) (raised : Raised)
    : Returns ok kind (throw raised : Handler α) := nofun

/-- One operation, and what follows its reply. -/
theorem returns_call {kind : α → Prop} {op : Op} {next : Res op → Handler α} (permitted : ok op)
    (returns : ∀ reply, Returns ok kind (next reply))
    : Returns ok kind (call op >>= next) :=
  Program.follows_request.mpr ⟨permitted, fun reply _ => returns reply⟩

/-- A value of the kind is all the continuation has to care for. -/
theorem Returns.bind {kind : α → Prop} {handler : Handler α} {next : α → Handler β}
    (first : Returns ok kind handler) (rest : ∀ value, kind value → Issues ok (next value))
    : Issues ok (handler >>= next) := by
  unfold Issues
  rw [ExceptT.run_bind]
  refine Program.Follows.bind first fun result _ ends => ?_
  cases result with
  | ok value => exact rest value (ends value rfl)
  | error raised => exact @issues_throw β ok raised

-----------------------------------------------------------------------------------------
-- Plain calls
-----------------------------------------------------------------------------------------

theorem issues_now : Issues Op.Plain now := .bind (issues_call trivial) fun _ => issues_pure _

theorem issues_getCase (caseId : String) : Issues Op.Plain (getCase caseId) :=
  issues_stored trivial

theorem issues_updateCase (case : RecoveryCase) : Issues Op.Plain (updateCase case) :=
  issues_stored trivial

theorem appends_appendAudit {entries : List AuditEntry} {entry : AuditEntry}
    (member : entry ∈ entries)
    : Issues (Op.Appends entries) (appendAudit entry) := by
  unfold appendAudit
  have insert (sequenceId : Nat)
      : Issues (Op.Appends entries) (do
          let prevHash ← call (.lastEntryHash entry.caseId)
          orRaise (← call (.insertAudit
            ({ entry with sequenceId := some sequenceId }.linked prevHash)))) :=
    .bind (issues_call trivial) fun _ =>
      .bind (issues_call ⟨entry, member, rfl⟩) fun _ => issues_orRaise _
  cases entry.sequenceId with
  | some sequenceId => exact insert sequenceId
  | none => exact .bind (issues_call trivial) insert

/-- A loop of appends, by induction over the entries. -/
theorem appends_appendAll {among entries : List AuditEntry} (within : entries ⊆ among)
    : Issues (Op.Appends among) (appendAll entries) := by
  induction entries with
  | nil => exact issues_pure _
  | cons entry rest ih =>
      obtain ⟨member, later⟩ := List.cons_subset.mp within
      exact .bind (appends_appendAudit member) fun _ => ih later

theorem issues_appendAudit (entry : AuditEntry) : Issues Op.Plain (appendAudit entry) :=
  (appends_appendAudit (List.mem_singleton_self entry)).mono fun _ appends => appends.plain

theorem issues_appendAll (entries : List AuditEntry) : Issues Op.Plain (appendAll entries) :=
  (appends_appendAll (List.Subset.refl entries)).mono fun _ appends => appends.plain

-----------------------------------------------------------------------------------------
-- Plain handlers
-----------------------------------------------------------------------------------------

variable (config : AppConfig)

section Failures

variable (quiet : ∀ op, op.Quiet → ok op)

include quiet

/-- What the state machine makes of a failure is returned, or raised. -/
theorem returns_handleFailure (existing : Option RecoveryCase) (event : PaymentFailureEvent)
    : Returns ok
        (fun done => ∃ clock, handlePaymentFailed existing event config clock = .ok done)
        (handleFailure config existing event) := by
  refine returns_call (quiet _ trivial) fun clock => ?_
  cases existing with
  | none =>
      dsimp only
      split
      · next done handled => exact returns_pure ⟨clock, handled⟩
      · exact returns_throw _ _
  | some case =>
      dsimp only
      split
      · next event' entries handled =>
          refine returns_pure ⟨clock, ?_⟩
          simp only [handlePaymentFailed, handled]
          rfl
      · exact returns_call (quiet _ trivial) fun _ => returns_throw _ _

/-- What follows a parsed failure: the case and the entries that were made of it are written. -/
theorem issues_handled (existing : Option RecoveryCase) (event : PaymentFailureEvent)
    (writes
      : ∀ clock case event' entries,
          handlePaymentFailed existing event config clock = .ok (case, event', entries)
          → ok (.createCase case) ∧ ok (.updateCase case)
            ∧ ∀ op, op.Appends entries → ok op)
    : Issues ok (do
        let (case, event, entries) ← handleFailure config existing event
        ExceptT.adapt storeConflict do
          match existing with
          | none => createCase case
          | some _ => updateCase case
          recordFailure event
          appendAll entries
        if existing.isNone then
          recordDistress case.instrumentId (← now)
        return (case, event)) := by
  refine (returns_handleFailure config quiet existing event).bind fun done handled => ?_
  obtain ⟨case, event', entries⟩ := done
  obtain ⟨clock, handled⟩ := handled
  obtain ⟨creates, updates, appends⟩ := writes clock case event' entries handled
  have written : Issues ok (do recordFailure event'; appendAll entries) :=
    .bind (issues_stored (quiet (.recordFailure event') trivial)) fun _ =>
      (appends_appendAll (List.Subset.refl entries)).mono appends
  cases existing with
  | none =>
      refine .bind (issues_adapt _ (.bind (issues_stored creates) fun _ => written)) fun _ => ?_
      refine .bind (.bind (issues_call (quiet _ trivial)) fun _ => issues_pure _) fun _ => ?_
      exact .bind (issues_call (quiet _ trivial)) fun _ => issues_pure _
  | some stored =>
      refine .bind (issues_adapt _ (.bind (issues_stored updates) fun _ => written)) fun _ => ?_
      exact issues_pure _

theorem issues_ingestFailure (entity : PaymentEntity) (existing : Option RecoveryCase)
    (detail : PyError → Detail)
    (writes
      : ∀ event clock case event' entries,
          handlePaymentFailed existing event config clock = .ok (case, event', entries)
          → ok (.createCase case) ∧ ok (.updateCase case)
            ∧ ∀ op, op.Appends entries → ok op)
    : Issues ok (ingestFailure config entity existing detail) := by
  unfold ingestFailure
  cases existing with
  | none =>
      refine .bind (issues_pure _) fun attempt => ?_
      dsimp only
      cases parsePaymentFailed entity none attempt with
      | error raised => exact issues_throw _
      | ok event => exact issues_handled config quiet none event (writes event)
  | some case =>
      refine .bind (issues_call (quiet _ trivial)) fun attempts =>
        .bind (issues_pure _) fun attempt => ?_
      dsimp only
      cases parsePaymentFailed entity (some case) attempt with
      | error raised => exact issues_throw _
      | ok event => exact issues_handled config quiet (some case) event (writes event)

theorem issues_lookupMandate (mandateId : Option String)
    : Issues ok (lookupMandate mandateId) := by
  unfold lookupMandate
  split
  · exact issues_pure _
  · split
    · exact issues_pure _
    · exact issues_call (quiet _ trivial)

/-- A failure delivery writes what the state machine makes of the failure, and nothing else. -/
theorem issues_failure (deployment : Deployment) (delivery : FailureDelivery)
    (writes
      : ∀ existing event clock case event' entries,
          handlePaymentFailed existing event deployment.config clock = .ok (case, event', entries)
          → ok (.createCase case) ∧ ok (.updateCase case)
            ∧ ∀ op, op.Appends entries → ok op)
    : Issues ok (delivery.request.handler deployment) := by
  cases delivery with
  | webhook signed entity =>
      refine issues_check (issues_check (.bind (issues_call (quiet _ trivial)) fun recorded => ?_))
      cases recorded with
      | some attempt => exact issues_pure _
      | none =>
          refine .bind (issues_lookupMandate quiet _) fun existing => ?_
          refine .bind (issues_ingestFailure _ quiet _ existing _ (writes existing)) fun _ => ?_
          exact issues_pure _
  | simulated request =>
      refine issues_check (.bind (issues_lookupMandate quiet _) fun existing => ?_)
      refine .bind (issues_ingestFailure _ quiet _ existing _ (writes existing)) fun _ => ?_
      exact issues_pure _

end Failures

theorem issues_openCase (mandateId : String) : Issues Op.Plain (openCase mandateId) := by
  refine .bind (issues_call trivial) fun found => ?_
  cases found with
  | none => exact issues_throw _
  | some case => exact issues_pure _

theorem issues_settleSuccess (case : RecoveryCase) (event : PaymentSuccessEvent)
    (adapt : Raised → Raised)
    : Issues Op.Plain (settleSuccess case event adapt) := by
  refine .bind (issues_call trivial) fun clock => ?_
  refine .bind (issues_adapt adapt ?_) fun _ => issues_pure _
  exact .bind (issues_updateCase _) fun _ => issues_appendAll _

theorem issues_applyEffect (case : RecoveryCase) (effect : Effect)
    : Issues Op.Plain (applyEffect case effect) := by
  unfold applyEffect
  split
  · exact issues_pure _
  · refine .bind (issues_updateCase _) fun _ => .bind issues_now fun _ => ?_
    exact .bind (issues_appendAudit _) fun _ => issues_pure _

/-- The loop of a heal, by induction over the effects. -/
theorem issues_healFrom (caseId : String) (effects : List Effect)
    : Issues Op.Plain (healFrom caseId effects) := by
  induction effects with
  | nil => exact issues_pure _
  | cons effect rest ih =>
      exact .bind (issues_getCase caseId) fun case =>
        .bind (issues_applyEffect case effect) fun _ => ih

theorem issues_reconcileCase (useEtcd : Bool) (caseId : String)
    : Issues Op.Plain (reconcileCase useEtcd caseId) := by
  unfold reconcileCase
  split
  · exact issues_swallow (.bind (issues_call trivial) fun _ => issues_healFrom caseId _)
  · exact issues_pure _

/-- The loop of a start-up, likewise. -/
theorem issues_healAllFrom (healed : Nat) (effects : List Effect)
    : Issues Op.Plain (healAllFrom healed effects) := by
  induction effects generalizing healed with
  | nil => exact issues_pure _
  | cons effect rest ih =>
      refine .bind (issues_lift (issues_getCase _)) fun got => ?_
      cases got with
      | error raised => exact ih healed
      | ok case =>
          dsimp only
          split
          · exact ih healed
          · refine .bind (issues_lift (issues_applyEffect case effect)) fun applied => ?_
            cases applied with
            | ok case => exact ih (healed + 1)
            | error raised => exact issues_pure _

theorem issues_reconcileAll (useEtcd : Bool) : Issues Op.Plain (reconcileAll useEtcd) := by
  unfold reconcileAll
  split
  · exact .bind (issues_call trivial) fun effects => issues_healAllFrom 0 effects
  · exact issues_pure _

theorem issues_escalateDistressed (case : RecoveryCase)
    : Issues Op.Plain (escalateDistressed case) := by
  refine .bind (issues_updateCase _) fun _ => .bind issues_now fun _ => ?_
  exact .bind (issues_appendAudit _) fun _ => issues_throw _

theorem issues_resolveEscalation (segment : PathSegment) (note : String)
    : Issues Op.Plain (resolveEscalation config segment note) := by
  refine issues_check (.bind (issues_getCase _) fun case => issues_check ?_)
  split
  · exact issues_throw _
  · refine .bind (issues_updateCase _) fun _ => .bind issues_now fun _ => ?_
    exact .bind (issues_appendAudit _) fun _ => issues_pure _

theorem issues_operate (caseId : String) (operation : Operation)
    : Issues Op.Plain (operate config caseId operation) := by
  refine .bind (issues_getCase caseId) fun case => .bind (issues_call trivial) fun clock => ?_
  exact .bind (issues_updateCase _) fun _ => issues_appendAll _

-----------------------------------------------------------------------------------------
-- Requests
-----------------------------------------------------------------------------------------

/-- `send_notice` records a decision that the state machine made for a notice. -/
theorem issues_sendNotice (plain : ∀ op, op.Plain → ok op)
    (records
      : ∀ (case : RecoveryCase) (clock : Clock) (suggest : Suggest)
          (entries : List AuditEntry) (decision : RetryDecision),
          (markNoticeSent case config clock none none (some suggest)).result
            = .ok (entries, decision)
          → ok (.recordRetryDecision decision))
    (segment : PathSegment) (draw : Draw)
    : Issues ok (sendNotice config segment draw) := by
  refine issues_check (.bind (issues_now.mono plain) fun instant => issues_check ?_)
  refine .bind ((issues_getCase _).mono plain) fun case => issues_check ?_
  refine .bind (issues_call (plain _ trivial)) fun clock => ?_
  dsimp only
  split
  · exact .bind (issues_call (plain _ trivial)) fun _ => issues_throw _
  · next sent =>
      refine .bind ((issues_updateCase _).mono plain) fun _ => ?_
      refine .bind ((issues_appendAll _).mono plain) fun _ => ?_
      exact .bind (issues_stored (records _ _ _ _ _ sent)) fun _ => issues_pure _

/-- An execution commits the effect of a decision under its attempt, and updates the decision. -/
theorem issues_executeRetry (deployment : Deployment) (plain : ∀ op, op.Plain → ok op)
    (segment : PathSegment)
    (commits
      : ∀ decision now,
          ok (.commitEffect segment.text decision.attemptNumber
            (retryEffect segment.text decision now)))
    (updates : ∀ decision, ok (.updateRetryDecision decision))
    : Issues ok (executeRetry deployment segment) := by
  have committed (case : RecoveryCase) (decision : RetryDecision)
      : Issues ok (commitDecision deployment case segment.text decision) := by
    refine .bind (issues_now.mono plain) fun instant => ?_
    refine .bind (issues_call (commits decision instant)) fun approved => ?_
    rcases approved with raised | _ | _
    · exact issues_throw _
    · exact .bind ((issues_reconcileCase _ _).mono plain) fun _ => issues_throw _
    · refine .bind ((issues_applyEffect case _).mono plain) fun _ => ?_
      exact .bind (issues_stored (updates decision)) fun _ => issues_pure _
  refine issues_check (.bind ((issues_getCase _).mono plain) fun case => issues_check ?_)
  refine .bind (issues_now.mono plain) fun instant =>
    .bind (issues_call (plain _ trivial)) fun distressed => ?_
  split
  · exact (issues_escalateDistressed case).mono plain
  · refine .bind (issues_call (plain _ trivial)) fun pending => ?_
    split
    · exact issues_throw _
    · exact .bind (issues_now.mono plain) fun due => issues_check (committed case _)

/-- Every other request but an execution is plain. -/
theorem issues_request (deployment : Deployment) (plain : ∀ op, op.Plain → ok op)
    (records
      : ∀ (case : RecoveryCase) (clock : Clock) (suggest : Suggest)
          (entries : List AuditEntry) (decision : RetryDecision),
          (markNoticeSent case deployment.config clock none none (some suggest)).result
            = .ok (entries, decision)
          → ok (.recordRetryDecision decision))
    {request : Request}
    (records_failure
      : ∀ delivery : FailureDelivery,
          request = delivery.request → ∀ event, ok (.recordFailure event))
    (other : ∀ segment, request ≠ .executeRetry segment)
    : Issues ok (request.handler deployment) := by
  have failures (delivery : FailureDelivery) (same : request = delivery.request)
      : Issues ok (delivery.request.handler deployment) := by
    refine issues_failure (fun op quiet => ?_) deployment delivery fun _ _ _ _ _ _ _ =>
      ⟨plain _ trivial, plain _ trivial, fun _ appends => plain _ appends.plain⟩
    rcases quiet.plain_or with simple | ⟨event, rfl⟩
    · exact plain op simple
    · exact records_failure delivery same event
  cases request with
  | executeRetry segment => exact absurd rfl (other segment)
  | sendNotice segment draw => exact issues_sendNotice _ plain records segment draw
  | paymentFailed signed entity => exact failures (.webhook signed entity) rfl
  | simulateFailure request => exact failures (.simulated request) rfl
  | paymentSucceeded signed entity =>
      refine Issues.mono ?_ plain
      refine issues_check (issues_check (.bind (issues_openCase _) fun case => ?_))
      split
      · exact issues_settleSuccess case _ _
      · exact issues_throw _
  | simulateSuccess request =>
      refine Issues.mono ?_ plain
      refine issues_check (issues_check (.bind (issues_openCase _) fun case => ?_))
      refine .bind issues_now fun instant => ?_
      split
      · exact issues_settleSuccess case _ _
      · exact issues_throw _
  | advanceClock delta =>
      refine Issues.mono ?_ plain
      refine issues_check (issues_check (.bind (issues_call trivial) fun moved => ?_))
      split
      · exact .bind issues_now fun _ => issues_pure _
      · exact issues_throw _
  | resolveEscalation segment note => exact (issues_resolveEscalation _ segment note).mono plain
  | recordFailure instrumentId =>
      refine Issues.mono ?_ plain
      refine .bind issues_now fun instant => .bind (issues_call trivial) fun _ => ?_
      refine .bind (issues_call trivial) fun _ => .bind (issues_call trivial) fun _ => ?_
      exact issues_pure _

end Handler

end RecoveryAgent
