import RecoveryAgent.Service.CaseMoves
import RecoveryAgent.Service.Findings
import RecoveryAgent.Service.Serving

/-! Every task acts on its findings.
The handlers are followed once, call by call; what holds of their writes is derived from the
permissions alone.
-/

namespace RecoveryAgent

open StateMachine

namespace Handler

variable {α β : Type} {config : AppConfig} {known : Set Finding}

/-- From what is known on, the handler asks for what is permitted only, and its result fits
what it then knows.
-/
def Cites (config : AppConfig) (known : Set Finding) (handler : Handler α)
    (post : α → Set Finding → Prop)
    : Prop :=
  (findings config).Acts (fun result later => ∀ value, result = .ok value → post value later) known
    handler.run

section Rules

variable {post : α → Set Finding → Prop}

theorem cites_pure {value : α} (ends : post value known)
    : Cites config known (pure value) post := by
  refine Knowledge.acts_pure fun value' same => ?_
  cases same
  exact ends

theorem cites_throw (raised : Raised) : Cites config known (throw raised) post := by
  refine Knowledge.acts_pure fun value same => ?_
  cases same

theorem Cites.bind {mid : β → Set Finding → Prop} {handler : Handler β} {next : β → Handler α}
    (first : Cites config known handler mid)
    (rest
      : ∀ value later, known ⊆ later → mid value later → Cites config later (next value) post)
    : Cites config known (handler >>= next) post := by
  unfold Cites
  rw [ExceptT.run_bind]
  refine Knowledge.Acts.bind first fun result later more ended => ?_
  cases result with
  | ok value => exact rest value later more (ended value rfl)
  | error raised => exact @cites_throw α config later post raised

theorem cites_pure_bind {value : β} {next : β → Handler α}
    (rest : Cites config known (next value) post)
    : Cites config known (pure value >>= next) post :=
  rest

theorem Cites.mono {post' : α → Set Finding → Prop} {handler : Handler α}
    (cites : Cites config known handler post)
    (implies : ∀ value later, known ⊆ later → post value later → post' value later)
    : Cites config known handler post' :=
  Knowledge.Acts.mono cites fun _ later more ended value same =>
    implies value later more (ended value same)

/-- A check that refuses the request asks for nothing. -/
theorem cites_check {c : Prop} [Decidable c] {status : Nat} {message : String}
    {unreached : PUnit → Handler α} {rest : Handler α}
    (passed : ¬ c → Cites config known rest post)
    : Cites config known (if c then refuse status message >>= unreached else rest) post := by
  split
  · exact cites_throw _
  · next held => exact passed held

theorem cites_adapt {handler : Handler α} (f : Raised → Raised)
    (cites : Cites config known handler post)
    : Cites config known (ExceptT.adapt f handler) post := by
  unfold Cites ExceptT.adapt
  rw [ExceptT.run_mk]
  refine Knowledge.Acts.bind cites fun result later _ ended => Knowledge.acts_pure ?_
  intro value same
  cases result with
  | ok value' =>
      cases same
      exact ended _ rfl
  | error raised => cases same

/-- A handler run for its outcome. -/
theorem cites_lift {handler : Handler α} (cites : Cites config known handler post)
    : Cites config known (ExceptT.lift handler.run) fun result later =>
        ∀ value, result = .ok value → post value later := by
  unfold Cites ExceptT.lift
  rw [ExceptT.run_mk]
  refine Knowledge.Acts.bind cites fun result later _ ended => Knowledge.acts_pure ?_
  intro value same
  cases same
  exact ended

theorem cites_swallow {handler : Handler Unit} {post : Unit → Set Finding → Prop}
    (cites : Cites config known handler post)
    : Cites config known (swallow handler) fun _ _ => True :=
  Knowledge.Acts.bind cites fun _ _ _ _ => Knowledge.acts_pure fun _ _ => trivial

/-- One request, and what its reply tells. -/
theorem cites_call {op : Op} (permitted : (findings config).permitted known op)
    : Cites config known (call op) fun reply later =>
        (findings config).learned known op reply ⊆ later := by
  unfold Cites call ExceptT.lift
  rw [ExceptT.run_mk]
  refine Knowledge.acts_request permitted fun reply => Knowledge.acts_pure ?_
  intro value same
  cases same
  exact Set.subset_union_right

theorem cites_orRaise {reply : Except StoreException α}
    (ended : ∀ value, reply = .ok value → post value known)
    : Cites config known (orRaise reply) post := by
  cases reply with
  | ok value => exact cites_pure (ended value rfl)
  | error raised => exact cites_throw _

/-- A store call that raises what it is answered. -/
theorem cites_stored {op : Op} {reply : Res op → Except StoreException α}
    (permitted : (findings config).permitted known op)
    (ended
      : ∀ answer value later,
          reply answer = .ok value
          → (findings config).learned known op answer ⊆ later
          → post value later)
    : Cites config known (do orRaise (reply (← call op))) post :=
  (cites_call permitted).bind fun answer later _ told =>
    cites_orRaise fun value ok => ended answer value later ok told

/-- A store call from whose reply nothing is taken. -/
theorem cites_write {op : Op} {reply : Res op → Except StoreException α}
    (permitted : (findings config).permitted known op)
    : Cites config known (do orRaise (reply (← call op))) fun _ _ => True :=
  cites_stored permitted fun _ _ _ _ _ => trivial

end Rules

-----------------------------------------------------------------------------------------
-- The calls
-----------------------------------------------------------------------------------------

theorem cites_getCase (caseId : String)
    : Cites config known (getCase caseId) fun case later => .row caseId case ∈ later :=
  cites_stored trivial fun answer value later ok told => by
    cases ok
    exact told rfl

theorem cites_findCaseByMandate (mandateId : String)
    : Cites config known (findCaseByMandate mandateId) fun found later =>
        ∀ case,
          found = some case
          → .row case.caseId case ∈ later ∧ .held mandateId case ∈ later :=
  Cites.mono (cites_call trivial) fun found later _ told case same => by
    cases same
    exact ⟨told (.inl rfl), told (.inr rfl)⟩

theorem cites_updateCase {case : RecoveryCase} {entries : List AuditEntry}
    (cited : Cited config known case entries)
    : Cites config known (updateCase case) fun _ _ => True :=
  cites_write ⟨entries, cited⟩

theorem cites_readClock (readings : Nat)
    : Cites config known (readClock readings) fun clock later =>
        .clock clock ∈ later ∧ .reading (clock.now 0) ∈ later
        ∧ ∀ earlier, .reading earlier ∈ known → .ordered earlier (clock.now 0) ∈ later :=
  Cites.mono (cites_call trivial) fun _ _ _ told =>
    ⟨told (.inl rfl), told (.inr (.inl rfl)), fun earlier read =>
      told (.inr (.inr ⟨earlier, read, rfl⟩))⟩

theorem cites_now
    : Cites config known now fun instant later =>
        .reading instant ∈ later
        ∧ ∀ earlier, .reading earlier ∈ known → .ordered earlier instant ∈ later :=
  (cites_readClock 1).bind fun _ _ _ told => cites_pure told.2

/-- An append is made under a number that was drawn before the link was read. -/
theorem cites_appendAudit {entry : AuditEntry} (fresh : entry.Fresh)
    (justified : Justified config known entry)
    : Cites config known (appendAudit entry) fun _ later => .logged entry ∈ later := by
  unfold appendAudit
  rw [fresh.sequenceId]
  refine (@cites_call config known .nextSequence trivial).bind fun id drew more drawn => ?_
  refine (@cites_call config drew (.lastEntryHash entry.caseId) trivial).bind
    fun hash read more' linked => ?_
  have link : .linked id entry.caseId hash ∈ read := linked ⟨id, drawn rfl, rfl⟩
  have cited := (justified.mono more).mono more'
  refine cites_stored ⟨id, hash, entry, link, rfl, fresh, cited⟩ ?_
  intro answer value later ok told
  cases ok
  have bare : ({ entry with sequenceId := some id }.linked hash).bare = entry := fresh
  exact bare ▸ told rfl

/-- A loop of appends, by induction over the entries. -/
theorem cites_appendAll {entries : List AuditEntry} (fresh : ∀ entry ∈ entries, entry.Fresh)
    (justified : ∀ entry ∈ entries, Justified config known entry)
    : Cites config known (appendAll entries) fun _ later =>
        ∀ entry ∈ entries, .logged entry ∈ later := by
  induction entries generalizing known with
  | nil => exact cites_pure (by simp)
  | cons entry rest ih =>
      obtain ⟨fresh, freshRest⟩ := List.forall_mem_cons.mp fresh
      obtain ⟨first, later⟩ := List.forall_mem_cons.mp justified
      refine (cites_appendAudit fresh first).bind fun _ more grew logged => ?_
      refine (ih freshRest fun entry member => (later entry member).mono grew).mono ?_
      intro _ last grew' all
      exact List.forall_mem_cons.mpr ⟨grew' logged, all⟩

/-- A case is written back, and then the entries of the same deed are appended. -/
theorem cites_deed {case : RecoveryCase} {entries : List AuditEntry}
    (cited : Cited config known case entries) (fresh : ∀ entry ∈ entries, entry.Fresh)
    : Cites config known (do updateCase case; appendAll entries) fun _ later =>
        ∀ entry ∈ entries, .logged entry ∈ later :=
  (cites_updateCase cited).bind fun _ _ more _ =>
    cites_appendAll fresh fun _ member => .deed (cited.mono more) member

/-- A case is written back, and one entry of the same deed, stamped then, is appended. -/
theorem cites_stamped {case : RecoveryCase} {entry : Datetime → AuditEntry}
    {next : Handler α} {post : α → Set Finding → Prop}
    (cited : ∀ now, Cited config known case [entry now]) (fresh : ∀ now, (entry now).Fresh)
    (rest : ∀ later, known ⊆ later → Cites config later next post)
    : Cites config known (do updateCase case; appendAudit (entry (← now)); next) post := by
  refine (cites_updateCase (cited 0)).bind fun _ written grew _ => ?_
  refine cites_now.bind fun instant read grew' _ => ?_
  have kept := ((cited instant).mono grew).mono grew'
  have justified := Justified.deed kept (List.mem_singleton.mpr rfl)
  refine (cites_appendAudit (fresh instant) justified).bind fun _ last grew'' _ => ?_
  exact rest last ((grew.trans grew').trans grew'')

-----------------------------------------------------------------------------------------
-- Executions and heals
-----------------------------------------------------------------------------------------

theorem cites_applyEffect {caseId : String} {case : RecoveryCase} {effect : Effect}
    (found : .row caseId case ∈ known) (approved : .committed caseId effect ∈ known)
    : Cites config known (applyEffect case effect) fun _ _ => True := by
  unfold applyEffect
  split
  · exact cites_pure trivial
  · refine cites_stamped (fun now => ⟨_, case, found, .executed approved now⟩) (fun _ => rfl) ?_
    exact fun _ _ => cites_pure trivial

/-- The loop of a heal, by induction over the effects. -/
theorem cites_healFrom {caseId : String} {effects : List Effect}
    (approved : ∀ effect ∈ effects, .committed caseId effect ∈ known)
    : Cites config known (healFrom caseId effects) fun _ _ => True := by
  induction effects generalizing known with
  | nil => exact cites_pure trivial
  | cons effect rest ih =>
      obtain ⟨first, later⟩ := List.forall_mem_cons.mp approved
      refine (cites_getCase caseId).bind fun case read grew found => ?_
      refine (cites_applyEffect found (grew first)).bind fun _ healed grew' _ => ?_
      exact ih fun effect member => grew' (grew (later effect member))

theorem cites_reconcileCase (useEtcd : Bool) {caseId : String} (segment : '/' ∉ caseId.toList)
    : Cites config known (reconcileCase useEtcd caseId) fun _ _ => True := by
  unfold reconcileCase
  split
  · have healed : Cites config known (do
        healFrom caseId (← getPrefix (EtcdQuorumBackend.commitsPrefix ++ caseId ++ "/")))
        fun _ _ => True :=
      .bind (cites_call trivial) fun effects later _ told => cites_healFrom fun effect member =>
        told ⟨caseId, effect, member, rfl, .inr ⟨segment, rfl⟩⟩
    exact cites_swallow healed
  · exact cites_pure trivial

/-- The loop of a start-up, likewise. -/
theorem cites_healAllFrom (healed : Nat) {effects : List Effect}
    (approved : ∀ effect ∈ effects, .committed effect.caseId effect ∈ known)
    : Cites config known (healAllFrom healed effects) fun _ _ => True := by
  induction effects generalizing known healed with
  | nil => exact cites_pure trivial
  | cons effect rest ih =>
      obtain ⟨first, later⟩ := List.forall_mem_cons.mp approved
      refine (cites_lift (cites_getCase effect.caseId)).bind fun got read grew found => ?_
      cases got with
      | error raised => exact ih healed fun effect member => grew (later effect member)
      | ok case =>
          dsimp only
          split
          · exact ih healed fun effect member => grew (later effect member)
          · refine (cites_lift (cites_applyEffect (found case rfl) (grew first))).bind ?_
            intro applied done grew' _
            cases applied with
            | error raised => exact cites_pure trivial
            | ok case =>
                exact ih (healed + 1) fun effect member => grew' (grew (later effect member))

theorem cites_reconcileAll (useEtcd : Bool)
    : Cites config known (reconcileAll useEtcd) fun _ _ => True := by
  unfold reconcileAll
  split
  · refine .bind (cites_call trivial) fun effects later _ told => cites_healAllFrom 0 ?_
    intro effect member
    exact told ⟨effect.caseId, effect, member, rfl, .inl rfl⟩
  · exact cites_pure trivial

theorem cites_escalateDistressed {segment : PathSegment} {case : RecoveryCase}
    (serving : .serving (.executeRetry segment) ∈ known) (found : .row segment.text case ∈ known)
    (scheduled : case.state = .retryScheduled)
    : Cites config known (escalateDistressed case) fun _ _ => True := by
  refine cites_stamped (fun now => ⟨_, case, found, ?_⟩) (fun _ => rfl) fun _ _ => cites_throw _
  exact .distressed serving (Set.mem_singleton _) scheduled now

/-- A commit is made for a decision that is due, after the clock was read for it. -/
theorem cites_commitDecision (deployment : Deployment) {case : RecoveryCase}
    {segment : PathSegment} {decision : RetryDecision} {due : Datetime}
    (serving : .serving (.executeRetry segment) ∈ known) (found : .row segment.text case ∈ known)
    (scheduled : case.state = .retryScheduled) (pending : .pending decision ∈ known)
    (named : decision.caseId = segment.text) (read : .reading due ∈ known)
    (reached : decision.scheduledAt ≤ due)
    : Cites config known (commitDecision deployment case segment.text decision)
        fun _ _ => True := by
  refine cites_now.bind fun instant timed grew told => ?_
  have permitted : (findings config).permitted timed
      (.commitEffect segment.text decision.attemptNumber
        (retryEffect segment.text decision instant)) :=
    ⟨segment, case, decision, due, instant, grew serving, rfl, grew found, scheduled, grew pending,
      named, told.2 due read, reached, rfl, rfl⟩
  refine (cites_call permitted).bind fun approved later grew' learned => ?_
  rcases approved with raised | _ | _
  · exact cites_throw _
  · exact (cites_reconcileCase _ segment.noSlash).bind fun _ _ _ _ => cites_throw _
  · refine (cites_applyEffect (grew' (grew found)) (learned rfl)).bind fun _ last grew'' _ => ?_
    have decided : (findings config).permitted last (.updateRetryDecision decision) :=
      grew'' (grew' (grew pending))
    exact (cites_write decided).bind fun _ _ _ _ => cites_pure trivial

theorem cites_executeRetry (deployment : Deployment) {segment : PathSegment}
    (serving : .serving (.executeRetry segment) ∈ known)
    : Cites config known (executeRetry deployment segment) fun _ _ => True := by
  refine cites_check fun _ => (cites_getCase _).bind fun case first more found => ?_
  refine cites_check fun scheduled => ?_
  have scheduled := not_not.mp scheduled
  refine cites_now.bind fun instant second grew _ => ?_
  refine .bind (cites_call trivial) fun distressed third grew' _ => ?_
  split
  · exact cites_escalateDistressed (grew' (grew (more serving))) (grew' (grew found)) scheduled
  refine .bind (cites_call trivial) fun pending fourth grew'' listed => ?_
  split
  · exact cites_throw _
  · next decision rest picked =>
      have member := List.mem_filter.mp (picked ▸ List.mem_cons_self : decision ∈ pending.filter _)
      refine cites_now.bind fun due last grew''' timed => cites_check fun early => ?_
      have found : .row segment.text case ∈ last := grew''' (grew'' (grew' (grew found)))
      have decided : .pending decision ∈ last := grew''' (listed ⟨decision, member.1, rfl⟩)
      have serving : .serving (.executeRetry segment) ∈ last :=
        grew''' (grew'' (grew' (grew (more serving))))
      exact cites_commitDecision deployment serving found scheduled decided
        (by simpa using member.2) timed.1 (not_lt.mp early)

-----------------------------------------------------------------------------------------
-- Success deliveries
-----------------------------------------------------------------------------------------

theorem cites_openCase (mandateId : String)
    : Cites config known (openCase mandateId) fun case later =>
        .row case.caseId case ∈ later ∧ .held mandateId case ∈ later := by
  refine (cites_findCaseByMandate mandateId).bind fun found later _ told => ?_
  cases found with
  | none => exact cites_throw _
  | some case => exact cites_pure (told case rfl)

theorem eq_some_of_getD_ne {named : Option String} (present : ¬ named.getD "" = "")
    : named = some (named.getD "") := by
  cases named with
  | none => exact absurd rfl present
  | some name => rfl

theorem cites_settleSuccess {request : Request} {mandateId : String} {case : RecoveryCase}
    {event : PaymentSuccessEvent} (adapt : Raised → Raised) (serving : .serving request ∈ known)
    (captured : request.captured? = some (some mandateId, some event.amount))
    (found : .row case.caseId case ∈ known) (held : .held mandateId case ∈ known)
    : Cites config known (settleSuccess case event adapt) fun _ _ => True := by
  refine (cites_readClock 1).bind fun clock read grew _ => ?_
  have answer := handlePaymentSuccess_answer case config clock event
  have cited : Cited config read _ _ :=
    ⟨_, case, grew found, .succeeded event clock (grew serving) captured (grew held)⟩
  refine (cites_adapt adapt (cites_deed cited ?_)).bind ?_
  · exact fun entry member => (answer.entries_plain entry member).2.2.2.2
  · exact fun _ _ _ _ => cites_pure trivial

-----------------------------------------------------------------------------------------
-- Notices
-----------------------------------------------------------------------------------------

/-- The decision of a notice is recorded after both of its entries. -/
theorem cites_sendNotice {segment : PathSegment} {draw : Draw}
    (serving : .serving (.sendNotice segment draw) ∈ known)
    : Cites config known (sendNotice config segment draw) fun _ _ => True := by
  refine cites_check fun _ => cites_now.bind fun _ start more _ => cites_check fun _ => ?_
  refine (cites_getCase _).bind fun case first more' found => cites_check fun _ => ?_
  refine (cites_readClock 2).bind fun clock second grew told => ?_
  dsimp only
  split
  · exact .bind (cites_call trivial) fun _ _ _ _ => cites_throw _
  · next entries decision done =>
      have sent := markNoticeSent_ok case config clock done
      have step := @Transition.noticed config (clock.now 0) case sent.pending decision.scheduledAt
      have fresh (entry : AuditEntry) (member : entry ∈ entries) : entry.Fresh :=
        (step.entries_fresh entry (sent.entries_eq ▸ member)).1
      have serving : .serving (.sendNotice segment draw) ∈ second := grew (more' (more serving))
      have cited : Cited config second _ entries :=
        ⟨_, case, grew found, .noticed serving (Set.mem_singleton _) sent⟩
      refine (cites_updateCase cited).bind fun _ third grew' _ => ?_
      have justified (entry : AuditEntry) (member : entry ∈ entries)
          : Justified config third entry :=
        .deed (cited.mono grew') member
      refine (cites_appendAll fresh justified).bind fun _ last grew'' logged => ?_
      have permitted : (findings config).permitted last (.recordRetryDecision decision) :=
        ⟨segment, draw, case, clock, _, entries, grew'' (grew' serving),
          grew'' (grew' (grew found)), grew'' (grew' told.1), sent, logged⟩
      exact (cites_write permitted).bind fun _ _ _ _ => cites_pure trivial

-----------------------------------------------------------------------------------------
-- Failure deliveries
-----------------------------------------------------------------------------------------

theorem cites_handleFailure (existing : Option RecoveryCase) (event : PaymentFailureEvent)
    : Cites config known (handleFailure config existing event) fun done _ =>
        ∃ clock, handlePaymentFailed existing event config clock = .ok done := by
  refine (cites_readClock 1).bind fun clock read _ _ => ?_
  cases existing with
  | none =>
      dsimp only
      split
      · next done handled => exact cites_pure ⟨clock, handled⟩
      · exact cites_throw _
  | some case =>
      dsimp only
      split
      · next event' entries handled =>
          refine cites_pure ⟨clock, ?_⟩
          simp only [handlePaymentFailed, handled]
          rfl
      · exact .bind (cites_call trivial) fun _ _ _ _ => cites_throw _

/-- A parsed failure carries the amount of its payload. -/
theorem parsePaymentFailed_amount {entity : PaymentEntity} {existing : Option RecoveryCase}
    {attemptNumber : Option Nat} {event : PaymentFailureEvent}
    (parsed : parsePaymentFailed entity existing attemptNumber = .ok event)
    : entity.amount = some event.amount := by
  unfold parsePaymentFailed at parsed
  by_cases upi : entity.method ≠ some "upi"
  · rw [if_pos upi] at parsed
    cases parsed
  rw [if_neg upi] at parsed
  by_cases inr : entity.currency ≠ some "INR"
  · rw [if_pos inr] at parsed
    cases parsed
  rw [if_neg inr] at parsed
  simp only [bind, Except.bind] at parsed
  repeat' split at parsed
  all_goals cases parsed
  all_goals assumption

/-- A first failure opens its case, is recorded for it, and leaves its entries. -/
theorem cites_opened {entity : PaymentEntity} {event event' : PaymentFailureEvent} {clock : Clock}
    {case : RecoveryCase} {entries : List AuditEntry}
    (reported : Reported (served known) entity event) (own : event.caseId = event.paymentId)
    (first : event.attemptNumber = 1)
    (handled : handleNewFailure event config clock = .ok (case, event', entries))
    : Cites config known (do createCase case; recordFailure event'; appendAll entries)
        fun _ _ => True := by
  have opened := handleNewFailure_opened handled
  have same := handleNewFailure_event handled
  have permitted : (findings config).permitted known (.createCase case) :=
    ⟨entity, event, clock, event', entries, reported, own, handled⟩
  have creates
      : Cites config known (createCase case) fun _ later => .row case.caseId case ∈ later :=
    cites_stored permitted fun _ _ _ ok told => by
      cases ok
      exact told rfl
  refine creates.bind fun _ created more found => ?_
  have owned : event'.caseId = case.caseId := by rw [same, opened.caseId]
  have reported' : Reported (served created) entity event' := by
    rw [same]
    exact reported.mono fun _ serving => more serving
  have records : (findings config).permitted created (.recordFailure event') :=
    ⟨⟨case, owned ▸ found⟩, ⟨entity, reported'⟩, .inl (by rw [same, first])⟩
  refine Cites.bind (cites_write records) ?_
  intro _ recorded grew _
  have justified (entry : AuditEntry) (member : entry ∈ entries)
      : Justified config recorded entry :=
    .opening (reported.mono fun _ serving => grew (more serving)) own handled (grew found) member
  exact (cites_appendAll opened.fresh justified).mono fun _ _ _ _ => trivial

/-- A further failure is answered, and recorded under the next number of its case. -/
theorem cites_answered {entity : PaymentEntity} {mandateId : String}
    {event event' : PaymentFailureEvent} {clock : Clock} {case case' : RecoveryCase}
    {entries : List AuditEntry} {attempts : Nat} (reported : Reported (served known) entity event)
    (mandated : entity.mandateId = some mandateId) (held : .held mandateId case ∈ known)
    (found : .row case.caseId case ∈ known) (owned : event.caseId = case.caseId)
    (counted : .counted case.caseId attempts ∈ known) (next : event.attemptNumber = attempts + 1)
    (handled : handlePaymentFailed (some case) event config clock = .ok (case', event', entries))
    : Cites config known (do updateCase case'; recordFailure event'; appendAll entries)
        fun _ _ => True := by
  obtain ⟨result, rfl⟩ := handlePaymentFailed_existing case config clock handled
  have answer := handleExistingFailure_answer case config clock result
  have same := handleExistingFailure_event result
  have owned : event'.caseId = case.caseId := by rw [same, owned]
  have fresh (entry : AuditEntry) (member : entry ∈ entries) : entry.Fresh :=
    (answer.entries_plain entry member).2.2.2.2
  have cited : Cited config known _ entries :=
    ⟨_, case, found, .failed reported mandated held result⟩
  refine (cites_updateCase cited).bind fun _ updated grew _ => ?_
  have reported' : Reported (served updated) entity event' := by
    rw [same]
    exact reported.mono fun _ serving => grew serving
  have records : (findings config).permitted updated (.recordFailure event') :=
    ⟨⟨case, owned ▸ grew found⟩, ⟨entity, reported'⟩,
      .inr ⟨attempts, owned ▸ grew counted, by rw [same, next]⟩⟩
  refine Cites.bind (cites_write records) ?_
  intro _ recorded grew' _
  have justified (entry : AuditEntry) (member : entry ∈ entries)
      : Justified config recorded entry :=
    .deed ((cited.mono grew).mono grew') member
  exact (cites_appendAll fresh justified).mono fun _ _ _ _ => trivial

theorem cites_ingestFailure {request : Request} {entity : PaymentEntity}
    {existing : Option RecoveryCase} (detail : PyError → Detail)
    (serving : .serving request ∈ known) (declined : request.declined? = some entity)
    (found
      : ∀ case,
          existing = some case
          → .row case.caseId case ∈ known
            ∧ ∃ mandateId, entity.mandateId = some mandateId ∧ .held mandateId case ∈ known)
    : Cites config known (ingestFailure config entity existing detail) fun _ _ => True := by
  unfold ingestFailure
  cases existing with
  | none =>
      refine cites_pure_bind ?_
      dsimp only
      cases parsed : parsePaymentFailed entity none none with
      | error raised => exact cites_throw _
      | ok event =>
          obtain ⟨payment, resolved⟩ := parsePaymentFailed_resolved parsed
          simp only [resolveAttempt, Except.ok.injEq, Prod.mk.injEq] at resolved
          have reported : Reported (served known) entity event :=
            ⟨⟨request, serving, declined⟩, payment, parsePaymentFailed_amount parsed⟩
          refine (cites_handleFailure none event).bind fun done known' handled answered => ?_
          obtain ⟨case, event', entries⟩ := done
          obtain ⟨clock, answered⟩ := answered
          have written := cites_opened (reported.mono fun _ serving => handled serving)
            resolved.1.symm resolved.2.symm answered
          refine (cites_adapt _ written).bind fun _ _ _ _ => ?_
          refine cites_now.bind fun _ _ _ _ => ?_
          exact .bind (cites_call trivial) fun _ _ _ _ => cites_pure trivial
  | some case =>
      obtain ⟨stored, mandateId, mandated, held⟩ := found case rfl
      refine .bind (cites_call trivial) fun attempts later grew counted => ?_
      refine cites_pure_bind ?_
      dsimp only
      cases parsed : parsePaymentFailed entity (some case) (some (attempts + 1)) with
      | error raised => exact cites_throw _
      | ok event =>
          obtain ⟨payment, resolved⟩ := parsePaymentFailed_resolved parsed
          simp only [resolveAttempt, Except.ok.injEq, Prod.mk.injEq] at resolved
          have reported : Reported (served known) entity event :=
            ⟨⟨request, serving, declined⟩, payment, parsePaymentFailed_amount parsed⟩
          refine (cites_handleFailure (some case) event).bind fun done handled grew' answered => ?_
          obtain ⟨case', event', entries⟩ := done
          obtain ⟨clock, answered⟩ := answered
          have reported := reported.mono fun _ serving => grew' (grew serving)
          have written := cites_answered reported mandated (grew' (grew held))
            (grew' (grew stored)) resolved.1.symm (grew' (counted rfl)) resolved.2.symm answered
          exact (cites_adapt _ written).bind fun _ _ _ _ => cites_pure trivial

theorem cites_lookupMandate (named : Option String)
    : Cites config known (lookupMandate named) fun found later =>
        ∀ case,
          found = some case
          → .row case.caseId case ∈ later
            ∧ ∃ mandateId, named = some mandateId ∧ .held mandateId case ∈ later := by
  cases named with
  | none => exact cites_pure (by simp)
  | some mandateId =>
      unfold lookupMandate
      dsimp only
      split
      · exact cites_pure (by simp)
      · refine (cites_findCaseByMandate mandateId).mono fun found later _ told case same => ?_
        exact ⟨(told case same).1, mandateId, rfl, (told case same).2⟩

-----------------------------------------------------------------------------------------
-- Requests
-----------------------------------------------------------------------------------------

theorem cites_resolveEscalation {segment : PathSegment} {note : String}
    (serving : .serving (.resolveEscalation segment note) ∈ known)
    : Cites config known (resolveEscalation config segment note) fun _ _ => True := by
  refine cites_check fun _ => (cites_getCase _).bind fun case later more found => ?_
  refine cites_check fun escalated => ?_
  split
  · exact cites_throw _
  · next resolution parsed =>
      refine cites_stamped (fun now => ?_) (fun _ => rfl) fun _ _ => cites_pure trivial
      refine ⟨_, case, found, ?_⟩
      exact .resolved (more serving) (Set.mem_singleton _) parsed (not_not.mp escalated) now

/-- The handler of a request asks for what is permitted to one that serves the request. -/
theorem cites_request (deployment : Deployment) {request : Request}
    (serving : .serving request ∈ known)
    : Cites deployment.config known (request.handler deployment) fun _ _ => True := by
  cases request with
  | paymentFailed signed entity =>
      refine cites_check fun unsigned => cites_check fun _ => ?_
      have declined : (Request.paymentFailed signed entity).declined? = some entity := by
        cases signed
        · exact absurd rfl unsigned
        · rfl
      refine .bind (cites_call trivial) fun recorded _ more _ => ?_
      cases recorded with
      | some attempt => exact cites_pure trivial
      | none =>
          refine (cites_lookupMandate _).bind fun existing later more' found => ?_
          have ingested := @cites_ingestFailure deployment.config later _ entity existing
            (fun _ => .text "Malformed webhook payload") (more' (more serving)) declined found
          exact Cites.bind ingested fun _ _ _ _ => cites_pure trivial
  | simulateFailure request =>
      refine cites_check fun _ => (cites_lookupMandate _).bind fun existing later more found => ?_
      have ingested := @cites_ingestFailure deployment.config later _ request.entity existing
        (fun raised => .ofException (.python raised)) (more serving) rfl found
      exact Cites.bind ingested fun _ _ _ _ => cites_pure trivial
  | paymentSucceeded signed entity =>
      refine cites_check fun unsigned => cites_check fun named => ?_
      refine (cites_openCase _).bind fun case later more found => ?_
      split
      · next event parsed =>
          refine cites_settleSuccess _ (more serving) ?_ found.1 found.2
          cases signed
          · exact absurd rfl unsigned
          · have amount := parsePaymentCaptured_amount parsed
            exact congrArg some (Prod.ext (eq_some_of_getD_ne named) amount)
      · exact cites_throw _
  | simulateSuccess request =>
      refine cites_check fun _ => cites_check fun named => ?_
      refine (cites_openCase _).bind fun case later more found => ?_
      refine cites_now.bind fun _ _ grew _ => ?_
      split
      · next event created =>
          refine cites_settleSuccess _ (grew (more serving)) ?_ (grew found.1) (grew found.2)
          have amount := congrArg some (PaymentSuccessEvent.create_eq created).2.symm
          exact congrArg some (Prod.ext (eq_some_of_getD_ne named) amount)
      · exact cites_throw _
  | sendNotice segment draw => exact cites_sendNotice serving
  | executeRetry segment => exact cites_executeRetry deployment serving
  | advanceClock delta =>
      refine cites_check fun _ => cites_check fun positive => ?_
      refine .bind (cites_call (le_of_not_ge positive)) fun moved _ _ _ => ?_
      split
      · exact cites_now.bind fun _ _ _ _ => cites_pure trivial
      · exact cites_throw _
  | resolveEscalation segment note => exact cites_resolveEscalation serving
  | recordFailure instrumentId =>
      refine cites_now.bind fun _ _ _ _ => .bind (cites_call trivial) fun _ _ _ _ => ?_
      refine .bind (cites_call trivial) fun _ _ _ _ => .bind (cites_call trivial) fun _ _ _ _ => ?_
      exact cites_pure trivial

-----------------------------------------------------------------------------------------
-- Tasks
-----------------------------------------------------------------------------------------

/-- The loop of a release, by induction over the listed cases. -/
theorem cites_releaseEach (released : List String) {cases : List RecoveryCase}
    (listed : ∀ case ∈ cases, .row case.caseId case ∈ known)
    : Cites config known (releaseEach released cases) fun _ _ => True := by
  induction cases generalizing known released with
  | nil => exact cites_pure trivial
  | cons case rest ih =>
      obtain ⟨found, later⟩ := List.forall_mem_cons.mp listed
      unfold releaseEach
      split
      · refine (cites_readClock 1).bind fun clock read grew _ => ?_
        split
        · exact cites_throw _
        · next updated entries fired =>
            have step := @trigger_transition case config clock _ _ .released _ _ _ _ _ fired
            have fresh (entry : AuditEntry) (member : entry ∈ entries) : entry.Fresh :=
              (step.entries_fresh entry member).1
            have cited : Cited config read updated entries :=
              ⟨_, case, grew found, .released fired⟩
            refine (cites_updateCase cited).bind fun _ wrote grew' _ => ?_
            have justified (entry : AuditEntry) (member : entry ∈ entries)
                : Justified config wrote entry :=
              .deed (cited.mono grew') member
            refine (cites_appendAll fresh justified).bind fun _ last grew'' _ => ?_
            exact ih _ fun case member => grew'' (grew' (grew (later case member)))
      · exact ih _ later

/-- Every task acts on what it began with and on what it finds. -/
theorem cites_task (deployment : Deployment) (cases : List RecoveryCase) (task : Task)
    : Cites deployment.config (task.facts cases) (task.handler deployment cases)
        fun _ _ => True := by
  have listed (case : RecoveryCase) (member : case ∈ cases)
      : .row case.caseId case ∈ task.facts cases :=
    .inr ⟨case, member, rfl⟩
  cases task with
  | request served =>
      have serving : .serving served ∈ (Task.request served).facts cases :=
        .inl ⟨served, rfl, rfl⟩
      exact (cites_request deployment serving).bind fun _ _ _ _ => cites_pure trivial
  | startup => exact (cites_reconcileAll _).bind fun _ _ _ _ => cites_pure trivial
  | releaseThrottles =>
      have releases : Cites deployment.config (Task.releaseThrottles.facts cases)
          (Handler.releaseThrottles deployment.config cases) fun _ _ => True :=
        cites_check fun _ => cites_releaseEach [] listed
      exact releases.bind fun _ _ _ _ => cites_pure trivial
  | periodicThrottleRelease =>
      have round : Cites deployment.config (Task.periodicThrottleRelease.facts cases)
          (do let _ ← releaseEach [] cases) fun _ _ => True :=
        (cites_releaseEach [] listed).bind fun _ _ _ _ => cites_pure trivial
      exact cites_swallow round

end Handler

end RecoveryAgent
