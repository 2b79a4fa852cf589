import RecoveryAgent.Lib.Knowledge
import RecoveryAgent.Service.Fleet

/-! On what a task of the service acts.
A task writes a case that it has read, with what the state machine or an endpoint makes of it;
it appends entries under the numbers and links it was given, and commits the attempt of a
pending decision that is due. The facts it goes by may be out of date when it writes.
-/

namespace RecoveryAgent

open StateMachine Handler

/-- The failed payment a request reports; an unsigned webhook reports none. -/
def Request.declined? : Request → Option PaymentEntity
  | .paymentFailed true entity => some entity
  | .simulateFailure request => some request.entity
  | _ => none

/-- The mandate and the amount of the payment whose success a request reports, likewise. -/
def Request.captured? : Request → Option (Option String × Option Int)
  | .paymentSucceeded true entity => some (entity.mandateId, entity.amount)
  | .simulateSuccess request => some (request.mandateId, some request.amountPaise)
  | _ => none

/-- One of the requests reports the failed payment, and the event is about it. -/
def Reported (requests : Set Request) (entity : PaymentEntity) (event : PaymentFailureEvent)
    : Prop :=
  (∃ request ∈ requests, request.declined? = some entity)
  ∧ entity.id = some event.paymentId
  ∧ entity.amount = some event.amount

theorem Reported.mono {requests requests' : Set Request} {entity : PaymentEntity}
    {event : PaymentFailureEvent} (reported : Reported requests entity event)
    (more : requests ⊆ requests')
    : Reported requests' entity event := by
  obtain ⟨⟨request, asked, declined⟩, about⟩ := reported
  exact ⟨⟨request, more asked, declined⟩, about⟩

/-- What a task can know: the request it serves, and what replies have told it. -/
inductive Finding where
  | serving (request : Request)
  /-- The case was stored under the id. -/
  | row (caseId : String) (case : RecoveryCase)
  /-- The case was stored for the mandate. -/
  | held (mandateId : String) (case : RecoveryCase)
  /-- So many attempts of the case were stored. -/
  | counted (caseId : String) (attempts : Nat)
  | pending (decision : RetryDecision)
  /-- The effect is committed, for the case of the id. -/
  | committed (caseId : String) (effect : Effect)
  /-- The entry was appended, up to its number and links. -/
  | logged (entry : AuditEntry)
  | clock (clock : Clock)
  | reading (instant : Datetime)
  /-- The second instant was read after the first. -/
  | ordered (earlier later : Datetime)
  | drawn (id : Nat)
  /-- The hash was the last one of the case after the number was drawn. -/
  | linked (id : Nat) (caseId : String) (hash : Option String)

/-- What a reply tells, given what is known. -/
def Finding.learned (known : Set Finding) (op : Op) (reply : Res op) : Set Finding :=
  match op, reply with
  | .createCase case, .ok _ => {.row case.caseId case}
  | .getCase caseId, .ok case => {.row caseId case}
  | .findCaseByMandate mandateId, some case => {.row case.caseId case, .held mandateId case}
  | .getMaxAttemptNumber caseId, attempts => {.counted caseId attempts}
  | .getPendingRetries, decisions => {finding | ∃ decision ∈ decisions, finding = .pending decision}
  | .getPrefix start, effects =>
      {finding |
        ∃ caseId, ∃ effect ∈ effects,
          finding = .committed caseId effect
          ∧ (caseId = effect.caseId
            ∨ '/' ∉ caseId.toList
              ∧ start = EtcdQuorumBackend.commitsPrefix ++ caseId ++ "/")}
  | .commitEffect caseId _ effect, .ok true => {.committed caseId effect}
  | .insertAudit entry, .ok _ => {.logged entry.bare}
  | .readClock _, view =>
      {finding |
        finding = .clock view ∨ finding = .reading (view.now 0)
        ∨ ∃ earlier, .reading earlier ∈ known ∧ finding = .ordered earlier (view.now 0)}
  | .nextSequence, id => {.drawn id}
  | .lastEntryHash caseId, hash =>
      {finding | ∃ id, .drawn id ∈ known ∧ finding = .linked id caseId hash}
  | _, _ => ∅

/-- On what a task acts on a case it has read: the requests it serves, the path parameters under
which the case was read, the mandates for which it was found, and the effects that are committed
for it.
-/
structure Grounds where
  requests : Set Request
  paths : Set String
  mandates : Set String
  effects : Set Effect

/-- The first grounds are among the second. -/
structure Grounds.Within (grounds larger : Grounds) : Prop where
  requests : grounds.requests ⊆ larger.requests
  paths : grounds.paths ⊆ larger.paths
  mandates : grounds.mandates ⊆ larger.mandates
  effects : grounds.effects ⊆ larger.effects

/-- What a task does on these grounds: the case it writes back, and the entries it appends. -/
inductive Deed (config : AppConfig) (grounds : Grounds) (case : RecoveryCase)
    : RecoveryCase → List AuditEntry → Prop where
  | succeeded {request : Request} {mandateId : String} (event : PaymentSuccessEvent)
      (clock : Clock) (asked : request ∈ grounds.requests)
      (captured : request.captured? = some (some mandateId, some event.amount))
      (held : mandateId ∈ grounds.mandates)
    : Deed config grounds case (handlePaymentSuccess case event clock).1
        (handlePaymentSuccess case event clock).2
  | failed {entity : PaymentEntity} {mandateId : String} {event event' : PaymentFailureEvent}
      {clock : Clock} {entries : List AuditEntry}
      (reported : Reported grounds.requests entity event)
      (named : entity.mandateId = some mandateId) (held : mandateId ∈ grounds.mandates)
      (handled : (handleExistingFailure case event config clock).result = .ok (event', entries))
    : Deed config grounds case (handleExistingFailure case event config clock).case entries
  | noticed {segment : PathSegment} {draw : Draw} {case' : RecoveryCase} {clock : Clock}
      {entries : List AuditEntry} {decision : RetryDecision}
      (asked : .sendNotice segment draw ∈ grounds.requests)
      (read : segment.text ∈ grounds.paths)
      (sent
        : Noticed case config clock none (some (slotBandit.suggestFrom draw)) case' entries
            decision)
    : Deed config grounds case case' entries
  | executed {effect : Effect} (approval : effect ∈ grounds.effects) (now : Datetime)
    : Deed config grounds case { case with state := effect.toState }
        [effectApplied case.caseId now]
  | distressed {segment : PathSegment} (asked : .executeRetry segment ∈ grounds.requests)
      (read : segment.text ∈ grounds.paths) (scheduled : case.state = .retryScheduled)
      (now : Datetime)
    : Deed config grounds case { case with state := .escalated } [distressSignal case.caseId now]
  | resolved {segment : PathSegment} {text : String} {note : ResolutionNote}
      (asked : .resolveEscalation segment text ∈ grounds.requests)
      (read : segment.text ∈ grounds.paths) (parsed : parseResolutionNote text = some note)
      (escalated : case.state = .escalated) (now : Datetime)
    : Deed config grounds case { case with state := .resolvedByHuman, resolutionNote := some note }
        [humanResolution case.caseId now]
  | released {case' : RecoveryCase} {clock : Clock} {entries : List AuditEntry}
      (released : releaseThrottle case clock = .ok (case', entries))
    : Deed config grounds case case' entries

/-- The requests that are known to be served. -/
def served (known : Set Finding) : Set Request := {request | .serving request ∈ known}

/-- The grounds that are known for a case that was read under an id. -/
def grounds (known : Set Finding) (caseId : String) (case : RecoveryCase) : Grounds where
  requests := served known
  paths := {caseId}
  mandates := {mandateId | .held mandateId case ∈ known}
  effects := {effect | .committed caseId effect ∈ known}

/-- A deed on a case that was read. -/
def Cited (config : AppConfig) (known : Set Finding) (case' : RecoveryCase)
    (entries : List AuditEntry)
    : Prop :=
  ∃ caseId case,
    .row caseId case ∈ known ∧ Deed config (grounds known caseId case) case case' entries

/-- The entries a task appends: those of a deed, and those of a case it has opened. -/
inductive Justified (config : AppConfig) (known : Set Finding) (entry : AuditEntry) : Prop where
  | deed {case : RecoveryCase} {entries : List AuditEntry}
      (cited : Cited config known case entries) (member : entry ∈ entries)
  | opening {event event' : PaymentFailureEvent} {clock : Clock} {case : RecoveryCase}
      {entries : List AuditEntry}
      {entity : PaymentEntity} (reported : Reported (served known) entity event)
      (first : event.caseId = event.paymentId)
      (opened : handleNewFailure event config clock = .ok (case, event', entries))
      (created : .row case.caseId case ∈ known) (member : entry ∈ entries)

/-- What a task asks for, on what it knows. Reads are always permitted. -/
def Finding.permitted (config : AppConfig) (known : Set Finding) : Op → Prop
  | .createCase case =>
      ∃ entity event clock event' entries,
        Reported (served known) entity event
        ∧ event.caseId = event.paymentId
        ∧ handleNewFailure event config clock = .ok (case, event', entries)
  | .updateCase case => ∃ entries, Cited config known case entries
  | .recordFailure event =>
      (∃ case, .row event.caseId case ∈ known)
      ∧ (∃ entity, Reported (served known) entity event)
      ∧ (event.attemptNumber = 1
        ∨ ∃ attempts,
            .counted event.caseId attempts ∈ known ∧ event.attemptNumber = attempts + 1)
  | .recordRetryDecision decision =>
      ∃ segment draw case clock case' entries,
        .serving (.sendNotice segment draw) ∈ known
        ∧ .row segment.text case ∈ known
        ∧ .clock clock ∈ known
        ∧ Noticed case config clock none (some (slotBandit.suggestFrom draw)) case' entries decision
        ∧ ∀ entry ∈ entries, .logged entry ∈ known
  | .updateRetryDecision decision => .pending decision ∈ known
  | .insertAudit entry =>
      ∃ id hash base,
        .linked id base.caseId hash ∈ known
        ∧ entry = { base with sequenceId := some id }.linked hash
        ∧ base.Fresh
        ∧ Justified config known base
  | .commitEffect caseId attempt effect =>
      ∃ segment case decision due now,
        .serving (.executeRetry segment) ∈ known ∧ segment.text = caseId
        ∧ .row caseId case ∈ known ∧ case.state = .retryScheduled
        ∧ .pending decision ∈ known ∧ decision.caseId = caseId
        ∧ .ordered due now ∈ known ∧ decision.scheduledAt ≤ due
        ∧ attempt = decision.attemptNumber
        ∧ effect = retryEffect caseId decision now
  | .advanceClock delta => 0 ≤ delta
  | _ => True

/-- How tasks act on what they find. -/
def findings (config : AppConfig) : Knowledge Op Res Finding where
  learned := Finding.learned
  permitted := Finding.permitted config

/-- What a task knows when it is begun: its request, and the cases that are stored then. -/
def Task.facts (cases : List RecoveryCase) (task : Task) : Set Finding :=
  {finding |
    (∃ request, task = .request request ∧ finding = .serving request)
    ∨ ∃ case ∈ cases, finding = .row case.caseId case}

/-- A released case was throttled, and is scheduled again. -/
theorem releaseThrottle_ok {case case' : RecoveryCase} {clock : Clock} {entries : List AuditEntry}
    (released : releaseThrottle case clock = .ok (case', entries))
    : case.state = .throttled
      ∧ case' = { case with state := .retryScheduled }
      ∧ entries
        = [audit case.caseId .throttled .retryScheduled "throttle_released" (clock.now 0)] := by
  unfold releaseThrottle trigger at released
  split at released
  · cases released
  · next throttled =>
      cases released
      exact ⟨not_not.mp throttled, rfl, rfl⟩

/-- More grounds permit more. -/
theorem Deed.mono {config : AppConfig} {grounds larger : Grounds} {case case' : RecoveryCase}
    {entries : List AuditEntry} (deed : Deed config grounds case case' entries)
    (within : grounds.Within larger)
    : Deed config larger case case' entries := by
  cases deed with
  | succeeded event clock asked captured held =>
      exact .succeeded event clock (within.requests asked) captured (within.mandates held)
  | failed reported named held handled =>
      exact .failed (reported.mono within.requests) named (within.mandates held) handled
  | noticed asked read sent => exact .noticed (within.requests asked) (within.paths read) sent
  | executed approval now => exact .executed (within.effects approval) now
  | distressed asked read scheduled now =>
      exact .distressed (within.requests asked) (within.paths read) scheduled now
  | resolved asked read parsed escalated now =>
      exact .resolved (within.requests asked) (within.paths read) parsed escalated now
  | released released => exact .released released

section Mono

variable {config : AppConfig} {known later : Set Finding} (more : known ⊆ later)

include more

/-- What is known stays known. -/
theorem grounds_within (caseId : String) (case : RecoveryCase)
    : (grounds known caseId case).Within (grounds later caseId case) where
  requests _ serving := more serving
  paths := Set.Subset.refl _
  mandates _ held := more held
  effects _ committed := more committed

theorem Cited.mono {case : RecoveryCase} {entries : List AuditEntry}
    (cited : Cited config known case entries)
    : Cited config later case entries := by
  obtain ⟨caseId, case, found, deed⟩ := cited
  exact ⟨caseId, case, more found, deed.mono (grounds_within more caseId case)⟩

theorem Justified.mono {entry : AuditEntry} (justified : Justified config known entry)
    : Justified config later entry := by
  cases justified with
  | deed cited member => exact .deed (cited.mono more) member
  | opening reported first opened created member =>
      exact .opening (reported.mono fun _ serving => more serving) first opened (more created)
        member

end Mono

end RecoveryAgent
