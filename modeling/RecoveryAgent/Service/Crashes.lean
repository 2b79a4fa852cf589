import RecoveryAgent.Service.Deliveries
import RecoveryAgent.Service.NextRetry

/-! A worker that crashes while it serves a failure webhook, and the webhook delivered again.
On Postgres every store call is committed by itself, and the recorded payment is all that a
second delivery recognises. It is looked up first, and recorded neither first nor last.
-/

namespace RecoveryAgent

open StateMachine

namespace Handler

/-- The worker that executes the handler can crash before the request, and leave the world. -/
def Stops {α : Type} (deployment : Deployment) (handler : Handler α) (world : World) (op : Op)
    (crashed : World) : Prop :=
  Program.Stops (World.answer deployment) handler.run world op crashed

section Stops

variable {α β : Type} {deployment : Deployment} {world crashed : World} {op : Op}

@[simp] theorem stops_pure {value : α}
    : ¬ Stops deployment (pure value) world op crashed :=
  Program.stops_pure

@[simp] theorem stops_throw {raised : Raised}
    : ¬ Stops deployment (throw raised : Handler α) world op crashed :=
  Program.stops_pure

/-- A sequence stops in its first part, or after that has had a result. -/
theorem stops_bind {handler : Handler α} {next : α → Handler β}
    : Stops deployment (handler >>= next) world op crashed
      ↔ Stops deployment handler world op crashed
        ∨ ∃ value,
            (exec deployment handler world).1 = .ok value
            ∧ Stops deployment (next value) (exec deployment handler world).2 op crashed := by
  unfold Stops
  rw [ExceptT.run_bind, Program.stops_bind]
  refine or_congr_right ?_
  unfold exec
  rcases Program.execute (World.answer deployment) handler.run world with ⟨raised | value, world'⟩
  · simp only [reduceCtorEq, false_and, exists_false, iff_false]
    exact Program.stops_pure
  · simp

theorem stops_call {first : Op}
    : Stops deployment (call first) world op crashed ↔ op = first ∧ crashed = world := by
  unfold Stops call ExceptT.lift
  simp only [ExceptT.run_mk]
  refine Program.stops_request.trans (or_iff_left ?_)
  exact Program.stops_pure

theorem stops_orRaise {result : Except StoreException α}
    : ¬ Stops deployment (orRaise result) world op crashed := by
  cases result <;> exact Program.stops_pure

/-- A call whose exception is raised stops before it is made. -/
theorem stops_raising {first : Op} {check : Res first → Except StoreException α}
    : Stops deployment (do orRaise (check (← call first))) world op crashed
      ↔ op = first ∧ crashed = world := by
  simp only [stops_bind, stops_orRaise, and_false, exists_false, or_false]
  exact stops_call

theorem stops_adapt {handler : Handler α} {f : Raised → Raised}
    : Stops deployment (ExceptT.adapt f handler) world op crashed
      ↔ Stops deployment handler world op crashed := by
  unfold Stops ExceptT.adapt
  simp only [ExceptT.run_mk]
  refine Program.stops_bind.trans (or_iff_left ?_)
  exact Program.stops_pure

end Stops

end Handler

-----------------------------------------------------------------------------------------
-- Where a delivery can stop
-----------------------------------------------------------------------------------------

/-- How far a delivery has come when it makes a store call. -/
inductive CrashPoint where
  | unwritten
  | unrecorded
  | unlogged
  deriving DecidableEq

/-- The stores a delivery can stop with once the case is written. -/
inductive PostgresCaseStore.Delivery.StoppedAt {config : AppConfig} {clock : Clock}
    {entity : PaymentEntity} {store : PostgresCaseStore}
    (delivery : store.Delivery config clock entity)
    : CrashPoint → CaseStore → Prop where
  | unrecorded : delivery.StoppedAt .unrecorded (.postgres delivery.mid)
  | unlogged {taken rest : List AuditEntry} (split : delivery.entries = taken ++ rest)
      (more : rest ≠ [])
    : delivery.StoppedAt .unlogged (.postgres (delivery.last.appendAll taken))

/-- The store calls of a delivery: lookups and the write of the case, the record of the
payment, and the statements of an append.
-/
def Op.crashPoint : Op → Option CrashPoint
  | .createCase _ => some .unwritten
  | .updateCase _ => some .unwritten
  | .findCaseByMandate _ => some .unwritten
  | .getMaxAttemptNumber _ => some .unwritten
  | .findAttemptByPaymentId _ => some .unwritten
  | .recordFailure _ => some .unrecorded
  | .nextSequence => some .unlogged
  | .lastEntryHash _ => some .unlogged
  | .insertAudit _ => some .unlogged
  | _ => none

namespace Handler

variable {deployment : Deployment} {op : Op} {crashed : World} {point : CrashPoint}

/-- An append stops before its insert, where nothing is written yet. -/
theorem stops_appendAudit {worker : Worker} {store : PostgresCaseStore} {log : EtcdStore Effect}
    {entry : AuditEntry} (fresh : entry.Fresh)
    (stops : Stops deployment (appendAudit entry) ⟨worker, ⟨.postgres store, log⟩⟩ op crashed)
    : op.crashPoint = some .unlogged ∧ crashed = ⟨worker, ⟨.postgres store, log⟩⟩ := by
  unfold Stops at stops
  rw [appendAudit_run fresh.sequenceId, Program.stops_request, Program.stops_request] at stops
  rcases stops with ⟨rfl, same⟩ | ⟨rfl, same⟩ | inserting
  · exact ⟨rfl, same⟩
  · exact ⟨rfl, same⟩
  unfold insertRead at inserting
  rcases Program.stops_request.mp inserting with ⟨rfl, same⟩ | never
  · exact ⟨rfl, same⟩
  · exact absurd never Program.stops_pure

/-- Appends stop between two entries, by induction over them. -/
theorem stops_appendAll {worker : Worker} {store : PostgresCaseStore} {log : EtcdStore Effect}
    {entries : List AuditEntry} (fresh : ∀ entry ∈ entries, entry.Fresh)
    (stops : Stops deployment (appendAll entries) ⟨worker, ⟨.postgres store, log⟩⟩ op crashed)
    : op.crashPoint = some .unlogged
      ∧ ∃ taken rest,
          entries = taken ++ rest ∧ rest ≠ []
          ∧ crashed = ⟨worker, ⟨.postgres (store.appendAll taken), log⟩⟩ := by
  induction entries generalizing store with
  | nil => exact absurd stops stops_pure
  | cons entry rest ih =>
      obtain ⟨first, later⟩ := List.forall_mem_cons.mp fresh
      unfold appendAll at stops
      rcases stops_bind.mp stops with here | ⟨_, _, after⟩
      · obtain ⟨point, same⟩ := stops_appendAudit first here
        exact ⟨point, [], entry :: rest, rfl, by simp, same⟩
      · rw [exec_appendAudit_postgres deployment entry rfl, store.appendAudit_fresh first] at after
        obtain ⟨point, taken, left, split, more, same⟩ := ih later after
        exact ⟨point, entry :: taken, left, by rw [split]; rfl, more, same⟩

/-- A write that is answered by the store it leaves is stopped before it is made, or what
follows is stopped in that store.
-/
theorem stops_written {worker : Worker} {store : PostgresCaseStore} {log : EtcdStore Effect}
    {write rest : Handler Unit} {first : Op} {answer : Except CaseStoreError PostgresCaseStore}
    (call : first.crashPoint = some .unwritten)
    (stops_write
      : ∀ {op crashed},
          Stops deployment write ⟨worker, ⟨.postgres store, log⟩⟩ op crashed
          → op = first ∧ crashed = ⟨worker, ⟨.postgres store, log⟩⟩)
    (put
      : exec deployment write ⟨worker, ⟨.postgres store, log⟩⟩
        = match answer with
          | .error error =>
              (.error (.exception (.store (.postgres error))), ⟨worker, ⟨.postgres store, log⟩⟩)
          | .ok mid => (.ok (), ⟨worker, ⟨.postgres mid, log⟩⟩))
    (stops
      : Stops deployment (do write; rest) ⟨worker, ⟨.postgres store, log⟩⟩ op crashed)
    : op.crashPoint = some .unwritten ∧ crashed = ⟨worker, ⟨.postgres store, log⟩⟩
      ∨ ∃ mid,
          answer = .ok mid
          ∧ Stops deployment rest ⟨worker, ⟨.postgres mid, log⟩⟩ op crashed := by
  rcases stops_bind.mp stops with here | ⟨_, done, after⟩
  · obtain ⟨rfl, same⟩ := stops_write here
    exact .inl ⟨call, same⟩
  · rw [put] at done after
    cases answer with
    | error error => cases done
    | ok mid => exact .inr ⟨mid, rfl, after⟩

/-- The writes of a delivery stop before the case is written, before the payment is recorded
or between two entries.
-/
theorem stops_deliver {worker : Worker} {store : PostgresCaseStore} {log : EtcdStore Effect}
    {existing : Option RecoveryCase} {case : RecoveryCase} {event : PaymentFailureEvent}
    {entries : List AuditEntry} (fresh : ∀ entry ∈ entries, entry.Fresh)
    (stops
      : Stops deployment (do
          match existing with
          | none => createCase case
          | some _ => updateCase case
          recordFailure event
          appendAll entries) ⟨worker, ⟨.postgres store, log⟩⟩ op crashed)
    : op.crashPoint = some .unwritten ∧ crashed = ⟨worker, ⟨.postgres store, log⟩⟩
      ∨ ∃ mid,
          store.put existing case = .ok mid
          ∧ (op.crashPoint = some .unrecorded ∧ crashed = ⟨worker, ⟨.postgres mid, log⟩⟩
            ∨ ∃ last,
                mid.recordFailure event = .ok last ∧ op.crashPoint = some .unlogged
                ∧ ∃ taken rest,
                    entries = taken ++ rest ∧ rest ≠ []
                    ∧ crashed = ⟨worker, ⟨.postgres (last.appendAll taken), log⟩⟩) := by
  have later (mid : PostgresCaseStore)
      (stops
        : Stops deployment (do recordFailure event; appendAll entries)
            ⟨worker, ⟨.postgres mid, log⟩⟩ op crashed)
      : op.crashPoint = some .unrecorded ∧ crashed = ⟨worker, ⟨.postgres mid, log⟩⟩
        ∨ ∃ last,
            mid.recordFailure event = .ok last ∧ op.crashPoint = some .unlogged
            ∧ ∃ taken rest,
                entries = taken ++ rest ∧ rest ≠ []
                ∧ crashed = ⟨worker, ⟨.postgres (last.appendAll taken), log⟩⟩ := by
    rcases stops_bind.mp stops with here | ⟨_, done, after⟩
    · obtain ⟨rfl, same⟩ := stops_raising.mp here
      exact .inl ⟨rfl, same⟩
    · rw [exec_recordFailure_postgres] at done after
      cases recorded : mid.recordFailure event with
      | error error =>
          rw [recorded] at done
          cases done
      | ok last =>
          rw [recorded] at after
          obtain ⟨point, split⟩ := stops_appendAll fresh after
          exact .inr ⟨last, rfl, point, split⟩
  have put := exec_put_postgres deployment worker store log existing case
  have stopped
      : op.crashPoint = some .unwritten ∧ crashed = ⟨worker, ⟨.postgres store, log⟩⟩
        ∨ ∃ mid,
            store.put existing case = .ok mid
            ∧ Stops deployment (do recordFailure event; appendAll entries)
                ⟨worker, ⟨.postgres mid, log⟩⟩ op crashed := by
    cases existing with
    | none =>
        have written := @stops_written deployment op crashed worker store log (createCase case)
        exact written rfl (fun stops => stops_raising.mp stops) put stops
    | some old =>
        have written := @stops_written deployment op crashed worker store log (updateCase case)
        exact written rfl (fun stops => stops_raising.mp stops) put stops
  rcases stopped with unwritten | ⟨mid, written, stops⟩
  · exact .inl unwritten
  · exact .inr ⟨mid, written, later mid stops⟩

/-- It makes no store call. -/
theorem stops_handleFailure {config : AppConfig} {existing : Option RecoveryCase}
    {event : PaymentFailureEvent} {world : World}
    (stops : Stops deployment (handleFailure config existing event) world op crashed)
    : op.crashPoint = none := by
  unfold handleFailure at stops
  rcases stops_bind.mp stops with reading | ⟨clock, _, after⟩
  · obtain ⟨rfl, _⟩ := stops_call.mp reading
    rfl
  cases existing with
  | none =>
      dsimp only at after
      cases handled : handleNewFailure event config clock with
      | ok done =>
          rw [handled] at after
          exact absurd after stops_pure
      | error raised =>
          rw [handled] at after
          exact absurd after stops_throw
  | some case =>
      dsimp only at after
      cases handled : (handleExistingFailure case event config clock).result with
      | ok done =>
          rw [handled] at after
          exact absurd after stops_pure
      | error raised =>
          rw [handled] at after
          rcases stops_bind.mp after with mutating | ⟨_, _, never⟩
          · obtain ⟨rfl, _⟩ := stops_call.mp mutating
            rfl
          · exact absurd never stops_throw

/-- A parsed failure stops at one of the crash points of its delivery. -/
theorem stops_parsed {config : AppConfig} {existing : Option RecoveryCase}
    {event : PaymentFailureEvent} {worker : Worker} {store : PostgresCaseStore}
    {log : EtcdStore Effect}
    (stops
      : Stops deployment (do
          let (case, event, entries) ← handleFailure config existing event
          ExceptT.adapt storeConflict do
            match existing with
            | none => createCase case
            | some _ => updateCase case
            recordFailure event
            appendAll entries
          if existing.isNone then
            recordDistress case.instrumentId (← now)
          return (case, event)) ⟨worker, ⟨.postgres store, log⟩⟩ op crashed)
    (call : op.crashPoint = some point)
    : point = .unwritten ∧ crashed.toShared = ⟨.postgres store, log⟩
      ∨ ∃ case event' entries mid,
          handlePaymentFailed existing event config worker.clock.view
            = .ok (case, event', entries)
          ∧ store.put existing case = .ok mid
          ∧ (point = .unrecorded ∧ crashed.toShared = ⟨.postgres mid, log⟩
            ∨ ∃ last,
                mid.recordFailure event' = .ok last ∧ point = .unlogged
                ∧ ∃ taken rest,
                    entries = taken ++ rest ∧ rest ≠ []
                    ∧ crashed.toShared = ⟨.postgres (last.appendAll taken), log⟩) := by
  rcases stops_bind.mp stops with handling | ⟨⟨case, event', entries⟩, handled, stops⟩
  · rw [stops_handleFailure handling] at call
    cases call
  rw [exec_handleFailure_postgres] at handled stops
  cases answered : handlePaymentFailed existing event config worker.clock.view with
  | error raised =>
      rw [answered] at handled
      cases handled
  | ok done =>
      rw [answered] at handled
      cases handled
      have fresh (entry : AuditEntry) (member : entry ∈ entries) : entry.Fresh :=
        (handlePaymentFailed_entries answered entry member).1
      dsimp only at stops
      rcases stops_bind.mp stops with delivering | ⟨_, _, stops⟩
      · have stopped := stops_deliver fresh (stops_adapt.mp delivering)
        rw [call] at stopped
        rcases stopped with ⟨here, rfl⟩ | ⟨mid, written, later⟩
        · cases here
          exact .inl ⟨rfl, rfl⟩
        refine .inr ⟨case, event', entries, mid, rfl, written, ?_⟩
        rcases later with ⟨here, rfl⟩ | ⟨last, recorded, here, taken, rest, split, more, rfl⟩
        · cases here
          exact .inl ⟨rfl, rfl⟩
        · cases here
          exact .inr ⟨last, recorded, rfl, taken, rest, split, more, rfl⟩
      -- Nothing is asked of the store after the last entry.
      cases existing with
      | some old => exact absurd stops stops_pure
      | none =>
          dsimp only [Option.isNone_none] at stops
          rw [if_pos rfl] at stops
          rcases stops_bind.mp stops with reading | ⟨_, _, stops⟩
          · rcases stops_bind.mp reading with here | ⟨_, _, never⟩
            · obtain ⟨rfl, _⟩ := stops_call.mp here
              cases call
            · exact absurd never stops_pure
          rcases stops_bind.mp stops with noting | ⟨_, _, never⟩
          · obtain ⟨rfl, _⟩ := stops_call.mp noting
            cases call
          · exact absurd never stops_pure

/-- A failure that is ingested stops at one of the crash points of its delivery. -/
theorem stops_ingestFailure {config : AppConfig} {entity : PaymentEntity}
    {detail : PyError → Detail} {worker : Worker} {store : PostgresCaseStore}
    {log : EtcdStore Effect} (named : entity.id.getD "" ≠ "")
    (unrecorded : store.findAttemptByPaymentId (entity.id.getD "") = none)
    (stops
      : Stops deployment
          (ingestFailure config entity (store.mandateCase entity.mandateId) detail)
          ⟨worker, ⟨.postgres store, log⟩⟩ op crashed)
    (call : op.crashPoint = some point)
    : point = .unwritten ∧ crashed.toShared = ⟨.postgres store, log⟩
      ∨ ∃ delivery : store.Delivery config worker.clock.view entity,
          delivery.StoppedAt point crashed.store ∧ crashed.log = log := by
  generalize found : store.mandateCase entity.mandateId = existing at stops
  have ingested {event : PaymentFailureEvent}
      (parsed : parsePaymentFailed entity existing (store.nextAttempt existing) = .ok event)
      (stopped
        : point = .unwritten ∧ crashed.toShared = ⟨.postgres store, log⟩
          ∨ ∃ case event' entries mid,
              handlePaymentFailed existing event config worker.clock.view
                = .ok (case, event', entries)
              ∧ store.put existing case = .ok mid
              ∧ (point = .unrecorded ∧ crashed.toShared = ⟨.postgres mid, log⟩
                ∨ ∃ last,
                    mid.recordFailure event' = .ok last ∧ point = .unlogged
                    ∧ ∃ taken rest,
                        entries = taken ++ rest ∧ rest ≠ []
                        ∧ crashed.toShared = ⟨.postgres (last.appendAll taken), log⟩))
      : point = .unwritten ∧ crashed.toShared = ⟨.postgres store, log⟩
        ∨ ∃ delivery : store.Delivery config worker.clock.view entity,
            delivery.StoppedAt point crashed.store ∧ crashed.log = log := by
    refine stopped.imp id ?_
    rintro ⟨case, event', entries, mid, handled, written, later⟩
    have payment : entity.id.getD "" = event'.paymentId := by
      rw [(parsePaymentFailed_resolved parsed).1, handlePaymentFailed_payment handled]
      rfl
    obtain ⟨last, recorded⟩ := PostgresCaseStore.recordFailure_put written
      (payment ▸ unrecorded)
    subst found
    let delivery : store.Delivery config worker.clock.view entity := {
      event, case, event', entries, mid, last, named, unrecorded, parsed, handled, written,
      recorded
    }
    refine ⟨delivery, ?_⟩
    rcases later with ⟨rfl, shared⟩ | ⟨last', recorded', rfl, taken, rest, split, more, shared⟩
    · rw [shared]
      exact ⟨.unrecorded, rfl⟩
    · cases recorded.symm.trans recorded'
      rw [shared]
      exact ⟨.unlogged split more, rfl⟩
  unfold ingestFailure at stops
  cases existing with
  | none =>
      dsimp only at stops
      rcases stops_bind.mp stops with never | ⟨number, numbered, stops⟩
      · exact absurd never stops_pure
      cases Except.ok.inj numbered
      cases parsed : parsePaymentFailed entity none none with
      | error raised =>
          rw [parsed] at stops
          rcases stops_bind.mp stops with never | ⟨_, thrown, _⟩
          · exact absurd never stops_throw
          · cases thrown
      | ok event =>
          rw [parsed] at stops
          rcases stops_bind.mp stops with never | ⟨_, same, stops⟩
          · exact absurd never stops_pure
          cases Except.ok.inj same
          exact ingested parsed (stops_parsed stops call)
  | some case =>
      dsimp only at stops
      rcases stops_bind.mp stops with here | ⟨attempts, counted, stops⟩
      · obtain ⟨rfl, rfl⟩ := stops_call.mp here
        cases call
        exact .inl ⟨rfl, rfl⟩
      obtain rfl : attempts = store.getMaxAttemptNumber case.caseId := (Except.ok.inj counted).symm
      rcases stops_bind.mp stops with never | ⟨number, numbered, stops⟩
      · exact absurd never stops_pure
      obtain rfl : number = store.nextAttempt (some case) := (Except.ok.inj numbered).symm
      cases parsed : parsePaymentFailed entity (some case)
          (store.nextAttempt (some case)) with
      | error raised =>
          rw [parsed] at stops
          rcases stops_bind.mp stops with never | ⟨_, thrown, _⟩
          · exact absurd never stops_throw
          · cases thrown
      | ok event =>
          rw [parsed] at stops
          rcases stops_bind.mp stops with never | ⟨_, same, stops⟩
          · exact absurd never stops_pure
          cases Except.ok.inj same
          exact ingested parsed (stops_parsed stops call)

theorem stops_lookupMandate {mandateId : Option String} {world : World}
    (stops : Stops deployment (lookupMandate mandateId) world op crashed)
    : ∃ mandateId, op = .findCaseByMandate mandateId ∧ crashed = world := by
  unfold lookupMandate at stops
  cases mandateId with
  | none => exact absurd stops stops_pure
  | some mandateId =>
      dsimp only at stops
      split at stops
      · exact absurd stops stops_pure
      · exact ⟨mandateId, stops_call.mp stops⟩

/-- A failure webhook stops before it has written anything, or in its delivery. -/
theorem stops_webhookPaymentFailed {config : AppConfig} {signed : Bool} {entity : PaymentEntity}
    {worker : Worker} {store : PostgresCaseStore} {log : EtcdStore Effect}
    (stops
      : Stops deployment (webhookPaymentFailed config signed entity)
          ⟨worker, ⟨.postgres store, log⟩⟩ op crashed)
    (call : op.crashPoint = some point)
    : point = .unwritten ∧ crashed.toShared = ⟨.postgres store, log⟩
      ∨ signed = true
        ∧ ∃ delivery : store.Delivery config worker.clock.view entity,
            delivery.StoppedAt point crashed.store ∧ crashed.log = log := by
  unfold webhookPaymentFailed at stops
  cases signed with
  | false => exact absurd stops stops_throw
  | true =>
      by_cases unnamed : entity.id.getD "" = ""
      · simp only [Bool.not_true, Bool.false_eq_true, if_false, unnamed, if_true] at stops
        rcases stops_bind.mp stops with never | ⟨_, thrown, _⟩
        · exact absurd never stops_throw
        · cases thrown
      simp only [Bool.not_true, Bool.false_eq_true, if_false, unnamed] at stops
      rcases stops_bind.mp stops with here | ⟨found, looked, stops⟩
      · obtain ⟨rfl, rfl⟩ := stops_call.mp here
        cases call
        exact .inl ⟨rfl, rfl⟩
      rw [exec_findAttemptByPaymentId_postgres] at looked stops
      cases Except.ok.inj looked
      cases recorded : store.findAttemptByPaymentId (entity.id.getD "") with
      | some attempt =>
          rw [recorded] at stops
          exact absurd stops stops_pure
      | none =>
          rw [recorded] at stops
          dsimp only at stops
          rcases stops_bind.mp stops with looking | ⟨existing, found, stops⟩
          · obtain ⟨mandateId, rfl, rfl⟩ := stops_lookupMandate looking
            cases call
            exact .inl ⟨rfl, rfl⟩
          rw [exec_lookupMandate_postgres] at found stops
          cases Except.ok.inj found
          rcases stops_bind.mp stops with ingesting | ⟨_, _, never⟩
          · have stopped := stops_ingestFailure unnamed recorded ingesting call
            exact stopped.imp id fun delivery => ⟨rfl, delivery⟩
          · exact absurd never stops_pure

end Handler

-----------------------------------------------------------------------------------------
-- Crash and redelivery
-----------------------------------------------------------------------------------------

/-- Delivered again to a restarted worker, the webhook leaves every case as one uninterrupted
delivery to some worker would have.
-/
def Converges (deployment : Deployment) (signed : Bool) (entity : PaymentEntity)
    (world crashed : World) (restarted : Worker) : Prop :=
  ∃ worker : Worker, ∀ caseId,
    (Handler.exec deployment (Handler.webhookPaymentFailed deployment.config signed entity)
      ⟨restarted, crashed.toShared⟩).2.store.evidence caseId
    = (Handler.exec deployment (Handler.webhookPaymentFailed deployment.config signed entity)
        ⟨worker, world.toShared⟩).2.store.evidence caseId

/-- The crash comes before anything is written, or rewrites a stored case that a failure does
not move.
-/
def HarmlessCrash (store : PostgresCaseStore) (entity : PaymentEntity) : CrashPoint → Prop
  | .unwritten => True
  | .unrecorded =>
      ∃ case,
        store.mandateCase entity.mandateId = some case ∧ case.state ≠ .controlHeld
        ∧ case.state ≠ .retryExecuted
  | .unlogged => False

namespace PostgresCaseStore.Delivery

variable {deployment : Deployment} {worker : Worker} {entity : PaymentEntity}
  {store : PostgresCaseStore}
  (delivery : store.Delivery deployment.config worker.clock.view entity)

/-- One uninterrupted delivery, to whichever worker, adds what the entries say to the trail. -/
theorem whole_transitions (other : Worker) (log : EtcdStore Effect)
    : ((Handler.exec deployment (Handler.webhookPaymentFailed deployment.config true entity)
          ⟨other, ⟨.postgres store, log⟩⟩).2.store.evidence delivery.case.caseId).transitions
      = store.transitions delivery.case.caseId ++ delivery.entries.map (·.transition) := by
  obtain ⟨possible, alike⟩ := delivery.alike (worker.clock.view_alike other.clock)
  rcases Handler.exec_webhookPaymentFailed_postgres deployment deployment.config true entity other
    store log with ⟨_, none⟩ | ⟨later, shared⟩
  · exact absurd possible (not_nonempty_iff.mpr (none rfl))
  · obtain ⟨caseId, said⟩ := alike later
    have all : later.entries = later.entries ++ [] := (List.append_nil _).symm
    have added := later.transitions_taken all delivery.case.caseId
    rw [← caseId, later.filter_entries all, said, caseId] at added
    rw [congrArg Shared.store shared]
    exact added

/-- Where the crash is harmful, the case has been written in another state. -/
theorem moved (harmful : ¬ HarmlessCrash store entity .unrecorded)
    : delivery.case.state
      ≠ ((store.mandateCase entity.mandateId).map (·.state)).getD .received := by
  have handled := delivery.handled
  cases found : store.mandateCase entity.mandateId with
  | none =>
      rw [found] at handled
      have opened := handleNewFailure_opened (show handleNewFailure _ _ _ = _ from handled)
      intro same
      have state := opened.state
      rw [show delivery.case.state = .received from same] at state
      simp [openingState] at state
  | some old =>
      rw [found] at handled
      obtain ⟨answered, left⟩ := handlePaymentFailed_existing _ _ _ handled
      rcases handleExistingFailure_moves _ _ _ answered with ⟨_, elsewhere⟩ | ⟨resting, _⟩
      · rw [left] at elsewhere
        exact elsewhere
      · exact absurd ⟨old, found, not_or.mp resting⟩ harmful

/-- A case that a failure does not move is written back as it was. -/
theorem mid_resting (harmless : HarmlessCrash store entity .unrecorded)
    : delivery.mid = store := by
  obtain ⟨old, found, resting⟩ := harmless
  have handled := delivery.handled
  have written := delivery.written
  rw [found] at handled written
  obtain ⟨answered, left⟩ := handlePaymentFailed_existing _ _ _ handled
  rcases handleExistingFailure_moves _ _ _ answered with ⟨moving, _⟩ | ⟨_, same⟩
  · exact absurd moving (not_or.mpr resting)
  obtain ⟨_, stored⟩ := delivery.found_caseId found
  rw [← Except.ok.inj written, ← left, same]
  unfold PostgresCaseStore.updateCase
  rw [Table.update_of_mem (Table.mem_of_find? stored)]

/-- Once the case is written, a second delivery says something else than the first. -/
theorem again_transitions (harmful : ¬ HarmlessCrash store entity .unrecorded) {clock' : Clock}
    (again : delivery.mid.Delivery deployment.config clock' entity)
    : (again.entries.filter (·.caseId = delivery.case.caseId)).map (·.transition)
      ≠ delivery.entries.map (·.transition) := by
  have start (said : List AuditEntry)
      : (said.map (·.transition)).head?.map Prod.fst = said.head?.map (·.fromState) := by
    cases said <;> rfl
  intro same
  have heads := congrArg (fun said => said.head?.map Prod.fst) same
  rw [start, start, delivery.first] at heads
  by_cases here : again.case.caseId = delivery.case.caseId
  · have all : again.entries = again.entries ++ [] := (List.append_nil _).symm
    rw [← here, again.filter_entries all, again.first] at heads
    cases found : delivery.mid.mandateCase entity.mandateId with
    | none =>
        -- The case would be opened again under its id.
        have written := again.written
        rw [found] at written
        simp only [PostgresCaseStore.put, PostgresCaseStore.createCase] at written
        have taken := Table.insert?_eq_none_iff.mpr ⟨_, here ▸ delivery.mid_case⟩
        rw [taken] at written
        cases written
    | some case =>
        obtain ⟨caseId, stored⟩ := again.found_caseId found
        rw [← caseId, here, delivery.mid_case] at stored
        cases stored
        rw [found] at heads
        exact delivery.moved harmful (Option.some.inj heads)
  · have none_here : again.entries.filter (·.caseId = delivery.case.caseId) = [] := by
      refine List.filter_eq_nil_iff.mpr fun entry member => ?_
      simpa [(again.entries_plain entry member).2] using here
    rw [none_here] at heads
    cases heads

end PostgresCaseStore.Delivery

/-- What a store without an uninterrupted delivery's entries is left with by the second one. -/
theorem PostgresCaseStore.Delivery.not_converges {deployment : Deployment} {worker : Worker}
    {entity : PaymentEntity} {store : PostgresCaseStore} {log : EtcdStore Effect}
    (delivery : store.Delivery deployment.config worker.clock.view entity) {point : CrashPoint}
    {crashed : World} (stopped : delivery.StoppedAt point crashed.store)
    (harmful : ¬ HarmlessCrash store entity point) (restarted : Worker)
    : ¬ Converges deployment true entity ⟨worker, ⟨.postgres store, log⟩⟩ crashed restarted := by
  rintro ⟨other, same⟩
  have said := congrArg Evidence.transitions (same delivery.case.caseId)
  rw [delivery.whole_transitions other log] at said
  obtain ⟨restarting, ⟨left, log'⟩⟩ := crashed
  dsimp only at stopped said
  cases stopped with
  | unrecorded =>
      have before := congrFun delivery.transitions_mid delivery.case.caseId
      rcases Handler.exec_webhookPaymentFailed_postgres deployment deployment.config true entity
        restarted delivery.mid log' with
        ⟨shared, _⟩ | ⟨again, shared⟩
      · rw [congrArg Shared.store shared] at said
        have added : delivery.entries.map (·.transition) = [] := by
          have same : delivery.mid.transitions delivery.case.caseId = _ := said
          rw [before] at same
          simpa using same
        have began := delivery.first
        rw [List.map_eq_nil_iff.mp added] at began
        cases began
      · rw [congrArg Shared.store shared] at said
        have all : again.entries = again.entries ++ [] := (List.append_nil _).symm
        have same
            : (again.last.appendAll again.entries).transitions delivery.case.caseId = _ := said
        rw [again.transitions_taken all, before] at same
        exact delivery.again_transitions harmful again (List.append_cancel_left same)
  | @unlogged taken rest split more =>
      have recorded
          : (delivery.last.appendAll taken).findAttemptByPaymentId (entity.id.getD "") ≠ none := by
        unfold PostgresCaseStore.findAttemptByPaymentId
        rw [(PostgresCaseStore.appendAll_kept _ _).2, delivery.payment]
        exact (PostgresCaseStore.recordFailure_kept delivery.recorded).2.2
      rcases Handler.exec_webhookPaymentFailed_postgres deployment deployment.config true entity
        restarted (delivery.last.appendAll taken) log' with
        ⟨shared, _⟩ | ⟨again, _⟩
      · rw [congrArg Shared.store shared] at said
        have same : (delivery.last.appendAll taken).transitions delivery.case.caseId = _ := said
        rw [delivery.transitions_taken split, delivery.filter_entries split, split] at same
        have lengths := congrArg List.length (List.append_cancel_left same)
        simp only [List.length_map, List.length_append] at lengths
        exact more (List.eq_nil_of_length_eq_zero (by omega))
      · exact recorded again.unrecorded

/-- A webhook that was interrupted before any of its store calls converges when it is delivered
again exactly where the crash is harmless.
-/
theorem crash_converges_iff (deployment : Deployment) {world : World} {store : PostgresCaseStore}
    (postgres : world.store = .postgres store) (signed : Bool) (entity : PaymentEntity) {op : Op}
    {crashed : World}
    (crash
      : Handler.Stops deployment (Handler.webhookPaymentFailed deployment.config signed entity)
          world op crashed)
    {point : CrashPoint} (call : op.crashPoint = some point) (restarted : Worker)
    : Converges deployment signed entity world crashed restarted
      ↔ HarmlessCrash store entity point := by
  obtain ⟨worker, ⟨_, log⟩⟩ := world
  cases postgres
  rcases Handler.stops_webhookPaymentFailed crash call with
    ⟨rfl, shared⟩ | ⟨rfl, delivery, stopped, sameLog⟩
  · refine iff_of_true ⟨restarted, fun caseId => ?_⟩ trivial
    rw [shared]
  by_cases harmless : HarmlessCrash store entity point
  swap
  · exact iff_of_false (delivery.not_converges stopped harmless restarted) harmless
  refine iff_of_true ⟨restarted, fun caseId => ?_⟩ harmless
  obtain ⟨restarting, ⟨left, _⟩⟩ := crashed
  cases sameLog
  cases stopped with
  | unlogged split more => exact harmless.elim
  | unrecorded =>
      -- The case was written back as it was.
      rw [delivery.mid_resting harmless]

/-- A failure of ₹500 on one mandate. -/
def declinedPayment : PaymentEntity where
  id := some "pay_2"
  amount := some 50000
  currency := some "INR"
  method := some "upi"
  vpa := some "a@upi"
  errorCode := some (.str "upi_timeout")
  errorReason := .null
  errorSource := .str "issuer"
  errorStep := .str "payment_authorization"
  createdAt := some 1788580800
  mandateId := some "mandate_1"
  notes := []

/-- Where its webhook stops after so many requests, on an empty Postgres store. -/
def stoppedAt (n : Nat) : Option (Op × World) :=
  Program.requestAt (World.answer demoDeployment) n
    (Handler.webhookPaymentFailed demoDeployment.config true declinedPayment).run
    (World.start true demoClock)

/-- Its fifth request records the payment. -/
theorem stoppedAt_unrecorded
    : ∃ op crashed, stoppedAt 4 = some (op, crashed) ∧ op.crashPoint = some .unrecorded := by
  have stopped : (stoppedAt 4).map (·.1.crashPoint) = some (some .unrecorded) := by
    decide +kernel
  obtain ⟨⟨op, crashed⟩, reached, call⟩ := Option.map_eq_some_iff.mp stopped
  exact ⟨op, crashed, reached, call⟩

/-- The first webhook of a service, interrupted there. -/
theorem crash_converges_unrecorded
    : ∃ op crashed,
        stoppedAt 4 = some (op, crashed) ∧ op.crashPoint = some .unrecorded
        ∧ (Converges demoDeployment true declinedPayment (World.start true demoClock) crashed
            crashed.toWorker
          ↔ HarmlessCrash {} declinedPayment .unrecorded) := by
  obtain ⟨op, crashed, reached, call⟩ := stoppedAt_unrecorded
  exact ⟨op, crashed, reached, call,
    crash_converges_iff demoDeployment rfl true declinedPayment ⟨4, reached⟩ call _⟩

/-- A crash and the delivery that follows it need not converge. Witness: the first webhook of a
service, which stops before its payment is recorded.
-/
theorem crash_not_converges
    : ¬ ∀ (deployment : Deployment) (clock : ServiceClock) (activities : List Activity)
        (signed : Bool) (entity : PaymentEntity) (op : Op) (crashed : World) (point : CrashPoint)
        (restarted : Worker),
        let world := activities.foldl (World.act deployment) (World.start true clock)
        Handler.Stops deployment (Handler.webhookPaymentFailed deployment.config signed entity)
            world op crashed
        → op.crashPoint = some point
        → Converges deployment signed entity world crashed restarted := by
  intro claimed
  obtain ⟨op, crashed, reached, call⟩ := stoppedAt_unrecorded
  have stops
      : Handler.Stops demoDeployment
          (Handler.webhookPaymentFailed demoDeployment.config true declinedPayment)
          (World.start true demoClock) op crashed :=
    ⟨4, reached⟩
  have converges := claimed demoDeployment demoClock [] true declinedPayment op crashed
    .unrecorded crashed.toWorker stops call
  rcases Handler.stops_webhookPaymentFailed stops call with ⟨early, _⟩ | ⟨_, delivery, stopped, _⟩
  · cases early
  · refine delivery.not_converges stopped (fun ⟨case, found, _⟩ => ?_) _ converges
    cases found

end RecoveryAgent
