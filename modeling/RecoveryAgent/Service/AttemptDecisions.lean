import RecoveryAgent.Service.CaseMoves
import RecoveryAgent.Service.Issuing
import RecoveryAgent.Service.NextRetry

/-! The decisions recorded for a case in memory, over whole runs of the service.
They are numbered from one on without a gap. How many there are is tied to the retries the
case has used by the state it is in, and each refers to a commit of its own.
-/

namespace RecoveryAgent

open StateMachine

-----------------------------------------------------------------------------------------
-- The commit a decision refers to
-----------------------------------------------------------------------------------------

/-- The reference `mark_notice_sent` gives a decision. -/
def RetryDecision.Referenced (decision : RetryDecision) : Prop :=
  decision.commitRef
    = "retry-" ++ decision.caseId ++ "-" ++ toString decision.attemptNumber

/-- The reference reads back: the digits after its last hyphen are the attempt. -/
theorem RetryDecision.Referenced.inj {decision decision' : RetryDecision}
    (referenced : decision.Referenced) (referenced' : decision'.Referenced)
    (same : decision.commitRef = decision'.commitRef)
    : decision.caseId = decision'.caseId
      ∧ decision.attemptNumber = decision'.attemptNumber := by
  have noHyphen (n : Nat) : '-' ∉ Nat.toDigits 10 n := by
    intro member
    have digit : '-'.isDigit = true :=
      Nat.isDigit_of_mem_toDigits (by decide) (by decide) member
    exact absurd digit (by decide)
  have lists := congrArg String.toList same
  rw [referenced, referenced'] at lists
  simp only [String.toList_append, List.append_assoc, Nat.toString_eq_repr, Nat.toList_repr]
    at lists
  obtain ⟨ids, digits⟩ :=
    (EtcdQuorumBackend.append_cons_inj_of_last (noHyphen _) (noHyphen _)).mp
      (List.append_cancel_left lists)
  refine ⟨String.toList_inj.mp ids, Nat.repr_inj.mp (String.toList_inj.mp ?_)⟩
  simpa only [Nat.toList_repr] using digits

/-- A decision for a notice refers to its own case and attempt. -/
theorem StateMachine.markNoticeSent_referenced {case : RecoveryCase} {config : AppConfig}
    {clock : Clock} {reasonCode : Option String} {previous : Option Datetime}
    {bandit : Option Suggest} {entries : List AuditEntry} {decision : RetryDecision}
    (sent
      : (markNoticeSent case config clock reasonCode previous bandit).result
        = .ok (entries, decision))
    : decision.Referenced := by
  unfold markNoticeSent at sent
  dsimp only at sent
  split at sent
  · cases sent
  split at sent
  · cases sent
  next decided created =>
  cases sent
  simp only [bind, Except.bind] at created
  split at created
  · cases created
  unfold RetryDecision.create at created
  repeat' split at created
  all_goals cases created
  rfl

/-- The recorded decisions refer to their own cases and attempts. -/
def World.Referenced (world : World) : Prop :=
  ∀ caseId, ∀ decision ∈ (world.view caseId).decisions, decision.Referenced

/-- Only decisions that refer to their own attempt are recorded, and none is replaced. -/
def Op.Refers : Op → Prop
  | .recordRetryDecision decision => decision.Referenced
  | .updateRetryDecision _ => False
  | _ => True

theorem Op.Plain.refers {op : Op} (plain : op.Plain) : op.Refers := by
  cases op with
  | recordRetryDecision | updateRetryDecision => exact plain.elim
  | _ => trivial

namespace World.Referenced

variable {world : World}

/-- A world whose decisions are those of a world before it. -/
theorem same {world' : World} (referenced : world.Referenced)
    (kept
      : ∀ caseId, ∀ decision ∈ (world'.store.view caseId).decisions,
          decision ∈ (world.store.view caseId).decisions)
    : world'.Referenced :=
  fun caseId decision listed => referenced caseId decision (kept caseId decision listed)

/-- A store call that leaves the decisions alone keeps the references. -/
theorem stored (referenced : world.Referenced) {answered : Except StoreException CaseStore}
    (kept
      : ∀ store, answered = .ok store
        → ∀ caseId, (store.view caseId).decisions = (world.store.view caseId).decisions)
    : (world.stored answered).2.Referenced := by
  cases answered with
  | error raised => exact referenced
  | ok store => exact referenced.same fun caseId decision listed => kept store rfl caseId ▸ listed

/-- Every operation that is asked for keeps the references. -/
theorem answer (referenced : world.Referenced) (deployment : Deployment) {op : Op}
    (refers : op.Refers)
    : (world.answer deployment op).2.Referenced := by
  have updated {store : CaseStore} {caseId : String} {view : CaseStore.View}
      (views : store.view = Function.update world.store.view caseId view)
      (same : view.decisions = (world.store.view caseId).decisions) (other : String)
      : (store.view other).decisions = (world.store.view other).decisions := by
    rw [views, Function.update_apply]
    split
    · next here => rw [same, here]
    · rfl
  cases op with
  | createCase case =>
      exact referenced.stored fun store created =>
        updated (CaseStore.view_createCase created).2 rfl
  | updateCase case =>
      exact referenced.stored fun store done => updated (CaseStore.view_updateCase done) rfl
  | insertAudit entry =>
      exact referenced.stored fun store inserted =>
        updated (CaseStore.view_insertAudit inserted) rfl
  | recordFailure event =>
      refine referenced.stored fun store recorded caseId => ?_
      rw [CaseStore.view_recordFailure recorded]
  | mutateCase case =>
      refine referenced.same fun caseId decision listed => ?_
      have same
          : ((world.store.mutateCase case).view caseId).decisions
            = (world.store.view caseId).decisions := by
        rcases world.store.view_mutateCase case with same | ⟨_, overwritten⟩
        · rw [same]
        · exact updated overwritten rfl caseId
      exact same ▸ listed
  | recordRetryDecision decision =>
      simp only [World.answer]
      cases recorded : world.store.recordRetryDecision decision with
      | error raised => exact referenced
      | ok store =>
          intro caseId old listed
          change old ∈ (store.view caseId).decisions at listed
          rw [(CaseStore.view_recordRetryDecision recorded).2, Function.update_apply] at listed
          split at listed
          · rcases List.mem_append.mp listed with earlier | new
            · exact referenced _ old earlier
            · rw [List.mem_singleton.mp new]
              exact refers
          · exact referenced caseId old listed
  | updateRetryDecision decision => exact refers.elim
  | nextSequence =>
      refine referenced.same fun caseId decision listed => ?_
      rw [← world.store.view_nextSequence]
      exact listed
  | commitEffect caseId attempt effect =>
      simp only [World.answer, World.commitEffect]
      split <;> exact referenced
  | advanceClock delta =>
      simp only [World.answer]
      split <;> exact referenced
  | _ => exact referenced

theorem exec {α : Type} (referenced : world.Referenced) (deployment : Deployment)
    {handler : Handler α} (issues : Handler.Issues Op.Refers handler)
    : (Handler.exec deployment handler world).2.Referenced :=
  Program.Uses.execute_keeps issues
    (fun _ _ refers kept => kept.answer deployment refers) world referenced

/-- What one worker does to one case leaves the decisions of the others. -/
theorem touched {world' : World} (referenced : world.Referenced) {spent : Nat}
    {caseId : String} {view : CaseView} (touched : world.Touched world' spent caseId view)
    (kept : view.decisions = (world.view caseId).decisions)
    : world'.Referenced := by
  refine referenced.same fun other decision listed => ?_
  by_cases here : other = caseId
  · have same : (world'.store.view caseId).decisions = (world.store.view caseId).decisions :=
      (congrArg CaseView.decisions touched.here).trans kept
    rw [here] at listed ⊢
    exact same ▸ listed
  · have same : (world'.store.view other).decisions = (world.store.view other).decisions :=
      congrArg CaseView.decisions (touched.elsewhere other here)
    exact same ▸ listed

/-- Every activity keeps the references. Witness: an execution writes back the decision it
has read, and nothing else writes decisions but a notice.
-/
theorem act (referenced : world.Referenced) (sound : SoundLog world.log)
    (deployment : Deployment) (activity : Activity)
    : (world.act deployment activity).Referenced := by
  cases activity with
  | called caseId operation =>
      exact referenced.exec deployment
        ((Handler.issues_operate _ caseId operation).mono fun _ plain => plain.refers)
  | served event =>
      cases event with
      | reorder cases decisions =>
          refine referenced.same fun caseId decision listed => ?_
          obtain ⟨ordered, perm, _, views⟩ := world.store.view_reorder cases decisions caseId
          have here : ((world.store.reorder cases decisions).view caseId).decisions = ordered :=
            congrArg CaseStore.View.decisions views
          exact perm.mem_iff.mpr (here ▸ listed)
      | request request =>
          by_cases executes : ∃ segment, request = .executeRetry segment
          · obtain ⟨segment, rfl⟩ := executes
            have outcome := Handler.exec_executeRetry deployment world sound segment
            cases outcome with
            | approved admitted etcd uncommitted touched => exact referenced.touched touched rfl
            | healed admitted etcd committed touched => exact referenced.touched touched rfl
            | escalated stored scheduled distressed touched =>
                exact referenced.touched touched rfl
            | idle turned spent touched => exact referenced.touched touched rfl
          · exact referenced.exec deployment <|
              Handler.issues_request deployment (fun _ plain => plain.refers)
                (fun _ _ _ _ _ sent => markNoticeSent_referenced sent) (fun _ _ _ => trivial)
                fun segment same => executes ⟨segment, same⟩

end World.Referenced

-----------------------------------------------------------------------------------------
-- The attempts of a case
-----------------------------------------------------------------------------------------

/-- The decisions of a case are for its attempts from one on. The attempt after the retries
used is decided while that retry is ahead or under way, and not yet while its notice is due.
-/
structure TracksAttempts (case : RecoveryCase) (decisions : List RetryDecision) : Prop where
  attempts : decisions.map (·.attemptNumber) = List.range' 1 decisions.length
  decided
    : case.state ∈ [CaseState.retryScheduled, .throttled, .retryExecuted]
      → decisions.length = case.retriesUsed + 1
  undecided : case.state = .noticePending → decisions.length = case.retriesUsed

namespace TracksAttempts

variable {case case' : RecoveryCase} {decisions : List RetryDecision}

theorem opened {event : PaymentFailureEvent} {now : Datetime} {entries : List AuditEntry}
    (opened : Opened event now case entries)
    : TracksAttempts case [] where
  attempts := rfl
  decided next := by
    have opening := opened.state
    simp only [openingState, List.mem_cons, List.not_mem_nil, or_false] at next opening
    rcases next with state | state | state <;> simp [state] at opening
  undecided _ := opened.retriesUsed.symm

/-- A case that goes where no retry is ahead keeps to its decisions. -/
theorem left (tracks : TracksAttempts case decisions)
    (away
      : case'.state
        ∉ [CaseState.retryScheduled, .throttled, .retryExecuted, .noticePending])
    : TracksAttempts case' decisions where
  attempts := tracks.attempts
  decided next := by
    refine absurd ?_ away
    simp only [List.mem_cons] at next ⊢
    tauto
  undecided pending := by simp [pending] at away

/-- A payment event decides nothing: a failed retry is counted as the notice of the next one
comes due.
-/
theorem answered (tracks : TracksAttempts case decisions) {config : AppConfig} {now : Datetime}
    {entries : List AuditEntry} (answer : Answer config now case case' entries)
    : TracksAttempts case' decisions := by
  cases answer with
  | noted rule cited => exact tracks
  | settled settles outcome rule cited =>
      refine tracks.left ?_
      rcases settles.target with rfl | rfl | rfl | rfl <;> simp
  | evaluated executed eligible rule cited =>
      have used := tracks.decided (by simp [executed])
      refine ⟨tracks.attempts, fun next => ?_, fun _ => used⟩
      rcases eligible with rfl | ⟨rfl, _⟩ <;> simp at next

/-- So does every other transition, but that of a notice which is sent. -/
theorem transition (tracks : TracksAttempts case decisions) {config : AppConfig}
    {now : Datetime} {entries : List AuditEntry}
    (step : Transition config now case case' entries)
    (unsent : case.state = .noticePending → case'.state ≠ .retryScheduled)
    : TracksAttempts case' decisions := by
  cases step with
  | unchanged => exact tracks
  | answered answer => exact tracks.answered answer
  | @triggered toState triggers rule cited =>
      have used : decisions.length = case.retriesUsed + 1 := by
        refine tracks.decided ?_
        generalize case.state = state at triggers
        cases triggers <;> simp
      refine ⟨tracks.attempts, fun _ => used, fun pending => ?_⟩
      change toState = _ at pending
      generalize case.state = state at triggers
      cases triggers <;> cases pending
  | noticeLost pending => exact tracks.left (by simp)
  | noticed pending scheduledAt => exact absurd rfl (unsent pending)

/-- A notice that is sent decides the attempt after the retries used. -/
theorem noticed (tracks : TracksAttempts case decisions) (pending : case.state = .noticePending)
    {decision : RetryDecision} (next : decision.attemptNumber = case.retriesUsed + 1)
    : TracksAttempts { case with state := .retryScheduled } (decisions ++ [decision]) where
  attempts := by
    rw [List.map_append, tracks.attempts, List.length_append, List.map_singleton, next,
      ← tracks.undecided pending, List.length_singleton, List.range'_concat]
    simp [Nat.add_comm]
  decided _ := by simp [tracks.undecided pending]
  undecided := nofun

/-- The attempt of a notice that is due has no decision yet. -/
theorem next_undecided (tracks : TracksAttempts case decisions)
    (pending : case.state = .noticePending)
    : case.retriesUsed + 1 ∉ decisions.map (·.attemptNumber) := by
  rw [tracks.attempts, tracks.undecided pending, List.mem_range'_1]
  omega

end TracksAttempts

/-- What holds of what is stored about a case: no decision is before the case is. -/
structure CaseView.Tracks (view : CaseView) : Prop where
  absent : view.case = none → view.decisions = []
  stored : ∀ case, view.case = some case → TracksAttempts case view.decisions

-----------------------------------------------------------------------------------------
-- Activities
-----------------------------------------------------------------------------------------

/-- A failure delivery carries codes that can be classified: text, or none. -/
def Event.StringCodes : Event → Prop
  | .request (.paymentFailed _ entity) =>
      (entity.errorCode.getD (.str "")).isCode ∧ entity.errorReason.isCode
  | _ => True

/-- Failures can be classified, and notices are sent by `send_notice`, which records their
decisions.
-/
def Activity.Records : Activity → Prop
  | .served event => event.StringCodes
  | .called _ (.markNoticeSent _ _ _) => False
  | .called _ operation => operation.StringCodes

/-- A request with such codes cannot fail over them. -/
theorem Event.StringCodes.classifiable {request : Request}
    (codes : (Event.request request).StringCodes) (config : AppConfig) (store : CaseStore)
    (case : RecoveryCase)
    : ¬ request.Unclassifiable config store case := by
  cases request with
  | paymentFailed signed entity =>
      rintro ⟨_, raised, failed⟩
      obtain ⟨_, classified⟩ := classifyFailure_ok config codes.1 codes.2
      rw [classified] at failed
      cases failed
  | simulateFailure request =>
      rintro ⟨_, raised, failed⟩
      have reason : ((request.errorReason.map Json.str).getD .null).isCode := by
        cases request.errorReason with
        | none => exact Json.isCode_null
        | some text => exact Json.isCode_str text
      obtain ⟨_, classified⟩ := classifyFailure_ok config (Json.isCode_str _) reason
      rw [classified] at failed
      cases failed
  | _ => exact id

/-- Without `send_notice` no call schedules a case whose notice is due. -/
theorem StateMachine.Tracked.call_unsent (config : AppConfig) {case : RecoveryCase}
    (clock : Clock) {operation : Operation}
    (other
      : ∀ reasonCode previous bandit, operation ≠ .markNoticeSent reasonCode previous bandit)
    (pending : case.state = .noticePending)
    : (call config case clock operation).1.state ≠ .retryScheduled := by
  cases operation with
  | paymentSucceeded event =>
      intro scheduled
      rcases (handlePaymentSuccess_answer case config clock event).state_cases with
        same | ⟨_, _, state⟩ | ⟨_, state⟩
      · simp only [call, same, pending] at scheduled
        cases scheduled
      · simp only [call] at scheduled
        simp [scheduled] at state
      · simp only [call] at scheduled
        simp [scheduled] at state
  | paymentFailed event =>
      simp [call, handlePaymentFailed, handleExistingFailure, pending, kept, Except.map]
  | markNoticeSent reasonCode previous bandit => exact absurd rfl (other _ _ _)
  | markRetryExecuted decision =>
      simp [call, StateMachine.markRetryExecuted, pending, kept, Except.map]
  | attemptExecution decision commit =>
      simp [call, StateMachine.attemptExecution, pending, kept, Except.map]
  | applyThrottle => simp [call, StateMachine.applyThrottle, trigger, pending, kept]
  | releaseThrottle => simp [call, StateMachine.releaseThrottle, trigger, pending, kept]

namespace CaseView.Tracks

variable {view : CaseView}

/-- Where the decisions stay, only the case has to be looked at. -/
theorem replaced {case' : RecoveryCase} {decisions : List RetryDecision}
    {trail : List AuditEntry} {committed : List Nat} (tracks : TracksAttempts case' decisions)
    : CaseView.Tracks { case := some case', decisions, trail, committed } where
  absent := nofun
  stored := by
    rintro _ ⟨⟩
    exact tracks

/-- Every step keeps the decisions with the attempts. -/
theorem step {config : AppConfig} {request : Request} {world : World} {spent : Nat}
    {caseId : String} (tracks : (world.view caseId).Tracks)
    (codes : (Event.request request).StringCodes)
    (step : CaseStep config request world spent caseId view)
    : view.Tracks := by
  cases step with
  | same => exact tracks
  | opened early absent opened part =>
      have none_ := tracks.absent absent
      exact replaced (none_ ▸ .opened opened)
  | answered early stored answer part flags =>
      exact replaced ((tracks.stored _ stored).answered answer)
  | counted inMemory stored executed unclassifiable =>
      exact absurd unclassifiable (codes.classifiable _ _ _)
  | noticeLost stored pending => exact replaced ((tracks.stored _ stored).left (by simp))
  | noticed demo early stored pending decided first =>
      exact replaced ((tracks.stored _ stored).noticed pending decided.attemptNumber)
  | noticedAgain demo early stored pending decided again =>
      rw [decided.attemptNumber] at again
      exact absurd again ((tracks.stored _ stored).next_undecided pending)
  | resolved early stored escalated => exact replaced ((tracks.stored _ stored).left (by simp))

/-- Every event keeps the decisions of every case with its attempts. -/
theorem moved {deployment : Deployment} {world : World} {caseId : String}
    (tracks : (world.view caseId).Tracks) (inMemory : world.store.isInMemory = true)
    {clock : ServiceClock} {event : Event} (codes : event.StringCodes)
    (moved : Moved deployment world clock caseId event view)
    : view.Tracks := by
  have executed {case : RecoveryCase} (stored : (world.view caseId).case = some case)
      (scheduled : case.state = .retryScheduled)
      : TracksAttempts { case with state := .retryExecuted } (world.view caseId).decisions := by
    have kept := tracks.stored case stored
    exact ⟨kept.attempts, fun _ => kept.decided (by simp [scheduled]), nofun⟩
  cases moved with
  | same => exact tracks
  | stepped spends step => exact tracks.step codes step
  | approved named spends etcd admitted uncommitted =>
      exact replaced (executed admitted.stored admitted.scheduled)
  | healed named spends etcd admitted committed =>
      exact replaced (executed admitted.stored admitted.scheduled)
  | escalated named spends stored scheduled =>
      exact replaced ((tracks.stored _ stored).left (by simp))
  | reordered spends perm kept =>
      rw [kept inMemory]
      exact ⟨tracks.absent, tracks.stored⟩

end CaseView.Tracks

/-- Every activity keeps the decisions of every case with its attempts. -/
theorem World.act_tracks (deployment : Deployment) {world : World} (sound : SoundLog world.log)
    (inMemory : world.store.isInMemory = true)
    (tracks : ∀ caseId, (world.view caseId).Tracks) {activity : Activity}
    (records : activity.Records) (caseId : String)
    : ((world.act deployment activity).view caseId).Tracks := by
  cases activity with
  | served event =>
      have moved := (World.handle_moved deployment sound event).2 caseId
      exact (tracks caseId).moved inMemory records moved
  | called named operation =>
      obtain ⟨spent, view, touched, called⟩ :=
        Handler.exec_operate deployment deployment.config sound named operation
      by_cases here : caseId = named
      swap
      · have away := touched.elsewhere caseId here
        exact away ▸ tracks caseId
      have result : (world.act deployment (.called named operation)).view caseId = view :=
        here ▸ touched.here
      rw [result]
      subst here
      rcases called with rfl | ⟨case, stored, rfl⟩
      · exact tracks caseId
      have other reasonCode previous bandit
          : operation ≠ .markNoticeSent reasonCode previous bandit := by
        rintro rfl
        exact records
      have codes : operation.StringCodes := by
        cases operation <;> first | exact records | trivial
      exact .replaced (((tracks caseId).stored case stored).transition
        (Tracked.call_transition _ case _ codes) (Tracked.call_unsent _ _ other))

/-- What holds of the service in memory in every state it reaches. -/
structure World.TracksDecisions (world : World) : Prop where
  sound : SoundLog world.log
  inMemory : world.store.isInMemory = true
  referenced : world.Referenced
  tracks : ∀ caseId, (world.view caseId).Tracks

theorem World.TracksDecisions.act {world : World} (tracked : world.TracksDecisions)
    (deployment : Deployment) {activity : Activity} (records : activity.Records)
    : (world.act deployment activity).TracksDecisions where
  sound := (World.act_moves deployment tracked.sound activity).1
  inMemory := by
    have kept : (world.act deployment activity).store.isInMemory = world.store.isInMemory := by
      cases activity with
      | called caseId operation => exact Handler.exec_isInMemory deployment _ world
      | served event => exact World.handle_isInMemory deployment world event
    exact kept.trans tracked.inMemory
  referenced := tracked.referenced.act tracked.sound deployment activity
  tracks := World.act_tracks deployment tracked.sound tracked.inMemory tracked.tracks records

theorem World.tracksDecisions_start (clock : ServiceClock)
    : (World.start false clock).TracksDecisions where
  sound := by simp [SoundLog, start]
  inMemory := rfl
  referenced caseId decision listed := by
    rw [World.view_start] at listed
    cases listed
  tracks caseId := by
    rw [World.view_start]
    exact ⟨fun _ => rfl, fun case stored => by cases stored⟩

/-- The decisions of one case refer to different commits. -/
theorem World.TracksDecisions.distinct {world : World} (tracked : world.TracksDecisions)
    (caseId : String)
    : ((world.view caseId).decisions.map (·.commitRef)).Nodup := by
  have unique : ((world.view caseId).decisions.map (·.attemptNumber)).Nodup :=
    world.store.view_decisions_unique caseId
  refine List.Nodup.map_on ?_ (List.Nodup.of_map _ unique)
  intro first listed second listed' same
  have referenced := tracked.referenced caseId
  exact List.inj_on_of_nodup_map unique listed listed'
    ((referenced first listed).inj (referenced second listed') same).2

-----------------------------------------------------------------------------------------
-- Notices
-----------------------------------------------------------------------------------------

/-- What is raised where the attempt of a decision has one already. -/
def alreadyRecorded (caseId : String) (attempt : Nat) : Raised :=
  .exception (.store (.inMemory (.decisionAlreadyRecorded caseId attempt)))

namespace Handler

variable {deployment : Deployment} {config : AppConfig} {world : World}

theorem getCase_not_alreadyRecorded (named caseId : String) (attempt : Nat)
    : (exec deployment (getCase named) world).1 ≠ .error (alreadyRecorded caseId attempt) := by
  have run : (exec deployment (getCase named) world).1
      = (exec deployment (orRaise (world.store.getCase named)) world).1 := by
    unfold getCase
    rw [exec_bind]
    rfl
  rw [run]
  cases world.store with
  | inMemory store =>
      simp only [CaseStore.getCase, InMemoryCaseStore.getCase]
      cases store.cases.find? named <;> simp [Except.mapError, orRaise, alreadyRecorded]
  | postgres store =>
      simp only [CaseStore.getCase, PostgresCaseStore.getCase]
      cases store.recoveryCases.find? named <;> simp [Except.mapError, orRaise, alreadyRecorded]

/-- A check that refuses the request raises another error. -/
theorem check_not_alreadyRecorded {c : Prop} [Decidable c] {α : Type} {status : Nat}
    {message : String} {unreached : PUnit → Handler α} {rest : Handler α} {caseId : String}
    {attempt : Nat}
    (passed : ¬ c → (exec deployment rest world).1 ≠ .error (alreadyRecorded caseId attempt))
    : (exec deployment (if c then refuse status message >>= unreached else rest) world).1
      ≠ .error (alreadyRecorded caseId attempt) := by
  by_cases refused : c
  · rw [if_pos refused]
    simp [alreadyRecorded]
  · rw [if_neg refused]
    exact passed refused

/-- Where the attempt of a due notice has no decision, `send_notice` is not refused for one. -/
theorem sendNotice_not_alreadyRecorded {segment : PathSegment}
    (undecided
      : ∀ case, (world.view segment.text).case = some case → case.state = .noticePending
        → case.retriesUsed + 1 ∉ (world.view segment.text).decisions.map (·.attemptNumber))
    (draw : Draw) (caseId : String) (attempt : Nat)
    : (exec deployment (sendNotice config segment draw) world).1
      ≠ .error (alreadyRecorded caseId attempt) := by
  unfold sendNotice
  refine check_not_alreadyRecorded fun _ => ?_
  rw [exec_bind, exec_now]
  refine check_not_alreadyRecorded fun _ => ?_
  rw [exec_bind]
  have missing := @getCase_not_alreadyRecorded deployment (world.tick 1) segment.text caseId attempt
  rcases exec_getCase deployment (world.tick 1) segment.text with
    ⟨case, stored, got⟩ | ⟨absent, raised, got⟩
  swap
  · rw [got] at missing ⊢
    simpa using missing
  rw [got]
  refine check_not_alreadyRecorded fun pending => ?_
  have pending := not_not.mp pending
  have id_eq := CaseStore.view_caseId stored
  rw [exec_bind, exec_readClock]
  dsimp only
  cases result
    : (markNoticeSent case config (world.tick 1).clock.view none none
        (some (slotBandit.suggestFrom draw))).result with
  | error raised =>
      rw [exec_bind]
      change (Except.error (conflict raised) : Except Raised Response) ≠ _
      unfold conflict
      split <;> simp [alreadyRecorded]
  | ok done =>
      obtain ⟨entries, decision⟩ := done
      have sent := markNoticeSent_ok case config (world.tick 1).clock.view result
      have free := undecided case stored pending
      rw [← id_eq] at stored free
      obtain ⟨written, logged, bare, noticed, run⟩ := @exec_noticed deployment config
        ((world.tick 1).tick 2) _ _ _ _ _ _ _ stored sent
      dsimp only
      rw [run, exec_bind]
      rcases exec_recordRetryDecision deployment written decision with
        ⟨last, recorded, _, _⟩ | ⟨taken, _⟩
      · rw [recorded]
        simp [alreadyRecorded]
      · rw [sent.caseId, noticed.view_eq, sent.attemptNumber] at taken
        exact absurd taken free

end Handler

-----------------------------------------------------------------------------------------
-- The result
-----------------------------------------------------------------------------------------

/-- In every run in memory the decisions of a case are for its attempts from one on, each
under a reference of its own, and the next one is decided from its notice to its outcome.
No notice finds its attempt decided.
-/
theorem decisions_track_attempts (deployment : Deployment) (clock : ServiceClock)
    (activities : List Activity) (records : ∀ activity ∈ activities, activity.Records)
    : let world := activities.foldl (World.act deployment) (World.start false clock)
      (∀ segment draw caseId attempt,
        (Handler.exec deployment (Handler.sendNotice deployment.config segment draw) world).1
          ≠ .error (alreadyRecorded caseId attempt))
      ∧ ∀ caseId case,
          (world.view caseId).case = some case
          → TracksAttempts case (world.view caseId).decisions
            ∧ ((world.view caseId).decisions.map (·.commitRef)).Nodup := by
  intro world
  have along
      : Run.Along (World.act deployment) (World.start false clock) activities
          fun _ activity => activity.Records :=
    Run.along_of_forall fun activity member _ => records activity member
  have tracked : world.TracksDecisions :=
    along.keeps (World.tracksDecisions_start clock) fun _ _ tracked records =>
      tracked.act deployment records
  refine ⟨fun segment draw caseId attempt => ?_, fun caseId case stored =>
    ⟨(tracked.tracks caseId).stored case stored, tracked.distinct caseId⟩⟩
  refine Handler.sendNotice_not_alreadyRecorded (fun case stored pending => ?_) draw caseId attempt
  exact ((tracked.tracks segment.text).stored case stored).next_undecided pending

/-- A case that failed twice, with its second retry held back by a throttle. -/
def secondRetryThrottled : List Activity :=
  (declineAndNotice "pay_2" ++ [retry] ++ declineAndNotice "pay_3").map .served
    ++ [.called "pay_2" .applyThrottle]

/-- The throttled case has decisions for its two attempts. -/
theorem decisions_track_attempts_throttled
    : ∃ case,
        ((secondRetryThrottled.foldl (World.act demoDeployment) (.start false demoClock)).view
          "pay_2").case = some case
        ∧ case.state = .throttled ∧ case.retriesUsed = 1
        ∧ TracksAttempts case
            ((secondRetryThrottled.foldl (World.act demoDeployment) (.start false demoClock)).view
              "pay_2").decisions := by
  have tracked := (decisions_track_attempts demoDeployment demoClock secondRetryThrottled
    (by simp [secondRetryThrottled, declineAndNotice, retry, timeout, Activity.Records,
      Event.StringCodes, Operation.StringCodes])).2 "pay_2"
  have held
      : ((secondRetryThrottled.foldl (World.act demoDeployment) (.start false demoClock)).view
          "pay_2").case.map (fun case => (case.state, case.retriesUsed))
        = some (.throttled, 1) := by
    decide +kernel
  generalize secondRetryThrottled.foldl (World.act demoDeployment) (.start false demoClock)
    = world at tracked held ⊢
  obtain ⟨case, stored, state⟩ := Option.map_eq_some_iff.mp held
  exact ⟨case, stored, congrArg Prod.fst state, congrArg Prod.snd state,
    (tracked case stored).1⟩

end RecoveryAgent
