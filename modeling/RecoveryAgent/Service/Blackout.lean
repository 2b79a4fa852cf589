import RecoveryAgent.Service.NextRetry

/-! Whether executions keep out of the peak windows.
The scheduler moves a retry out of the windows, but `execute_retry` runs whenever it is called
and only checks that the retry is due.
-/

namespace RecoveryAgent

open StateMachine Handler

/-- No entry of a trail that moves the case into RETRY_EXECUTED lies in a peak window. -/
def OutsideWindows (config : AppConfig) (trail : List AuditEntry) : Prop :=
  ∀ entry ∈ trail, entry.Enters .retryExecuted → ¬ config.npciRules.inPeak entry.timestamp

/-- An `execute_retry` that gets to the commit of a case does so outside the peak windows, by
the clock reading its audit entry is stamped with.
-/
def CalledOutsideWindows (deployment : Deployment) (world : World) (event : Event) : Prop :=
  ∀ segment case decision,
    event = .request (.executeRetry segment)
    → deployment.useEtcd = true
    → Admitted deployment world segment.text case decision
    → ¬ deployment.config.npciRules.inPeak (world.clock.reading 3)

section Trails

variable {deployment : Deployment} {world : World} {caseId : String} {clock : ServiceClock}
  {event : Event} {view : CaseView}

/-- Trails only grow. -/
theorem Moved.trail_extends (moved : Moved deployment world clock caseId event view)
    : (world.view caseId).trail <+: view.trail := by
  cases moved with
  | same => exact List.prefix_refl _
  | stepped spends step =>
      cases step with
      | same => exact List.prefix_refl _
      | counted => exact List.prefix_refl _
      | noticeLost => exact List.prefix_refl _
      | _ => exact List.prefix_append _ _
  | reordered => exact List.prefix_refl _
  | _ => exact List.prefix_append _ _

/-- An event adds an entry into RETRY_EXECUTED only as an `execute_retry` that gets to its
commit, and stamps it with its fourth reading.
-/
theorem Moved.added_execution (moved : Moved deployment world clock caseId event view)
    {entry : AuditEntry} (listed : entry ∈ view.trail) (enters : entry.Enters .retryExecuted)
    : entry ∈ (world.view caseId).trail
      ∨ ∃ segment case decision,
          event = .request (.executeRetry segment)
          ∧ deployment.useEtcd = true
          ∧ Admitted deployment world segment.text case decision
          ∧ entry.timestamp = world.clock.reading 3 := by
  have plain {written : List AuditEntry}
      (plain : ∀ entry ∈ written, ¬ entry.Enters .retryExecuted)
      (listed : entry ∈ (world.view caseId).trail ++ written)
      : entry ∈ (world.view caseId).trail :=
    (List.mem_append.mp listed).resolve_right fun added => plain entry added enters
  cases moved with
  | same => exact .inl listed
  | stepped spends step =>
      left
      cases step with
      | same => exact listed
      | opened early absent opened part =>
          exact plain (fun entry member enters =>
            opened.notExecuted entry (part.subset member) enters.1) listed
      | answered early stored answer part flags =>
          exact plain (fun entry member =>
            (answer.entries_plain entry (part.subset member)).2.2.2.1) listed
      | counted inMemory stored executed unclassifiable => exact listed
      | noticeLost stored pending => exact listed
      | noticed demo early stored pending decided first =>
          exact plain (by simp [noticeEntries, AuditEntry.Enters]) listed
      | noticedAgain demo early stored pending decided again =>
          exact plain (by simp [noticeEntries, AuditEntry.Enters]) listed
      | resolved early stored escalated =>
          exact plain (by simp [humanResolution, AuditEntry.Enters]) listed
  | approved named spends etcd admitted uncommitted =>
      subst named
      rcases List.mem_append.mp listed with old | new
      · exact .inl old
      · exact .inr ⟨_, _, _, rfl, etcd, admitted, by rw [List.mem_singleton.mp new]; rfl⟩
  | healed named spends etcd admitted committed =>
      subst named
      rcases List.mem_append.mp listed with old | new
      · exact .inl old
      · exact .inr ⟨_, _, _, rfl, etcd, admitted, by rw [List.mem_singleton.mp new]; rfl⟩
  | escalated named spends stored scheduled =>
      exact .inl (plain (by simp [distressSignal, AuditEntry.Enters]) listed)
  | reordered spends perm kept => exact .inl listed

end Trails

/-- An `execute_retry` that gets to its commit moves the case, approved or healed. -/
theorem Admitted.executes {deployment : Deployment} {world : World} {segment : PathSegment}
    {case : RecoveryCase} {decision : RetryDecision}
    (admitted : Admitted deployment world segment.text case decision)
    (etcd : deployment.useEtcd = true) (sound : SoundLog world.log)
    : ∃ entry ∈ ((world.handle deployment (.request (.executeRetry segment))).view
          segment.text).trail,
        entry.Enters .retryExecuted ∧ entry.timestamp = world.clock.reading 3 := by
  have outcome := exec_executeRetry deployment world sound segment
  have handled : world.handle deployment (.request (.executeRetry segment))
      = (exec deployment (executeRetry deployment segment) world).2 := rfl
  rw [handled]
  generalize (exec deployment (executeRetry deployment segment) world).2 = world' at outcome
  cases outcome with
  | @approved case' _ _ _ _ touched =>
      rw [touched.here]
      exact ⟨effectApplied case'.caseId (world.clock.reading 3), by simp [executedView],
        by simp [effectApplied, AuditEntry.Enters], rfl⟩
  | @healed case' _ _ _ _ touched =>
      rw [touched.here]
      exact ⟨effectApplied case'.caseId (world.clock.reading 3), by simp [executedView],
        by simp [effectApplied, AuditEntry.Enters], rfl⟩
  | escalated stored scheduled distressed touched =>
      cases admitted.stored.symm.trans stored
      rw [admitted.calm] at distressed
      cases distressed
  | idle turned spent touched =>
      rw [turned _ _ admitted] at etcd
      cases etcd

/-- Entries stay in their trail for the rest of the run. -/
theorem World.Regular.trail_subset {deployment : Deployment} {world : World}
    (regular : world.Regular) (events : List Event) (caseId : String)
    : (world.view caseId).trail ⊆ ((world.run deployment events).view caseId).trail := by
  intro entry listed
  let inv (world : World) : Prop := world.Regular ∧ entry ∈ (world.view caseId).trail
  have start : inv world := ⟨regular, listed⟩
  have kept : inv (world.run deployment events) :=
    Run.keeps start (fun world event ⟨regular, listed⟩ => ⟨regular.handle event,
      ((World.handle_moved deployment regular.sound event).2 caseId).trail_extends.subset
        listed⟩) events
  exact kept.2

/-- In a run of the service, the executions of all cases keep out of the peak windows exactly
if every `execute_retry` that gets to its commit is called outside of them. Witness: such a
call adds an entry stamped at its fourth reading, nothing else adds one, and none is lost.
-/
theorem executions_outside_iff (deployment : Deployment) (usePostgres : Bool)
    (clock : ServiceClock) (events : List Event)
    : (∀ caseId,
        OutsideWindows deployment.config
          (((World.start usePostgres clock).run deployment events).view caseId).trail)
      ↔ Run.Along (World.handle deployment) (World.start usePostgres clock) events
          (CalledOutsideWindows deployment) := by
  constructor
  · rintro outside before event after rfl segment case decision rfl etcd admitted
    have regular := World.regular_run deployment usePostgres clock before
    obtain ⟨entry, added, enters, stamped⟩ := admitted.executes etcd regular.sound
    rw [← stamped]
    refine outside segment.text entry ?_ enters
    have later := @World.Regular.trail_subset deployment _
      (regular.handle (.request (.executeRetry segment))) after segment.text _ added
    simpa [World.run] using later
  · intro called
    let inv (world : World) : Prop :=
      world.Regular ∧ ∀ caseId, OutsideWindows deployment.config (world.view caseId).trail
    have start : inv (World.start usePostgres clock) := by
      refine ⟨World.regular_start usePostgres clock, fun caseId => ?_⟩
      rw [World.view_start]
      simp [OutsideWindows]
    have kept : inv ((World.start usePostgres clock).run deployment events) := by
      refine called.keeps start fun world event ⟨regular, outside⟩ called =>
        ⟨regular.handle event, fun caseId entry listed enters => ?_⟩
      rcases ((World.handle_moved deployment regular.sound event).2 caseId).added_execution
        listed enters with old | ⟨segment, case, decision, same, etcd, admitted, stamped⟩
      · exact outside caseId entry old enters
      · rw [stamped]
        exact called segment case decision same etcd admitted
    exact kept.2

/-- A first retry that is called at 10:30 in India, five days after its notice. -/
def retryInWindow : List Event :=
  declineAndNotice "pay_2" ++ [.request (.advanceClock (hours 25)), retry]

/-- Executions do not always keep out of the peak windows. Witness: under the shipped rules
the window from 10:00 to 13:00 covers the time a first retry is called at.
-/
theorem executions_not_outside
    : ¬ ∀ (deployment : Deployment) (usePostgres : Bool) (clock : ServiceClock)
        (events : List Event) (caseId : String),
        deployment.useEtcd = true
        → OutsideWindows deployment.config
            (((World.start usePostgres clock).run deployment events).view caseId).trail := by
  intro claimed
  have outside := claimed demoDeployment false demoClock retryInWindow "pay_2" rfl
  have inside
      : ∃ entry
          ∈ (((World.start false demoClock).run demoDeployment retryInWindow).view "pay_2").trail,
          entry.Enters .retryExecuted
          ∧ demoDeployment.config.npciRules.inPeak entry.timestamp := by
    decide +kernel
  obtain ⟨entry, listed, enters, peak⟩ := inside
  exact outside entry listed enters peak

end RecoveryAgent
