import RecoveryAgent.Service.Accounts
import RecoveryAgent.Service.NextRetry

/-! The retry budget of a case, and what stands behind an execution, whichever way the tasks of
a service interleave: stale writers, lost races, crashes and restarts included.
-/

namespace RecoveryAgent

open StateMachine Handler

namespace Derived

variable {config : AppConfig} {setting : Setting} {archive : Set Item}

-----------------------------------------------------------------------------------------
-- The budget
-----------------------------------------------------------------------------------------

/-- A case that may still be retried has not used up its retries. -/
def Unspent (config : AppConfig) (case : RecoveryCase) : Prop :=
  case.state ∈ [CaseState.noticePending, .retryScheduled, .throttled]
  → (case.retriesUsed : Int) < config.npciRules.maxRetries

/-- A state in which no retry is coming needs no budget. -/
theorem Unspent.away {case : RecoveryCase}
    (away : case.state ∉ [CaseState.noticePending, .retryScheduled, .throttled])
    : Unspent config case :=
  fun waiting => absurd waiting away

/-- An answer begins another cycle only below the cap. -/
theorem Unspent.answered {case case' : RecoveryCase} {now : Datetime} {entries : List AuditEntry}
    (unspent : Unspent config case) (answer : Answer config now case case' entries)
    : Unspent config case' := by
  cases answer with
  | noted rule cited => exact unspent
  | settled settles outcome rule cited =>
      refine .away ?_
      rcases settles.target with h | h | h | h <;> simp [h]
  | evaluated executed eligible rule cited =>
      intro waiting
      rcases eligible with escalated | ⟨-, below⟩
      · simp [escalated] at waiting
      · exact_mod_cast below

theorem unspent (positive : 1 ≤ config.npciRules.maxRetries) {case : RecoveryCase}
    (derived : Derived config setting archive (.row case))
    : Unspent config case := by
  refine derived.row_induction ?_ ?_
  · intro entity event clock case event' entries _ _ handled _
    rw [(handleNewFailure_opened handled).retriesUsed]
    exact positive
  · intro grounds case case' entries unspent sound approvals deed
    cases deed with
    | succeeded event clock asked captured held =>
        exact unspent.answered (handlePaymentSuccess_answer case config clock event)
    | failed reported named held handled =>
        exact unspent.answered (handleExistingFailure_answer case config _ handled)
    | noticed asked read sent =>
        intro _
        rw [sent.case_eq]
        exact unspent (by simp [sent.pending])
    | executed approval now => exact .away (by simp [(approvals _ approval).executes])
    | distressed asked read scheduled now => exact .away (by simp)
    | resolved asked read parsed escalated now => exact .away (by simp)
    | released fired =>
        obtain ⟨throttled, rfl, -⟩ := releaseThrottle_ok fired
        exact fun _ => unspent (by simp [throttled])

/-- A decision is for an attempt within the budget. -/
theorem decision_within (positive : 1 ≤ config.npciRules.maxRetries) {decision : RetryDecision}
    (derived : Derived config setting archive (.decision decision))
    : (decision.attemptNumber : Int) ≤ config.npciRules.maxRetries := by
  cases derived with
  | decided asked read found unrewound sent noticed stored =>
      have below := found.unspent positive (by simp [sent.pending])
      rw [sent.attemptNumber]
      exact_mod_cast below

/-- A commit is for the attempt of a decision for its case, made no earlier than the decision says,
if the run is timed.
-/
theorem commit_decided {effect : Effect} (derived : Derived config setting archive (.effect effect))
    : ∃ decision now,
        Derived config setting archive (.decision decision)
        ∧ decision.caseId = effect.caseId
        ∧ decision.attemptNumber = effect.attempt
        ∧ effect.at_ = isoformat now
        ∧ (setting.timed → decision.scheduledAt ≤ now) := by
  cases derived with
  | committed asked read found scheduled pending named reached ordered stored =>
      exact ⟨_, _, pending, named, rfl, rfl, fun timed => reached.trans (ordered timed)⟩

-----------------------------------------------------------------------------------------
-- Executions
-----------------------------------------------------------------------------------------

/-- Some attempt of the case is committed. -/
def Backed (archive : Set Item) (caseId : String) : Prop :=
  ∃ effect, .effect effect ∈ archive ∧ effect.caseId = caseId

/-- A case is in RETRY_EXECUTED, or has been, only if an attempt of it is committed. -/
def RanBacked (archive : Set Item) (case : RecoveryCase) : Prop :=
  case.state = .retryExecuted ∨ 0 < case.retriesUsed → Backed archive case.caseId

theorem ran_backed {case : RecoveryCase} (derived : Derived config setting archive (.row case))
    : RanBacked archive case := by
  refine derived.row_induction ?_ ?_
  · intro entity event clock case event' entries _ _ handled ran
    have opened := handleNewFailure_opened handled
    have state := opened.state
    rcases ran with executed | used
    · simp [executed, openingState] at state
    · exact absurd opened.retriesUsed used.ne'
  · intro grounds case case' entries backed sound approvals deed
    unfold RanBacked
    rw [deed.sameCase.caseId]
    have answered {now : Datetime} (answer : Answer config now case case' entries)
        (ran : case'.state = .retryExecuted ∨ 0 < case'.retriesUsed)
        : Backed archive case.caseId := by
      rcases answer.state_cases with rfl | ⟨executed, -⟩ | ⟨kept, moved⟩
      · exact backed ran
      · exact backed (.inl executed)
      · refine backed (.inr ?_)
        rcases ran with executed | used
        · simp [executed] at moved
        · exact kept ▸ used
    cases deed with
    | succeeded event clock asked captured held =>
        exact answered (handlePaymentSuccess_answer case config clock event)
    | failed reported named held handled =>
        exact answered (handleExistingFailure_answer case config _ handled)
    | noticed asked read sent =>
        rw [sent.case_eq]
        simpa using fun used => backed (.inr used)
    | executed approval now =>
        exact fun _ => ⟨_, (approvals _ approval).stored (by simp), sound.effects _ approval⟩
    | distressed asked read scheduled now => simpa using fun used => backed (.inr used)
    | resolved asked read parsed escalated now => simpa using fun used => backed (.inr used)
    | released fired =>
        obtain ⟨throttled, rfl, -⟩ := releaseThrottle_ok fired
        simpa using fun used => backed (.inr used)

/-- An entry into RETRY_EXECUTED is made only if an attempt of its case is committed. -/
theorem entry_backed {entry : AuditEntry} (derived : Derived config setting archive (.entry entry))
    (executed : entry.Enters .retryExecuted)
    : Backed archive entry.caseId := by
  cases derived with
  | opening reported first handled member logged =>
      exact absurd executed.1 ((handleNewFailure_opened handled).notExecuted entry member)
  | appended found sound approvals deed member logged =>
      have plain {now : Datetime} {case case' : RecoveryCase} {entries : List AuditEntry}
          (answer : Answer config now case case' entries) (member : entry ∈ entries)
          : Backed archive entry.caseId :=
        absurd executed (answer.entries_plain entry member).2.2.2.1
      cases deed with
      | succeeded event clock asked captured held =>
          exact plain (handlePaymentSuccess_answer _ config clock event) member
      | failed reported named held handled =>
          exact plain (handleExistingFailure_answer _ config _ handled) member
      | noticed asked read sent =>
          rw [sent.entries_eq] at member
          simp only [noticeEntries, List.mem_cons, List.not_mem_nil, or_false] at member
          rcases member with rfl | rfl <;> simp [AuditEntry.Enters] at executed
      | executed approval now =>
          cases List.mem_singleton.mp member
          exact ⟨_, (approvals _ approval).stored (by simp), sound.effects _ approval⟩
      | distressed asked read scheduled now =>
          cases List.mem_singleton.mp member
          simp [AuditEntry.Enters, distressSignal] at executed
      | resolved asked read parsed escalated now =>
          cases List.mem_singleton.mp member
          simp [AuditEntry.Enters, humanResolution] at executed
      | released fired =>
          obtain ⟨throttled, -, rfl⟩ := releaseThrottle_ok fired
          cases List.mem_singleton.mp member
          simp [AuditEntry.Enters] at executed

-----------------------------------------------------------------------------------------
-- Notices
-----------------------------------------------------------------------------------------

/-- A retry was announced: a notice of the case is on record that leaves it the lead time, and the
spacing of its attempt.
-/
def Announces (config : AppConfig) (decision : RetryDecision) (notice : AuditEntry) : Prop :=
  notice.caseId = decision.caseId
  ∧ notice.Enters .noticeSent
  ∧ notice.timestamp + config.npciRules.noticeLeadTime ≤ decision.scheduledAt
  ∧ ∃ spacing,
      config.selfImposed.spacing? (decision.attemptNumber - 1) = some spacing
      ∧ notice.timestamp + spacing ≤ decision.scheduledAt

/-- A decision is recorded only after its notice, which leaves it its time if the run is timed. -/
theorem decision_announced {decision : RetryDecision} (loaded : config.Loaded)
    (unrewound : setting.timed) (derived : Derived config setting archive (.decision decision))
    : ∃ notice, .entry notice ∈ archive ∧ Announces config decision notice := by
  cases derived with
  | @decided segment draw case case' clock entries _ asked read found nondecreasing sent noticed
      stored =>
      have later : clock.reading 0 ≤ clock.reading 1 :=
        Int.add_le_add_right (nondecreasing unrewound _ _ (by simp)) _
      have decided := Scheduled.ofNoticed sent
      obtain ⟨spacing, listed, led, spaced⟩ := decided.floor loaded
      have member : audit case.caseId .noticePending .noticeSent "notice_sent" (clock.reading 0)
          ∈ entries := by
        rw [sent.entries_eq]
        exact List.mem_cons_self
      refine ⟨_, (noticed _ member).stored (by simp), sent.caseId.symm, by simp [AuditEntry.Enters],
        ?_, spacing, ?_, ?_⟩
      · exact (Int.add_le_add_right later _).trans led
      · rw [sent.attemptNumber]
        exact listed
      · exact (Int.add_le_add_right later _).trans spaced

end Derived

namespace Records

variable {records : Records}

theorem mem_committedAttempts {caseId : String} {attempt : Nat}
    : attempt ∈ committedAttempts records.log caseId
      ↔ ∃ effect : Effect,
          .effect effect ∈ records.archive ∧ effect.caseId = caseId ∧ effect.attempt = attempt := by
  simp only [committedAttempts, List.mem_map, List.mem_filter, decide_eq_true_eq]
  constructor
  · rintro ⟨row, ⟨stored, named⟩, numbered⟩
    exact ⟨row.value, ⟨row, stored, rfl⟩, named, numbered⟩
  · rintro ⟨effect, ⟨row, stored, rfl⟩, named, numbered⟩
    exact ⟨row, ⟨stored, named⟩, numbered⟩

theorem mem_trail {entry : AuditEntry} (stored : .entry entry ∈ records.archive)
    : ∃ logged ∈ (records.shared.store.view entry.caseId).trail, logged.bare = entry := by
  obtain ⟨logged, member, rfl⟩ := stored
  exact ⟨logged, List.mem_filter.mpr ⟨member, decide_eq_true rfl⟩, rfl⟩

theorem committed_of_backed {caseId : String} (backed : Derived.Backed records.archive caseId)
    : committedAttempts records.log caseId ≠ [] := by
  obtain ⟨effect, stored, named⟩ := backed
  exact List.ne_nil_of_mem (mem_committedAttempts.mpr ⟨effect, stored, named, rfl⟩)

end Records

namespace Fleet

/-- A decline and its notice; four days later two workers race for the retry. -/
def racingRetries : List Event :=
  let late : Worker := ⟨{ demoClock with offset := hours 96 }, .new, []⟩
  [.begin ⟨demoClock, .new, []⟩ (.request (timeout "pay_2"))] ++ List.replicate 30 (.step 0)
    ++ [.begin ⟨demoClock, .new, []⟩
      (.request (.sendNotice ⟨"pay_2", firstPayment_noSlash⟩ ⟨false, 0⟩))]
    ++ List.replicate 30 (.step 1)
    ++ [.begin late (.request (.executeRetry ⟨"pay_2", firstPayment_noSlash⟩)),
      .begin late (.request (.executeRetry ⟨"pay_2", firstPayment_noSlash⟩))]
    ++ (List.replicate 30 [.step 2, .step 3]).flatten

variable (deployment : Deployment) (events : List Event)

/-- However the tasks interleave, a case never has more commits than it may have retries: the
attempts that are committed for it are distinct and within the cap.
-/
theorem commits_capped (positive : 1 ≤ deployment.config.npciRules.maxRetries) (caseId : String)
    : let committed := committedAttempts (run deployment events).shared.log caseId
      committed.Nodup
      ∧ (∀ attempt ∈ committed,
          1 ≤ attempt ∧ (attempt : Int) ≤ deployment.config.npciRules.maxRetries)
      ∧ (committed.length : Int) ≤ deployment.config.npciRules.maxRetries := by
  intro committed
  obtain ⟨records, same, accounted⟩ := accounted_run deployment False events False.elim
  have distinct : committed.Nodup := by
    have sound : SoundLog (run deployment events).shared.log := same ▸ accounted.sound.log
    exact sound.committed_nodup caseId
  have within (attempt : Nat) (member : attempt ∈ committed)
      : 1 ≤ attempt ∧ (attempt : Int) ≤ deployment.config.npciRules.maxRetries := by
    have member : attempt ∈ committedAttempts records.shared.log caseId := same ▸ member
    obtain ⟨effect, stored, -, rfl⟩ := Records.mem_committedAttempts.mp member
    obtain ⟨decision, _, decided, -, numbered, -⟩ := (accounted.archived _ stored).commit_decided
    exact ⟨numbered ▸ decision.attemptNumber_pos, numbered ▸ decided.decision_within positive⟩
  refine ⟨distinct, within, ?_⟩
  have subset : committed ⊆ List.range' 1 deployment.config.npciRules.maxRetries.toNat := by
    intro attempt member
    obtain ⟨first, last⟩ := within attempt member
    exact List.mem_range'_1.mpr ⟨first, by omega⟩
  have fits := (List.subperm_of_subset distinct subset).length_le
  rw [List.length_range'] at fits
  omega

theorem commits_capped_racing
    : let committed := committedAttempts (run demoDeployment racingRetries).shared.log "pay_2"
      committed.Nodup
      ∧ (∀ attempt ∈ committed, 1 ≤ attempt ∧ (attempt : Int) ≤ 3)
      ∧ (committed.length : Int) ≤ 3 :=
  commits_capped demoDeployment racingRetries (by decide) "pay_2"

/-- Nothing is executed without a commit: not by a stale writer, a lost race, a crash or a restart.
A case that is in RETRY_EXECUTED, or has used a retry, or has an entry into RETRY_EXECUTED, has a
committed attempt.
-/
theorem executions_backed (caseId : String)
    : let shared := (run deployment events).shared
      ((∃ case,
          (shared.store.view caseId).case = some case
          ∧ (case.state = .retryExecuted ∨ 0 < case.retriesUsed))
        ∨ ∃ entry ∈ (shared.store.view caseId).trail, entry.Enters .retryExecuted)
      → committedAttempts shared.log caseId ≠ [] := by
  intro shared ran
  obtain ⟨records, same, accounted⟩ := accounted_run deployment False events False.elim
  have same : shared = records.shared := same
  rw [same] at ran ⊢
  refine Records.committed_of_backed ?_
  rcases ran with ⟨case, stored, ran⟩ | ⟨entry, member, executed⟩
  · rw [← CaseStore.view_caseId stored]
    exact (accounted.rows caseId case stored).ran_backed ran
  · obtain ⟨logged, named⟩ := List.mem_filter.mp member
    have derived := accounted.archived (.entry entry.bare) ⟨entry, logged, rfl⟩
    rw [← of_decide_eq_true named]
    exact derived.entry_backed executed

theorem executions_backed_racing
    : committedAttempts (run demoDeployment racingRetries).shared.log "pay_2" ≠ [] :=
  executions_backed demoDeployment racingRetries "pay_2" (.inr (by decide +kernel))

/-- Every commit was announced in time. It is for the attempt of a recorded decision, made when the
worker's clock had reached it, and a notice of the case is on its trail that leaves the decision
the lead time and the spacing of its attempt.
-/
theorem commits_announced (loaded : deployment.config.Loaded)
    (unrewound : ∀ event ∈ events, Unrewound event)
    : let shared := (run deployment events).shared
      ∀ row ∈ shared.log.rows,
        ∃ decision ∈ (shared.store.view row.value.caseId).decisions,
          decision.attemptNumber = row.value.attempt
          ∧ (∃ now, row.value.at_ = isoformat now ∧ decision.scheduledAt ≤ now)
          ∧ ∃ notice ∈ (shared.store.view row.value.caseId).trail,
              Derived.Announces deployment.config decision notice := by
  intro shared row committed
  obtain ⟨records, same, accounted⟩ := accounted_run deployment True events fun _ => unrewound
  have same : shared = records.shared := same
  rw [same] at committed ⊢
  obtain ⟨decision, now, decided, named, numbered, stamped, reached⟩ :=
    (accounted.archived (.effect row.value) ⟨row, committed, rfl⟩).commit_decided
  obtain ⟨notice, stored, announces⟩ := decided.decision_announced loaded trivial
  obtain ⟨logged, member, rfl⟩ := Records.mem_trail stored
  have recorded : decision ∈ records.store.retryDecisions.rows := decided.stored (by simp)
  refine ⟨decision, List.mem_filter.mpr ⟨recorded, decide_eq_true named⟩, numbered,
    ⟨now, stamped, reached trivial⟩, logged, ?_, announces⟩
  have owner : logged.bare.caseId = row.value.caseId := announces.1.trans named
  exact owner ▸ member

theorem racingRetries_unrewound : ∀ event ∈ racingRetries, Unrewound event := by
  have steady : demoClock.Nondecreasing := fun i j le =>
    Int.add_le_add_left (Int.mul_le_mul_of_nonneg_right (Int.ofNat_le.mpr le) (by decide)) _
  have later : ServiceClock.Nondecreasing { demoClock with offset := hours 96 } := steady
  simp [racingRetries, or_imp, forall_and, Unrewound, steady, later]

theorem commits_announced_racing
    : let shared := (run demoDeployment racingRetries).shared
      ∃ row ∈ shared.log.rows,
        ∃ decision ∈ (shared.store.view row.value.caseId).decisions,
          decision.attemptNumber = row.value.attempt := by
  have written : (run demoDeployment racingRetries).shared.log.rows.length = 1 := by
    decide +kernel
  obtain ⟨row, committed⟩ := List.length_pos_iff_exists_mem.mp (written.symm ▸ Nat.one_pos)
  obtain ⟨decision, recorded, numbered, -⟩ :=
    commits_announced demoDeployment racingRetries (shippedConfig_loaded .demo)
      racingRetries_unrewound row committed
  exact ⟨row, committed, decision, recorded, numbered⟩

end Fleet

end RecoveryAgent
