import RecoveryAgent.Service.Exchanges
import RecoveryAgent.Service.PaidCases

/-! Workers that race to execute a retry of one case while failures are delivered.
The worker that wins a commit writes the case from a copy read before the commit; one that loses
it writes the case too unless it reads RETRY_EXECUTED, and the sequence number of an entry is read
before the entry is inserted.
-/

namespace RecoveryAgent

open StateMachine Handler
open StateMachine.Tracked (executions)

-----------------------------------------------------------------------------------------
-- How far a worker has got
-----------------------------------------------------------------------------------------

/-- How far a worker has got with an execution. Who writes the case may have won the commit or
lost it.
-/
inductive Progress where
  /-- Nothing is committed. -/
  | free
  /-- A commit is lost, and the case has been read in RETRY_EXECUTED since. -/
  | lost
  /-- The case is to be written in RETRY_EXECUTED. -/
  | due (won : Bool)
  /-- The case is written, and the entry is to be inserted. -/
  | written (won : Bool)
  /-- A commit that was won is applied. -/
  | applied
  /-- A commit that was won is without its entry. -/
  | dropped
  /-- A commit that was lost has been applied. -/
  | healed

namespace Progress

/-- The worker may end here. -/
def Settled : Progress → Prop
  | .due _ => False
  | .written _ => False
  | _ => True

/-- What a worker does for a case from where it has got. -/
def executing (caseId : String) : Program.Typestate Op Res Progress where
  allowed
    | .free, op =>
        op.Unexecuting
        ∨ op.Commits ∧ ∃ attempt effect, op = .commitEffect caseId attempt effect
    | .due _, op =>
        ∃ case, op = .updateCase case ∧ case.caseId = caseId ∧ case.state = .retryExecuted
    | .written _, op =>
        op.Quiet
        ∨ ∃ entry,
            op = .insertAudit entry ∧ entry.caseId = caseId ∧ entry.Enters .retryExecuted
    | .lost, op => op.Quiet
    | .healed, op => op.Plain
    | _, op => op.Unexecuting
  reply _ op reply :=
    match op, reply with
    | .getCase caseId, .ok case => case.caseId = caseId
    | .updateCase _, reply => reply = .ok ()
    | .getPrefix _, effects => ∀ effect ∈ effects, effect.toState = .retryExecuted
    | _, _ => True
  next
    | .free, .commitEffect _ _ _, .ok true => .due true
    | .free, .commitEffect _ _ _, .ok false => .lost
    | .lost, .getCase _, .ok case => if case.state = .retryExecuted then .lost else .due false
    | .due won, .updateCase _, _ => .written won
    | .written true, .insertAudit _, .ok _ => .applied
    | .written true, .insertAudit _, .error _ => .dropped
    | .written false, .insertAudit _, _ => .healed
    | progress, _, _ => progress

variable {deployment : Deployment} {caseId : String}

/-- The replies are as they are relied on. -/
theorem relied {shared : Shared} (served : shared.Served deployment) (own : Worker)
    (progress : Progress) (op : Op)
    : (executing caseId).reply progress op (World.shares deployment op (own, shared)).1 := by
  cases op with
  | getCase caseId =>
      have answered : (World.shares deployment (.getCase caseId) (own, shared)).1
          = shared.store.getCase caseId := rfl
      rw [answered]
      rcases shared.store.getCase_eq caseId with ⟨case, stored, got⟩ | ⟨_, raised, got⟩
      · rw [got]
        exact CaseStore.view_caseId stored
      · rw [got]
        trivial
  | updateCase case =>
      obtain ⟨records, rfl⟩ := served.records
      rfl
  | getPrefix start =>
      intro effect member
      obtain ⟨row, listed, _, rfl⟩ := EtcdStore.mem_getPrefix.mp member
      exact (served.sound.log row listed).2.1
  | _ => trivial

end Progress

-----------------------------------------------------------------------------------------
-- What a record tells of a worker
-----------------------------------------------------------------------------------------

namespace Exchange

/-- The record of a worker that has applied nothing: it has committed so many attempts, and lost a
commit or not.
-/
structure Idle (caseId : String) (commits : Nat) (lost : Bool) (record : List Exchange)
    : Prop where
  commits : committed caseId record = commits
  moves : moved caseId record = 0
  enters : entered caseId record = 0
  lost : record.any refused = lost
  undisturbed : Undisturbed record

theorem Idle.nil (caseId : String) : Idle caseId 0 false [] where
  commits := rfl
  moves := rfl
  enters := rfl
  lost := rfl
  undisturbed := ⟨trivial, List.forall_mem_nil _, List.forall_mem_nil _⟩

/-- The worker has written the case for its own commit, in a record that is undisturbed but for that
write.
-/
structure Wrote (caseId : String) (record : List Exchange) : Prop where
  won : record.any refused = false
  reads : Reads record
  inserts : Inserts record
  once : moved caseId record ≤ 1
  moves : Writes record ↔ moved caseId record = 1

/-- The record is that of a worker that has got so far. -/
def Accords (caseId : String) (record : List Exchange) : Progress → Prop
  | .free => Idle caseId 0 false record
  | .lost => Idle caseId 0 true record
  | .due true => Idle caseId 1 false record
  | .written true =>
      committed caseId record = 1 ∧ entered caseId record = 0 ∧ Wrote caseId record
  | .applied => committed caseId record = 1 ∧ entered caseId record = 1 ∧ Wrote caseId record
  | .dropped => committed caseId record = 1 ∧ entered caseId record = 0 ∧ ¬ Inserts record
  | .due false | .written false => committed caseId record = 0 ∧ ¬ Reads record
  | .healed =>
      committed caseId record = 0 ∧ ¬ Reads record
      ∧ (Inserts record → 1 ≤ entered caseId record)

section Steps

variable {deployment : Deployment} {caseId : String} {shared : Shared} {own : Worker}
  {record : List Exchange}

/-- An idle record stays idle where nothing is executed. -/
theorem Idle.unexecuting (served : shared.Served deployment) {count : Nat} {lost : Bool}
    (idle : Idle caseId count lost record) {op : Op} (unexecuting : op.Unexecuting)
    (reads : (made deployment own shared op).ReadsExecuted lost)
    : Idle caseId count lost (record ++ [made deployment own shared op]) := by
  obtain ⟨uncommitted, unmoved, unentered, accepted, writes, inserts⟩ :=
    @made_unexecuting deployment caseId shared own served op unexecuting
  refine ⟨by simp [idle.commits, uncommitted], by simp [idle.moves, unmoved],
    by simp [idle.enters, unentered], by simp [idle.lost, accepted], ?_, ?_, ?_⟩
  · exact reads_concat.mpr ⟨idle.undisturbed.reads, idle.lost ▸ reads⟩
  · exact writes_concat.mpr ⟨idle.undisturbed.writes, writes⟩
  · exact inserts_concat.mpr ⟨idle.undisturbed.inserts, inserts⟩

/-- After its own write a worker that executes nothing more changes no count. -/
theorem Wrote.unexecuting (served : shared.Served deployment) (wrote : Wrote caseId record)
    {op : Op} (unexecuting : op.Unexecuting)
    : Wrote caseId (record ++ [made deployment own shared op]) := by
  obtain ⟨_, unmoved, _, accepted, writes, inserts⟩ :=
    @made_unexecuting deployment caseId shared own served op unexecuting
  constructor
  · simp [wrote.won, accepted]
  · exact reads_concat.mpr ⟨wrote.reads, by simp [wrote.won]⟩
  · exact inserts_concat.mpr ⟨wrote.inserts, inserts⟩
  · simpa [unmoved] using wrote.once
  · simpa [unmoved, writes] using wrote.moves

/-- A commit makes an idle worker one that has won, or lost, or still neither. -/
theorem Idle.committing (served : shared.Served deployment) (idle : Idle caseId 0 false record)
    {attempt : Nat} {effect : Effect} (sound : (Op.commitEffect caseId attempt effect).Commits)
    : Accords caseId (record ++ [made deployment own shared (.commitEffect caseId attempt effect)])
        ((Progress.executing caseId).next .free (.commitEffect caseId attempt effect)
          (World.shares deployment (.commitEffect caseId attempt effect) (own, shared)).1) := by
  obtain ⟨unmoved, unentered, answered⟩ :=
    @made_commitEffect deployment caseId shared own served attempt effect sound
  have counted {commits : Nat} {lost : Bool}
      (adds
        : Exchange.commits caseId (made deployment own shared (.commitEffect caseId attempt effect))
          = commits)
      (flagged
        : refused (made deployment own shared (.commitEffect caseId attempt effect)) = lost)
      : Idle caseId commits lost
          (record ++ [made deployment own shared (.commitEffect caseId attempt effect)]) := by
    refine ⟨by simp [idle.commits, adds], by simp [idle.moves, unmoved],
      by simp [idle.enters, unentered], by simp [idle.lost, flagged], ?_, ?_, ?_⟩
    · exact reads_concat.mpr ⟨idle.undisturbed.reads, fun _ _ => nofun⟩
    · exact writes_concat.mpr ⟨idle.undisturbed.writes, trivial⟩
    · exact inserts_concat.mpr ⟨idle.undisturbed.inserts, trivial⟩
  rcases answered with ⟨won, adds⟩ | ⟨unwon, adds⟩
  · have flagged
        : refused (made deployment own shared (.commitEffect caseId attempt effect)) = false := by
      simp only [made, won, refused, Bool.not_true]
    rw [won]
    exact counted adds flagged
  · cases replied
      : (World.shares deployment (.commitEffect caseId attempt effect) (own, shared)).1 with
    | error raised =>
        exact counted adds (by simp only [made, replied, refused])
    | ok committed =>
        cases committed with
        | true => exact absurd replied unwon
        | false => exact counted adds (by simp only [made, replied, refused, Bool.not_false])

/-- A worker that has lost a commit stays idle as long as it reads the case in RETRY_EXECUTED. -/
theorem Idle.healing (served : shared.Served deployment) (idle : Idle caseId 0 true record)
    {op : Op} (quiet : op.Quiet)
    : Accords caseId (record ++ [made deployment own shared op])
        ((Progress.executing caseId).next .lost op
          (World.shares deployment op (own, shared)).1) := by
  have stays (reads : (made deployment own shared op).ReadsExecuted true)
      : Idle caseId 0 true (record ++ [made deployment own shared op]) :=
    idle.unexecuting served quiet.unexecuting reads
  cases op with
  | getCase id =>
      have answered : (World.shares deployment (.getCase id) (own, shared)).1
          = shared.store.getCase id := rfl
      rw [answered]
      rcases shared.store.getCase_eq id with ⟨case, stored, got⟩ | ⟨absent, raised, got⟩
      · rw [got]
        by_cases executed : case.state = .retryExecuted
        · have same : (Progress.executing caseId).next .lost (.getCase id) (.ok case) = .lost :=
            if_pos executed
          rw [same]
          refine stays fun _ _ read => ?_
          cases read
          rintro ⟨row, stored', state⟩
          cases stored.symm.trans stored'
          exact state executed
        · have moved : (Progress.executing caseId).next .lost (.getCase id) (.ok case)
              = .due false :=
            if_neg executed
          rw [moved]
          obtain ⟨uncommitted, -⟩ :=
            @made_unexecuting deployment caseId shared own served (.getCase id) trivial
          refine ⟨by simp [idle.commits, uncommitted], fun reads => ?_⟩
          have last := (reads_concat.mp reads).2 idle.lost id rfl
          exact last ⟨case, stored, executed⟩
      · rw [got]
        refine stays fun _ _ read => ?_
        cases read
        rintro ⟨row, stored, -⟩
        exact Option.some_ne_none row (stored.symm.trans absent)
  | commitEffect | createCase | updateCase | insertAudit => exact quiet.elim
  | _ => exact stays fun _ _ => nofun

/-- The worker writes the case, for its own commit or for one it has lost. -/
theorem Accords.writing (served : shared.Served deployment) {won : Bool}
    (accords : Accords caseId record (.due won)) {case : RecoveryCase}
    (named : case.caseId = caseId) (executed : case.state = .retryExecuted)
    : Accords caseId (record ++ [made deployment own shared (.updateCase case)])
        (.written won) := by
  have uncommitted : commits caseId (made deployment own shared (.updateCase case)) = 0 :=
    made_plain trivial
  obtain ⟨once, unentered, moves⟩ :=
    @made_updateCase deployment caseId shared own served case named executed
  cases won with
  | true =>
      have idle : Idle caseId 1 false record := accords
      refine ⟨by simp [idle.commits, uncommitted], by simp [idle.enters, unentered], ?_⟩
      constructor
      · simp only [List.any_append, idle.lost]
        rfl
      · exact reads_concat.mpr ⟨idle.undisturbed.reads, fun _ _ => nofun⟩
      · exact inserts_concat.mpr ⟨idle.undisturbed.inserts, trivial⟩
      · simpa [idle.moves] using once
      · simp [idle.moves, idle.undisturbed.writes, moves]
  | false =>
      obtain ⟨commits, unread⟩ := accords
      exact ⟨by simp [commits, uncommitted], fun reads => unread (reads_concat.mp reads).1⟩

/-- The worker inserts the entry of the case it has written. -/
theorem Accords.inserting (served : shared.Served deployment) {won : Bool}
    (accords : Accords caseId record (.written won)) {logged : AuditEntry}
    (named : logged.caseId = caseId) (entering : logged.Enters .retryExecuted)
    : Accords caseId (record ++ [made deployment own shared (.insertAudit logged)])
        ((Progress.executing caseId).next (.written won) (.insertAudit logged)
          (World.shares deployment (.insertAudit logged) (own, shared)).1) := by
  have uncommitted : commits caseId (made deployment own shared (.insertAudit logged)) = 0 :=
    made_plain trivial
  obtain ⟨unmoved, answered⟩ :=
    @made_insertAudit deployment caseId shared own served logged named entering
  cases won with
  | true =>
      obtain ⟨commits, enters, wrote⟩ := accords
      rcases answered with ⟨added, free, entered⟩ | ⟨raised, refused, taken, unentered⟩
      · rw [added]
        refine ⟨by simp [commits, uncommitted], by simp [enters, entered], ?_⟩
        constructor
        · simp only [List.any_append, wrote.won]
          rfl
        · exact reads_concat.mpr ⟨wrote.reads, fun _ _ => nofun⟩
        · exact inserts_concat.mpr ⟨wrote.inserts, free⟩
        · simpa [unmoved] using wrote.once
        · rw [writes_concat, moved_concat, unmoved, Nat.add_zero, ← wrote.moves]
          exact and_iff_left trivial
      · rw [refused]
        exact ⟨by simp [commits, uncommitted], by simp [enters, unentered],
          fun inserts => taken (inserts_concat.mp inserts).2⟩
  | false =>
      obtain ⟨commits, unread⟩ := accords
      refine ⟨by simp [commits, uncommitted], fun reads => unread (reads_concat.mp reads).1,
        fun inserts => ?_⟩
      rcases answered with ⟨_, _, entered⟩ | ⟨_, _, taken, _⟩
      · rw [entered_concat, entered]
        exact Nat.le_add_left 1 _
      · exact absurd (inserts_concat.mp inserts).2 taken

/-- Every step keeps the record in accord with the progress: one case for each stage of the
execution and what may be asked there.
-/
theorem Accords.step (served : shared.Served deployment) {progress : Progress}
    (accords : Accords caseId record progress) {op : Op}
    (allowed : (Progress.executing caseId).allowed progress op)
    : Accords caseId (record ++ [made deployment own shared op])
        ((Progress.executing caseId).next progress op
          (World.shares deployment op (own, shared)).1) := by
  cases progress with
  | free =>
      have idle : Idle caseId 0 false record := accords
      rcases allowed with unexecuting | ⟨sound, attempt, effect, rfl⟩
      · have same : (Progress.executing caseId).next .free op
            (World.shares deployment op (own, shared)).1 = .free := by
          cases op with
          | commitEffect => exact unexecuting.elim
          | _ => rfl
        rw [same]
        exact idle.unexecuting served unexecuting (readsExecuted_false _)
      · exact idle.committing served sound
  | lost =>
      have idle : Idle caseId 0 true record := accords
      exact idle.healing served allowed
  | due won =>
      obtain ⟨case, rfl, named, executed⟩ := allowed
      exact accords.writing served named executed
  | written won =>
      rcases allowed with quiet | ⟨logged, rfl, named, entering⟩
      · have same : (Progress.executing caseId).next (.written won) op
            (World.shares deployment op (own, shared)).1 = .written won := by
          cases op with
          | insertAudit => exact quiet.elim
          | _ => cases won <;> rfl
        rw [same]
        obtain ⟨uncommitted, unmoved, unentered, -⟩ :=
          @made_unexecuting deployment caseId shared own served op quiet.unexecuting
        cases won with
        | true =>
            obtain ⟨commits, enters, wrote⟩ := accords
            exact ⟨by simp [commits, uncommitted], by simp [enters, unentered],
              wrote.unexecuting served quiet.unexecuting⟩
        | false =>
            obtain ⟨commits, unread⟩ := accords
            exact ⟨by simp [commits, uncommitted], fun reads => unread (reads_concat.mp reads).1⟩
      · exact accords.inserting served named entering
  | applied =>
      obtain ⟨commits, enters, wrote⟩ := accords
      obtain ⟨uncommitted, unmoved, unentered, -⟩ :=
        @made_unexecuting deployment caseId shared own served op allowed
      exact ⟨by simp [commits, uncommitted], by simp [enters, unentered],
        wrote.unexecuting served allowed⟩
  | dropped =>
      obtain ⟨commits, enters, taken⟩ := accords
      obtain ⟨uncommitted, unmoved, unentered, -⟩ :=
        @made_unexecuting deployment caseId shared own served op allowed
      exact ⟨by simp [commits, uncommitted], by simp [enters, unentered],
        fun inserts => taken (inserts_concat.mp inserts).1⟩
  | healed =>
      obtain ⟨commits, unread, enters⟩ := accords
      have uncommitted : Exchange.commits caseId (made deployment own shared op) = 0 :=
        made_plain allowed
      refine ⟨by simp [commits, uncommitted], fun reads => unread (reads_concat.mp reads).1,
        fun inserts => ?_⟩
      rw [entered_concat]
      exact (enters (inserts_concat.mp inserts).1).trans (Nat.le_add_right _ _)

/-- What is allowed commits nothing but the effects of attempts. -/
theorem commits_of_allowed {progress : Progress} {op : Op}
    (allowed : (Progress.executing caseId).allowed progress op)
    : op.Commits := by
  cases progress with
  | free => exact allowed.elim (·.commits) And.left
  | due won =>
      obtain ⟨case, rfl, -⟩ := allowed
      trivial
  | written won =>
      rcases allowed with quiet | ⟨logged, rfl, -⟩
      · exact quiet.unexecuting.commits
      · trivial
  | lost => exact Op.Unexecuting.commits (Op.Quiet.unexecuting allowed)
  | applied | dropped => exact Op.Unexecuting.commits allowed
  | healed => exact Op.Plain.commits allowed

/-- A worker that follows the execution has a record in accord with how far it has got. -/
theorem recorded_executing {α : Type} (deployment : Deployment) (caseId : String)
    : Pool.Recorded (World.shares deployment) (Shared.Served deployment)
        fun record (program : Program Op Res (Except Raised α)) => ∃ progress,
          Accords caseId record progress
          ∧ Program.Follows (Progress.executing caseId) (fun _ last => last.Settled) progress
              program := by
  rintro record own op next shared served ⟨progress, accords, follows⟩
  obtain ⟨allowed, rest⟩ := Program.follows_request.mp follows
  exact ⟨served.answer own (commits_of_allowed allowed),
    _, accords.step served allowed, rest _ (Progress.relied served own progress op)⟩

section Counts

variable {progress : Progress} (accords : Accords caseId record progress)

include accords

/-- Undisturbed, a commit is applied at most once, wherever its worker has got. -/
theorem Accords.atMostOnce (undisturbed : Undisturbed record)
    : AppliesAtMostOnce caseId record := by
  cases progress with
  | free | lost =>
      have idle : Idle caseId 0 _ record := accords
      exact ⟨by simp [idle.commits], by simp [idle.moves], by simp [idle.enters]⟩
  | due won =>
      cases won with
      | true =>
          have idle : Idle caseId 1 false record := accords
          exact ⟨by simp [idle.commits], by simp [idle.moves], by simp [idle.enters]⟩
      | false => exact absurd undisturbed.reads accords.2
  | written won =>
      cases won with
      | true =>
          obtain ⟨commits, enters, wrote⟩ := accords
          exact ⟨commits.le, by rw [commits]; exact wrote.once, by simp [enters]⟩
      | false => exact absurd undisturbed.reads accords.2
  | applied =>
      obtain ⟨commits, enters, wrote⟩ := accords
      have moves := wrote.moves.mp undisturbed.writes
      exact ⟨commits.le, by rw [commits, moves], by rw [enters, moves]⟩
  | dropped => exact absurd undisturbed.inserts accords.2.2
  | healed => exact absurd undisturbed.reads accords.2.1

/-- Undisturbed, a worker that has ended has applied its commit. -/
theorem Accords.once (settled : progress.Settled) (undisturbed : Undisturbed record)
    : AppliesOnce caseId record := by
  cases progress with
  | free | lost =>
      have idle : Idle caseId 0 _ record := accords
      exact ⟨by rw [idle.moves, idle.commits], by rw [idle.enters, idle.commits]⟩
  | due won | written won => exact settled.elim
  | applied =>
      obtain ⟨commits, enters, wrote⟩ := accords
      exact ⟨by rw [wrote.moves.mp undisturbed.writes, commits], by rw [enters, commits]⟩
  | dropped => exact absurd undisturbed.inserts accords.2.2
  | healed => exact absurd undisturbed.reads accords.2.1

/-- A worker that has ended and applied what it committed, and nothing else, was undisturbed,
unless it both healed the case and lost the entry of that.
-/
theorem Accords.undisturbed (settled : progress.Settled) (once : AppliesOnce caseId record)
    (kept : Reads record ∨ Inserts record)
    : Undisturbed record := by
  cases progress with
  | free | lost =>
      have idle : Idle caseId 0 _ record := accords
      exact idle.undisturbed
  | due won | written won => exact settled.elim
  | applied =>
      obtain ⟨commits, enters, wrote⟩ := accords
      exact ⟨wrote.reads, wrote.moves.mpr (once.moves.trans commits), wrote.inserts⟩
  | dropped =>
      obtain ⟨commits, enters, -⟩ := accords
      exact absurd (enters.symm.trans (once.enters.trans commits)) (by decide)
  | healed =>
      obtain ⟨commits, unread, enters⟩ := accords
      have entered := enters (kept.resolve_left unread)
      rw [once.enters, commits] at entered
      exact absurd entered (by decide)

end Counts

end Steps

end Exchange

-----------------------------------------------------------------------------------------
-- The handlers
-----------------------------------------------------------------------------------------

namespace Handler

variable {α β : Type} {caseId : String} {progress : Progress}

/-- From where the worker has got, the handler executes the case and ends settled. -/
def Executes (caseId : String) (progress : Progress) (handler : Handler α) : Prop :=
  Program.Follows (Progress.executing caseId) (fun _ last => last.Settled) progress handler.run

theorem executes_throw (progress : Progress) (settled : progress.Settled) (raised : Raised)
    : Executes caseId progress (throw raised : Handler α) :=
  settled

theorem executes_pure (progress : Progress) (settled : progress.Settled) (value : α)
    : Executes caseId progress (pure value) :=
  settled

/-- What executes nothing is asked from where nothing is committed yet. -/
theorem Issues.executes {handler : Handler α} (issues : Issues Op.Unexecuting handler)
    : Program.Follows (Progress.executing caseId) (fun _ last => last = .free) .free
        handler.run := by
  refine Program.Uses.stays issues (fun op unexecuting => .inl unexecuting)
    fun op reply unexecuting => ?_
  cases op with
  | commitEffect => exact unexecuting.elim
  | _ => rfl

theorem executes_unexecuting {handler : Handler α} (issues : Issues Op.Unexecuting handler)
    : Executes caseId .free handler := by
  refine Program.Follows.mono issues.executes fun _ last same => ?_
  subst same
  trivial

/-- What comes before the commit executes nothing, and may raise. -/
theorem executes_bind {handler : Handler α} {next : α → Handler β}
    (first : Issues Op.Unexecuting handler) (rest : ∀ value, Executes caseId .free (next value))
    : Executes caseId .free (handler >>= next) := by
  unfold Executes
  rw [ExceptT.run_bind]
  refine Program.Follows.bind first.executes fun result last same => ?_
  subst same
  cases result with
  | error raised => exact executes_throw .free trivial raised
  | ok value => exact rest value

/-- A check that refuses the request executes nothing. -/
theorem executes_check {c : Prop} [Decidable c] {status : Nat} {message : String}
    {unreached : PUnit → Handler α} {rest : Handler α} (settled : progress.Settled)
    (passed : ¬ c → Executes caseId progress rest)
    : Executes caseId progress (if c then refuse status message >>= unreached else rest) := by
  split
  · exact executes_throw progress settled _
  · next fails => exact passed fails

theorem unexecuting_now : Issues Op.Unexecuting now :=
  .bind (issues_call trivial) fun _ => issues_pure _

/-- How far a worker has got that has written the case and tried to insert the entry. -/
def Progress.inserted (won : Bool) (result : Except Raised α) : Progress :=
  if won then (if result.isOk then .applied else .dropped) else .healed

/-- The entry of a case that is written: its sequence number is read before it is inserted. -/
theorem follows_appendAudit {entry : AuditEntry} (fresh : entry.sequenceId = none)
    (named : entry.caseId = caseId) (entering : entry.Enters .retryExecuted) (won : Bool)
    : Program.Follows (Progress.executing caseId)
        (fun result last => last = Progress.inserted won result) (.written won)
        (appendAudit entry).run := by
  unfold appendAudit
  rw [fresh]
  refine Program.follows_request.mpr ⟨.inl trivial, fun sequenceId _ => ?_⟩
  refine Program.follows_request.mpr ⟨by cases won <;> exact .inl trivial, fun prevHash _ => ?_⟩
  cases won with
  | true =>
      refine Program.follows_request.mpr ⟨.inr ⟨_, rfl, named, entering⟩, fun reply _ => ?_⟩
      cases reply <;> rfl
  | false =>
      refine Program.follows_request.mpr ⟨.inr ⟨_, rfl, named, entering⟩, fun reply _ => ?_⟩
      cases reply <;> rfl

/-- The write of a case and the entry about it, after a commit that was won or lost. -/
theorem follows_applyEffect {case : RecoveryCase} {effect : Effect} (named : case.caseId = caseId)
    (pending : case.state ≠ effect.toState) (executes : effect.toState = .retryExecuted)
    (won : Bool)
    : Program.Follows (Progress.executing caseId)
        (fun result last => last = Progress.inserted won result) (.due won)
        (applyEffect case effect).run := by
  unfold applyEffect
  rw [if_neg pending]
  refine Program.follows_request.mpr ⟨⟨_, rfl, named, executes⟩, fun reply relied => ?_⟩
  have answered : reply = .ok () := relied
  subst answered
  change Program.Follows _ _ (Progress.written won) _
  refine Program.follows_request.mpr ⟨.inl trivial, fun clock _ => ?_⟩
  have same : (Progress.executing caseId).next (.written won) (.readClock 1) clock
      = .written won := by
    cases won <;> rfl
  let moved : RecoveryCase := { case with state := effect.toState }
  let entry : AuditEntry := effectApplied moved.caseId (clock.now 0)
  rw [same]
  change Program.Follows _ _ _ (appendAudit entry >>= fun _ => pure moved : Handler _).run
  rw [ExceptT.run_bind]
  have entering : entry.Enters .retryExecuted := by simp [entry, effectApplied, AuditEntry.Enters]
  refine Program.Follows.bind (follows_appendAudit rfl named entering won)
    fun result last ends => ?_
  cases result <;> exact ends

/-- What follows a settled end, whatever it is. -/
theorem Executes.bind {handler : Handler α} {next : α → Handler β}
    (first : Executes caseId progress handler)
    (rest : ∀ value last, last.Settled → Executes caseId last (next value))
    : Executes caseId progress (handler >>= next) := by
  unfold Executes
  rw [ExceptT.run_bind]
  refine Program.Follows.bind first fun result last settled => ?_
  cases result with
  | error raised => exact settled
  | ok value => exact rest value last settled

/-- What a worker writes once it has healed the case does not matter. -/
theorem executes_healed {handler : Handler α} (issues : Issues Op.Plain handler)
    : Executes caseId .healed handler := by
  refine Program.Follows.mono (Program.Uses.stays issues (fun _ plain => plain)
    fun _ _ _ => rfl) fun _ last same => ?_
  subst same
  trivial

/-- The loop of a heal, by induction over the effects: each of them is passed over, or applied to
the case that was read.
-/
theorem executes_healFrom {effects : List Effect}
    (executes : ∀ effect ∈ effects, effect.toState = .retryExecuted)
    : Executes caseId .lost (healFrom caseId effects) := by
  induction effects with
  | nil => exact executes_pure .lost trivial ()
  | cons effect rest ih =>
      obtain ⟨first, later⟩ := List.forall_mem_cons.mp executes
      refine Program.follows_request.mpr ⟨trivial, fun reply relied => ?_⟩
      cases reply with
      | error raised => exact executes_throw .lost trivial _
      | ok case =>
          have named : case.caseId = caseId := relied
          change Executes caseId _ (applyEffect case effect >>= fun _ => healFrom caseId rest)
          by_cases executed : case.state = .retryExecuted
          · have passed : (Progress.executing caseId).next .lost (.getCase caseId) (.ok case)
                = .lost :=
              if_pos executed
            rw [passed]
            unfold applyEffect
            rw [if_pos (executed.trans first.symm)]
            exact ih later
          · have due : (Progress.executing caseId).next .lost (.getCase caseId) (.ok case)
                = .due false :=
              if_neg executed
            rw [due]
            unfold Executes
            rw [ExceptT.run_bind]
            have pending : case.state ≠ effect.toState := by rwa [first]
            refine Program.Follows.bind (follows_applyEffect named pending first false)
              fun result last ends => ?_
            subst ends
            cases result with
            | error raised => exact executes_throw .healed trivial raised
            | ok value => exact executes_healed (issues_healFrom caseId rest)

theorem executes_reconcileCase (useEtcd : Bool)
    : Executes caseId .lost (reconcileCase useEtcd caseId) := by
  unfold reconcileCase
  split
  · unfold swallow Executes
    rw [ExceptT.run_mk]
    have healed : Executes caseId .lost (do
        healFrom caseId (← getPrefix (EtcdQuorumBackend.commitsPrefix ++ caseId ++ "/"))) :=
      Program.follows_request.mpr ⟨trivial, fun effects executes => executes_healFrom executes⟩
    exact Program.Follows.bind healed fun _ _ settled => settled
  · exact executes_pure .lost trivial ()

/-- The commit of `execute_retry`, from its three answers on. -/
theorem executes_commitDecision (deployment : Deployment) {case : RecoveryCase}
    (segment : PathSegment) (named : case.caseId = segment.text)
    (scheduled : case.state = .retryScheduled) (decision : RetryDecision)
    : Executes segment.text .free (commitDecision deployment case segment.text decision) := by
  refine executes_bind unexecuting_now fun instant => ?_
  refine Program.follows_request.mpr
    ⟨.inr ⟨⟨rfl, rfl, rfl, segment.noSlash⟩, _, _, rfl⟩, fun approved _ => ?_⟩
  rcases approved with raised | _ | _
  · exact executes_throw .free trivial _
  · exact Executes.bind (executes_reconcileCase deployment.useEtcd)
      fun _ last settled => executes_throw last settled _
  · have pending : case.state ≠ .retryExecuted := by simp [scheduled]
    let effect := retryEffect segment.text decision instant
    change Executes segment.text (.due true) (applyEffect case effect >>= fun case => do
      updateRetryDecision decision
      return Response.ofCase case)
    unfold Executes
    rw [ExceptT.run_bind]
    refine Program.Follows.bind (follows_applyEffect named pending rfl true)
      fun result last ends => ?_
    subst ends
    cases result with
    | error raised => exact executes_throw .dropped trivial raised
    | ok value =>
        refine Program.follows_request.mpr ⟨trivial, fun reply _ => ?_⟩
        cases reply with
        | error raised => exact executes_throw .applied trivial _
        | ok => exact executes_pure .applied trivial _

theorem unexecuting_escalateDistressed (case : RecoveryCase)
    : Issues Op.Unexecuting (escalateDistressed case) := by
  have updated : Op.Unexecuting (.updateCase { case with state := .escalated }) := by
    simp [Op.Unexecuting]
  refine .bind (issues_stored updated) fun _ => .bind unexecuting_now fun instant => ?_
  refine .bind ((appends_appendAudit (List.mem_singleton_self _)).mono fun op appends => ?_)
    fun _ => issues_throw _
  exact appends.unexecuting (by simp [distressSignal, AuditEntry.Enters])

/-- `execute_retry`, by its checks in their order. -/
theorem executes_executeRetry (deployment : Deployment) (segment : PathSegment)
    : Executes segment.text .free (executeRetry deployment segment) := by
  refine executes_check trivial fun _ => ?_
  refine Program.follows_request.mpr ⟨.inl trivial, fun reply relied => ?_⟩
  cases reply with
  | error raised => exact executes_throw .free trivial _
  | ok case =>
      have named : case.caseId = segment.text := relied
      refine executes_check trivial fun scheduled => ?_
      refine executes_bind unexecuting_now fun instant => ?_
      refine executes_bind (issues_call trivial) fun distressed => ?_
      split
      · exact executes_unexecuting (unexecuting_escalateDistressed case)
      · refine executes_bind (issues_call trivial) fun pending => ?_
        split
        · exact executes_throw .free trivial _
        · refine executes_bind unexecuting_now fun due => executes_check trivial fun _ => ?_
          exact executes_commitDecision deployment segment named (not_not.mp scheduled) _

/-- What a failure makes of a case is no execution. -/
theorem handlePaymentFailed_unexecuted {existing : Option RecoveryCase}
    {event event' : PaymentFailureEvent} {config : AppConfig} {clock : Clock} {case : RecoveryCase}
    {entries : List AuditEntry}
    (handled : handlePaymentFailed existing event config clock = .ok (case, event', entries))
    : case.state ≠ .retryExecuted ∧ ∀ entry ∈ entries, ¬ entry.Enters .retryExecuted := by
  cases existing with
  | none =>
      have opened := handleNewFailure_opened handled
      refine ⟨fun executed => ?_, fun entry member enters =>
        opened.notExecuted entry member enters.1⟩
      have opening := opened.state
      simp [openingState, executed] at opening
  | some row =>
      obtain ⟨answered, rfl⟩ := handlePaymentFailed_existing _ _ _ handled
      refine ⟨fun executed => ?_, fun entry member enters =>
        handleExistingFailure_unflagged _ _ _ answered entry member enters.1⟩
      rcases handleExistingFailure_moves _ _ _ answered with ⟨moves, other⟩ | ⟨elsewhere, same⟩
      · rcases (handleExistingFailure_answer _ _ _ answered).state_cases with
          same | ⟨-, -, state⟩ | ⟨-, state⟩
        · exact other (congrArg (·.state) same)
        · rcases state with state | state <;> cases executed.symm.trans state
        · rcases state with state | state | state | state <;> cases executed.symm.trans state
      · rw [same] at executed
        exact elsewhere (.inr executed)

/-- A failure delivery executes nothing. -/
theorem executes_failure (deployment : Deployment) (caseId : String) (delivery : FailureDelivery)
    : Executes caseId .free (delivery.request.handler deployment) := by
  refine executes_unexecuting (issues_failure (fun _ quiet => quiet.unexecuting) deployment
    delivery fun existing event clock case event' entries handled => ?_)
  obtain ⟨state, plain⟩ := handlePaymentFailed_unexecuted handled
  exact ⟨state, state, fun op appends => appends.unexecuting plain⟩

end Handler

-----------------------------------------------------------------------------------------
-- Races
-----------------------------------------------------------------------------------------

/-- Workers that execute a retry of one case, and workers to which failures are delivered. -/
structure Race where
  caseId : PathSegment
  executors : List Worker
  deliveries : List (Worker × FailureDelivery)

namespace Race

open Exchange

variable (deployment : Deployment) (race : Race) (shared : Shared) (schedule : List Nat)

/-- The requests about to be handled. -/
def pool : Workers Response where
  shared
  threads :=
    race.executors.map (fun worker => ⟨worker, (executeRetry deployment race.caseId).run⟩)
    ++ race.deliveries.map fun (worker, delivery) =>
        ⟨worker, (delivery.request.handler deployment).run⟩

/-- The workers after some steps, each of which is one call of the store or of etcd. -/
def after : Workers Response :=
  schedule.foldl (Pool.step (World.shares deployment)) (race.pool deployment shared)

/-- What one of the workers has asked by then. -/
def record (i : Nat) : List Exchange :=
  Pool.record (World.shares deployment) i (race.pool deployment shared) schedule

/-- All requests are answered. -/
def Ended : Prop :=
  ∀ thread ∈ (race.after deployment shared schedule).threads, thread.program.Ended

instance : Decidable (race.Ended deployment shared schedule) :=
  inferInstanceAs (Decidable (∀ thread ∈ _, _))

/-- Every commit has moved the case once and contributed one entry, by the worker that won it. -/
def ExactlyOnce : Prop :=
  ∀ i < (race.pool deployment shared).threads.length,
    AppliesOnce race.caseId.text (race.record deployment shared schedule i)

instance : Decidable (race.ExactlyOnce deployment shared schedule) :=
  inferInstanceAs (Decidable (∀ i < _, _))

/-- No commit has moved the case or contributed an entry more than once so far. -/
def AtMostOnce : Prop :=
  ∀ i < (race.pool deployment shared).threads.length,
    AppliesAtMostOnce race.caseId.text (race.record deployment shared schedule i)

/-- No worker comes in between the steps of another. -/
def Undisturbed : Prop :=
  ∀ i < (race.pool deployment shared).threads.length,
    Exchange.Undisturbed (race.record deployment shared schedule i)

variable {deployment race shared}

/-- Every worker's record accords with how far it has got. -/
theorem accords_along (served : shared.Served deployment) (i : Nat)
    (bound : i < (race.pool deployment shared).threads.length)
    : ∃ thread ∈ (race.after deployment shared schedule).threads, ∃ progress,
        Accords race.caseId.text (race.record deployment shared schedule i) progress
        ∧ (thread.program.Ended → progress.Settled) := by
  have begins (i : Nat) (thread : Thread Op Res (Except Raised Response) Worker)
      (found : (race.pool deployment shared).threads[i]? = some thread)
      : ∃ progress,
          Accords race.caseId.text [] progress
          ∧ Program.Follows (Progress.executing race.caseId.text) (fun _ last => last.Settled)
              progress thread.program := by
    refine ⟨.free, Idle.nil race.caseId.text, ?_⟩
    rcases List.mem_append.mp (List.mem_of_getElem? found) with member | member
    · obtain ⟨worker, _, rfl⟩ := List.mem_map.mp member
      exact executes_executeRetry deployment race.caseId
    · obtain ⟨⟨worker, delivery⟩, _, rfl⟩ := List.mem_map.mp member
      exact executes_failure deployment race.caseId.text delivery
  obtain ⟨_, stages⟩ := @Pool.Recorded.run _ _ _ _ _ _ _ _
    (recorded_executing deployment race.caseId.text) _ (fun _ => []) served begins schedule
  have length := Pool.length_run (World.shares deployment) (race.pool deployment shared) schedule
  obtain ⟨thread, found⟩ : ∃ thread,
      (race.after deployment shared schedule).threads[i]? = some thread :=
    ⟨_, List.getElem?_eq_getElem (length.symm ▸ bound)⟩
  obtain ⟨progress, accords, follows⟩ := stages i thread found
  refine ⟨thread, List.mem_of_getElem? found, progress, accords, fun ended => ?_⟩
  obtain ⟨_, settled⟩ := follows.ended ended
  exact settled

/-- However the calls of the workers interleave, and whatever the service has done before:
undisturbed, no commit has been applied more than once so far, and in the end each has been applied
exactly once. Conversely, workers that have applied each commit exactly once were undisturbed,
unless one that lost a commit wrote the case and could not insert the entry.
-/
theorem exactlyOnce_undisturbed (deployment : Deployment) (events : List Workers.Event) (race : Race)
    (schedule : List Nat)
    : let shared := ((Workers.start true).run deployment events).shared
      (race.Undisturbed deployment shared schedule
        → race.AtMostOnce deployment shared schedule
          ∧ (race.Ended deployment shared schedule
            → race.ExactlyOnce deployment shared schedule))
      ∧ (race.Ended deployment shared schedule
        → (∀ i < (race.pool deployment shared).threads.length,
            Reads (race.record deployment shared schedule i)
            ∨ Inserts (race.record deployment shared schedule i))
        → race.ExactlyOnce deployment shared schedule
        → race.Undisturbed deployment shared schedule) := by
  intro shared
  obtain ⟨store, postgres⟩ := Workers.postgres_run deployment events
  have served : shared.Served deployment :=
    ⟨(Workers.sound_run deployment true events).shared, by
      change ((Workers.start true).run deployment events).shared.store.isInMemory = false
      rw [postgres]
      rfl⟩
  refine ⟨fun undisturbed => ⟨fun i bound => ?_, fun ended i bound => ?_⟩,
    fun ended kept once i bound => ?_⟩
  · obtain ⟨_, _, _, accords, _⟩ := accords_along schedule served i bound
    exact accords.atMostOnce (undisturbed i bound)
  · obtain ⟨thread, member, _, accords, settles⟩ := accords_along schedule served i bound
    exact accords.once (settles (ended thread member)) (undisturbed i bound)
  · obtain ⟨thread, member, _, accords, settles⟩ := accords_along schedule served i bound
    exact accords.undisturbed (settles (ended thread member)) (once i bound) (kept i bound)

/-- Two workers at the retry of a declined case, four days after its notice. -/
def twoExecutors : Race where
  caseId := ⟨"pay_2", firstPayment_noSlash⟩
  executors :=
    let late : Worker := ⟨{ demoClock with offset := hours 96 }, .new, []⟩
    [late, late]
  deliveries := []

/-- The second worker has read the case, and loses the commit once the first has applied it. -/
def lostLate : List Nat := List.replicate 6 1 ++ List.replicate 20 0 ++ List.replicate 20 1

theorem exactlyOnce_undisturbed_lostLate
    : let shared := ((Workers.start true).run demoDeployment Rivals.noticing).shared
      (twoExecutors.record demoDeployment shared lostLate 1).any refused = true
      ∧ twoExecutors.Undisturbed demoDeployment shared lostLate
      ∧ twoExecutors.AtMostOnce demoDeployment shared lostLate := by
  intro shared
  obtain ⟨once, undisturbed⟩ :=
    exactlyOnce_undisturbed demoDeployment Rivals.noticing twoExecutors lostLate
  have reads
      : ∀ i < (twoExecutors.pool demoDeployment shared).threads.length,
          Reads (twoExecutors.record demoDeployment shared lostLate i) := by
    decide +kernel
  have calm := undisturbed (by decide +kernel) (fun i bound => .inl (reads i bound))
    (by decide +kernel)
  exact ⟨by decide +kernel, calm, (once calm).1⟩

/-- The first worker wins the commit and pauses; the second loses it and heals the case. -/
def healedEarly : List Nat := List.replicate 7 0 ++ List.replicate 20 1 ++ List.replicate 20 0

/-- One commit is applied by both workers: there are two entries about it in the end. -/
theorem exactlyOnce_not_always
    : let shared := ((Workers.start true).run demoDeployment Rivals.noticing).shared
      let later := (twoExecutors.after demoDeployment shared healedEarly).shared
      twoExecutors.Ended demoDeployment shared healedEarly
      ∧ committedAttempts later.log "pay_2" = [1]
      ∧ executions (later.store.view "pay_2").trail = 2
      ∧ ¬ twoExecutors.ExactlyOnce demoDeployment shared healedEarly := by
  decide +kernel

end Race

end RecoveryAgent
