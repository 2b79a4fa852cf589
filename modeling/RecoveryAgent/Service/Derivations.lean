import RecoveryAgent.Service.Findings
import RecoveryAgent.Service.Records

/-! How all that a service holds has come about, whichever way its tasks interleave.
A version of a case is opened by a failure, or made of an earlier version by a deed. Entries and
decisions go back to a version, commits to a version and a decision, and a deed that executes a
retry to a commit.
-/

namespace RecoveryAgent

open StateMachine Handler

/-- The wall clock never goes back. -/
def ServiceClock.Nondecreasing (clock : ServiceClock) : Prop :=
  ∀ i j, i ≤ j → clock.wall i ≤ clock.wall j

-----------------------------------------------------------------------------------------
-- Items
-----------------------------------------------------------------------------------------

/-- A version of a case, or what is stored for good. -/
inductive Item where
  | row (case : RecoveryCase)
  | entry (entry : AuditEntry)
  | decision (decision : RetryDecision)
  | effect (effect : Effect)

/-- The item is stored for good; an entry is, up to its number and links. -/
def Item.OnRecord (records : Records) : Item → Prop
  | .row _ => False
  | .entry bare => ∃ logged ∈ records.store.auditEntries.rows, logged.bare = bare
  | .decision recorded => recorded ∈ records.store.retryDecisions.rows
  | .effect committed => ∃ row ∈ records.log.rows, row.value = committed

/-- What is stored for good. -/
def Records.archive (records : Records) : Set Item := {item | item.OnRecord records}

theorem Records.Grow.archive {records later : Records} (grow : records.Grow later)
    : records.archive ⊆ later.archive := by
  intro item stored
  cases item with
  | row case => exact stored
  | decision decision => exact grow.decisions stored
  | entry entry =>
      obtain ⟨logged, member, same⟩ := stored
      exact ⟨logged, grow.audit.subset member, same⟩
  | effect effect =>
      obtain ⟨row, member, same⟩ := stored
      exact ⟨row, grow.log.subset member, same⟩

-----------------------------------------------------------------------------------------
-- Derivations
-----------------------------------------------------------------------------------------

/-- What is assumed of a run: that its clocks do not go back, if it is timed, and that only these
requests are served.
-/
structure Setting where
  timed : Prop
  served : Set Request

/-- The grounds are about the case, and their requests are served. -/
structure Grounds.Sound (grounds : Grounds) (setting : Setting) (case : RecoveryCase)
    : Prop where
  served : grounds.requests ⊆ setting.served
  paths : ∀ text ∈ grounds.paths, text = case.caseId
  mandates : ∀ mandateId ∈ grounds.mandates, mandateId = case.mandateId
  effects : ∀ effect ∈ grounds.effects, effect.caseId = case.caseId

/-- How an item has come about. -/
inductive Derived (config : AppConfig) (setting : Setting) (archive : Set Item)
    : Item → Prop where
  | opened {entity : PaymentEntity} {event event' : PaymentFailureEvent} {clock : Clock}
      {case : RecoveryCase} {entries : List AuditEntry}
      (reported : Reported setting.served entity event) (first : event.caseId = event.paymentId)
      (handled : handleNewFailure event config clock = .ok (case, event', entries))
    : Derived config setting archive (.row case)
  | written {case case' : RecoveryCase} {grounds : Grounds} {entries : List AuditEntry}
      (found : Derived config setting archive (.row case)) (sound : grounds.Sound setting case)
      (approvals : ∀ effect ∈ grounds.effects, Derived config setting archive (.effect effect))
      (deed : Deed config grounds case case' entries)
    : Derived config setting archive (.row case')
  | opening {entity : PaymentEntity} {event event' : PaymentFailureEvent} {clock : Clock}
      {case : RecoveryCase} {entries : List AuditEntry} {entry : AuditEntry}
      (reported : Reported setting.served entity event) (first : event.caseId = event.paymentId)
      (handled : handleNewFailure event config clock = .ok (case, event', entries))
      (member : entry ∈ entries) (logged : .entry entry ∈ archive)
    : Derived config setting archive (.entry entry)
  | appended {case case' : RecoveryCase} {grounds : Grounds} {entries : List AuditEntry}
      {entry : AuditEntry} (found : Derived config setting archive (.row case))
      (sound : grounds.Sound setting case)
      (approvals : ∀ effect ∈ grounds.effects, Derived config setting archive (.effect effect))
      (deed : Deed config grounds case case' entries) (member : entry ∈ entries)
      (logged : .entry entry ∈ archive)
    : Derived config setting archive (.entry entry)
  /-- The entries of a notice are logged before its decision is recorded. -/
  | decided {segment : PathSegment} {draw : Draw} {case case' : RecoveryCase}
      {clock : ServiceClock} {entries : List AuditEntry} {decision : RetryDecision}
      (asked : .sendNotice segment draw ∈ setting.served) (read : segment.text = case.caseId)
      (found : Derived config setting archive (.row case))
      (paced : setting.timed → clock.Nondecreasing)
      (sent
        : Noticed case config clock.view none (some (slotBandit.suggestFrom draw)) case' entries
            decision)
      (noticed : ∀ entry ∈ entries, Derived config setting archive (.entry entry))
      (stored : .decision decision ∈ archive)
    : Derived config setting archive (.decision decision)
  /-- A commit is for a version that was scheduled, and a decision that was due. -/
  | committed {segment : PathSegment} {case : RecoveryCase} {decision : RetryDecision}
      {due now : Datetime} (asked : .executeRetry segment ∈ setting.served)
      (read : segment.text = case.caseId) (found : Derived config setting archive (.row case))
      (scheduled : case.state = .retryScheduled)
      (pending : Derived config setting archive (.decision decision))
      (named : decision.caseId = case.caseId) (reached : decision.scheduledAt ≤ due)
      (ordered : setting.timed → due ≤ now)
      (stored : .effect (retryEffect case.caseId decision now) ∈ archive)
    : Derived config setting archive (.effect (retryEffect case.caseId decision now))

namespace Derived

variable {config : AppConfig} {setting : Setting} {archive later : Set Item} {item : Item}

/-- What has come about stays so while more is stored, by induction over the derivation. -/
theorem mono (derived : Derived config setting archive item) (more : archive ⊆ later)
    : Derived config setting later item := by
  induction derived with
  | opened reported first handled => exact .opened reported first handled
  | written found sound approvals deed ih ihs => exact .written ih sound ihs deed
  | opening reported first handled member logged =>
      exact .opening reported first handled member (more logged)
  | appended found sound approvals deed member logged ih ihs =>
      exact .appended ih sound ihs deed member (more logged)
  | decided asked read found paced sent noticed stored ih ihs =>
      exact .decided asked read ih paced sent ihs (more stored)
  | committed asked read found scheduled pending named reached ordered stored ih ih' =>
      exact .committed asked read ih scheduled ih' named reached ordered (more stored)

/-- Whatever is derived is stored, but for the versions of cases. -/
theorem stored (derived : Derived config setting archive item) (other : ∀ case, item ≠ .row case)
    : item ∈ archive := by
  cases derived with
  | opened reported first handled => exact absurd rfl (other _)
  | written found sound approvals deed => exact absurd rfl (other _)
  | opening reported first handled member logged => exact logged
  | appended found sound approvals deed member logged => exact logged
  | decided asked read found paced sent noticed stored => exact stored
  | committed asked read found scheduled pending named reached ordered stored => exact stored

/-- A commit executes a retry. -/
theorem executes {effect : Effect} (derived : Derived config setting archive (.effect effect))
    : effect.toState = .retryExecuted := by
  cases derived with
  | committed => rfl

/-- What holds of newly opened cases and is kept by every deed holds of all versions. -/
theorem row_induction {P : RecoveryCase → Prop}
    (opened
      : ∀ entity event clock case event' entries,
          Reported setting.served entity event
          → event.caseId = event.paymentId
          → handleNewFailure event config clock = .ok (case, event', entries)
          → P case)
    (written
      : ∀ grounds case case' entries,
          P case
          → grounds.Sound setting case
          → (∀ effect ∈ grounds.effects, Derived config setting archive (.effect effect))
          → Deed config grounds case case' entries
          → P case')
    {case : RecoveryCase} (derived : Derived config setting archive (.row case))
    : P case := by
  generalize same : Item.row case = item at derived
  induction derived generalizing case with
  | opened reported first handled =>
      cases same
      exact opened _ _ _ _ _ _ reported first handled
  | written found sound approvals deed ih =>
      cases same
      exact written _ _ _ _ (ih rfl) sound approvals deed
  | _ => cases same

end Derived

-----------------------------------------------------------------------------------------
-- What findings say
-----------------------------------------------------------------------------------------

/-- What a finding says about the records, to a worker that has got so far. -/
def Finding.Holds (config : AppConfig) (setting : Setting) (own : Worker) (records : Records)
    : Finding → Prop
  | .serving request => request ∈ setting.served
  | .held mandateId case => case.mandateId = mandateId
  | .row caseId case =>
      case.caseId = caseId
      ∧ Derived config setting records.archive (.row case)
      ∧ ∃ current, records.case? caseId = some current ∧ SameCase case current
  | .counted caseId attempts => ∀ n, 1 ≤ n → n ≤ attempts → n ∈ records.attempts caseId
  | .pending decision => Derived config setting records.archive (.decision decision)
  | .committed caseId effect =>
      effect.caseId = caseId ∧ Derived config setting records.archive (.effect effect)
  | .logged entry => Derived config setting records.archive (.entry entry)
  | .clock view =>
      ∃ service : ServiceClock, view = service.view ∧ (setting.timed → service.Nondecreasing)
  | .reading instant => setting.timed → ∀ k, instant ≤ own.clock.reading k
  | .ordered earlier later => setting.timed → earlier ≤ later
  | .drawn id => 1 ≤ id ∧ id ≤ records.store.auditEntries.rows.length + 1
  | .linked id caseId hash =>
      1 ≤ id
      ∧ id ≤ records.store.auditEntries.rows.length + 1
      ∧ (id = records.store.auditEntries.rows.length + 1
        → hash = records.store.lastEntryHash caseId)

/-- While no row is added, the last hashes stay. -/
theorem PostgresCaseStore.lastEntryHash_congr {store store' : PostgresCaseStore}
    (same : store'.auditEntries.rows = store.auditEntries.rows) (caseId : String)
    : store'.lastEntryHash caseId = store.lastEntryHash caseId := by
  simp only [lastEntryHash, same]

/-- Findings survive the growth of the records, and readings of later clocks. -/
theorem Finding.Holds.grow {config : AppConfig} {setting : Setting} {own own' : Worker}
    {records later : Records} {finding : Finding}
    (holds : finding.Holds config setting own records) (grow : records.Grow later)
    (clock : setting.timed → ∀ k, own.clock.reading k ≤ own'.clock.reading k)
    : finding.Holds config setting own' later := by
  have longer := grow.audit.length_le
  cases finding with
  | row caseId case =>
      obtain ⟨named, derived, current, stored, same⟩ := holds
      obtain ⟨current', stored', same'⟩ := grow.cases caseId current stored
      exact ⟨named, derived.mono grow.archive, current', stored', same.trans same'⟩
  | counted caseId attempts =>
      exact fun n positive bound => grow.attempts caseId (holds n positive bound)
  | pending decision => exact Derived.mono holds grow.archive
  | committed caseId effect => exact ⟨holds.1, holds.2.mono grow.archive⟩
  | logged entry => exact Derived.mono holds grow.archive
  | clock clock => exact holds
  | reading instant => exact fun timed k => (holds timed k).trans (clock timed k)
  | ordered earlier later => exact holds
  | serving request => exact holds
  | held mandateId case => exact holds
  | drawn id => exact ⟨holds.1, holds.2.trans (Nat.add_le_add_right longer 1)⟩
  | linked id caseId hash =>
      obtain ⟨positive, bound, current⟩ := holds
      refine ⟨positive, bound.trans (Nat.add_le_add_right longer 1), fun last => ?_⟩
      have level
          : records.store.auditEntries.rows.length = later.store.auditEntries.rows.length := by
        omega
      have rows := (grow.audit.eq_of_length level).symm
      rw [PostgresCaseStore.lastEntryHash_congr rows]
      exact current (by omega)

end RecoveryAgent
