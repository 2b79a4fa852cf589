import Mathlib.Data.List.Dedup
import Mathlib.Data.List.Infix
import RecoveryAgent.Core.Config

/-! The independent compliance verifier (`app/core/verifier.py`) and what its passing means.
The verifier is a one-pass monitor over a trail. Its checks are first matched, one by one,
with rules stated about the whole trail, and those are then compared with compliance.
-/

namespace RecoveryAgent

/-- The outcome of a single rule check. -/
structure VerificationResult where
  rule : String
  passed : Bool
  detail : String := ""
  deriving DecidableEq

namespace Verifier

-----------------------------------------------------------------------------------------
-- The checks
-----------------------------------------------------------------------------------------

def maxRetries (case : RecoveryCase) (rules : NpciRules) : VerificationResult :=
  if rules.maxRetries < case.retriesUsed then
    ⟨"max_retries", false, "retries_used=" ++ toString case.retriesUsed ++ " exceeds max "
      ++ toString rules.maxRetries⟩
  else ⟨"max_retries", true, ""⟩

/-- The variables of the notice loop, and the result appended before its break. -/
structure NoticeScan where
  lastNotice : Option AuditEntry := none
  foundExecution : Bool := false
  failure : Option VerificationResult := none

/-- The notice loop. An execution without a pending notice is passed over. -/
def scanNotices (lead : Timedelta) (scan : NoticeScan) : List AuditEntry → NoticeScan
  | [] => scan
  | entry :: rest =>
      if entry.toState = .noticeSent then
        scanNotices lead { scan with lastNotice := some entry } rest
      else if entry.toState = .retryExecuted then
        match scan.lastNotice with
        | none => scanNotices lead scan rest
        | some notice =>
            let gap : Timedelta := entry.timestamp - notice.timestamp
            if gap < lead then
              { scan with
                foundExecution := true
                failure := some ⟨"notice_lead_time", false,
                  "gap " ++ gap.str ++ " < required " ++ lead.str ++ " (notice at "
                    ++ isoformat notice.timestamp ++ ", executed at "
                    ++ isoformat entry.timestamp ++ ")"⟩ }
            else
              -- matched; the next cycle needs its own notice
              scanNotices lead { scan with lastNotice := none, foundExecution := true } rest
      else scanNotices lead scan rest

/-- The results of the notice check: a trailing notice after a matched one leaves none. -/
def noticeLeadTime (entries : List AuditEntry) (rules : NpciRules) : List VerificationResult :=
  let scan := scanNotices rules.noticeLeadTime {} entries
  scan.failure.toList
    ++ if scan.lastNotice = none ∨ scan.foundExecution = false then
        [⟨"notice_lead_time", true, ""⟩]
      else []

/-- `[e.timestamp for e in audit_entries if e.to_state == "RETRY_EXECUTED"]`. -/
def executedTimes (entries : List AuditEntry) : List Datetime :=
  (entries.filter (·.toState = .retryExecuted)).map (·.timestamp)

/-- The spacing loop from its index on, over the times from the previous one on. -/
def retrySpacing (policy : SelfImposedPolicy) (i : Nat)
    : List Datetime → Except PyError VerificationResult
  | previous :: next :: rest => do
      let some required := policy.spacing? i | .error .indexError
      let gap : Timedelta := next - previous
      if gap < required then
        return ⟨"retry_spacing", false, "attempt " ++ toString (i + 1) ++ " gap " ++ gap.str
          ++ " < required " ++ required.str⟩
      retrySpacing policy (i + 1) (next :: rest)
  | _ => return ⟨"retry_spacing", true, ""⟩

/-- The instants of an entry the blackout is checked at. -/
def checkedTimes (entry : AuditEntry) : List Datetime :=
  if entry.toState = .retryExecuted then [entry.timestamp]
  else if entry.toState = .retryScheduled then entry.timestamp :: entry.scheduledAt.toList
  else []

def peakHourBlackout (entries : List AuditEntry) (rules : NpciRules) : VerificationResult :=
  let violation := (entries.flatMap checkedTimes).findSome? fun t =>
    (rules.peakWindows.find? (fun window => window.covers (istTime t))).map (t, ·)
  match violation with
  | some (t, window) => ⟨"peak_hour_blackout", false, "timestamp " ++ isoformat t
      ++ " inside peak window " ++ window.start.str ++ "-" ++ window.stop.str⟩
  | none => ⟨"peak_hour_blackout", true, ""⟩

/-- `afa_free_ceiling.get("default", 1500000)`. -/
def defaultCeiling (rules : NpciRules) : Int :=
  (rules.afaFreeCeiling.lookup "default").getD 1500000

/-- A state the AFA check counts as a retry. -/
def isRetryState (state : CaseState) : Bool := state ∈ [.retryScheduled, .retryExecuted]

def afaCeiling (case : RecoveryCase) (entries : List AuditEntry) (rules : NpciRules)
    : VerificationResult :=
  let ceiling := defaultCeiling rules
  if case.bucket = some .treatment ∧ ceiling < case.originalAmount
      ∧ entries.any (fun entry => isRetryState entry.toState) then
    ⟨"afa_ceiling", false, "amount " ++ toString case.originalAmount ++ " > ceiling "
      ++ toString ceiling ++ " but retry was attempted"⟩
  else ⟨"afa_ceiling", true, ""⟩

/-- `"assign_bucket" in rule_fired`. -/
def assignsBucket (entry : AuditEntry) : Bool :=
  decide ("assign_bucket".toList <:+: entry.ruleFired.toList)

/-- `rule_fired.split("_")[-1]`. -/
def lastSegment (text : String) : String :=
  String.ofList (text.toList.reverse.takeWhile (· ≠ '_')).reverse

/-- The set of buckets the trail names; the order in which Python lists it is not fixed. -/
def bucketsSeen (entries : List AuditEntry) : List String :=
  ((entries.filter assignsBucket).map (lastSegment ·.ruleFired)).dedup

def bucketImmutability (entries : List AuditEntry) : VerificationResult :=
  let seen := bucketsSeen entries
  if 1 < seen.length then
    ⟨"bucket_immutability", false, "multiple buckets seen: \x7b"
      ++ ", ".intercalate (seen.map fun bucket => "'" ++ bucket ++ "'") ++ "\x7d"⟩
  else ⟨"bucket_immutability", true, ""⟩

/-- `verify_case_compliance`. -/
def verifyCaseCompliance (case : RecoveryCase) (entries : List AuditEntry) (config : AppConfig)
    : Except PyError (List VerificationResult) :=
  if entries.isEmpty then .ok [⟨"empty_audit", false, "No audit entries found"⟩]
  else do
    let rules := config.npciRules
    let spacing ← retrySpacing config.selfImposed 1 (executedTimes entries)
    return [maxRetries case rules] ++ noticeLeadTime entries rules
      ++ [spacing, peakHourBlackout entries rules, afaCeiling case entries rules,
        bucketImmutability entries,
        ⟨"throttle_neutrality", true,
          "enforced by state machine, not re-derivable from audit alone"⟩]

-----------------------------------------------------------------------------------------
-- The rules behind the checks
-----------------------------------------------------------------------------------------

/-- Consecutive times are apart by the spacing entry of their position, counted on from
`first`.
-/
def Spaced (policy : SelfImposedPolicy) (first : Nat) (times : List Datetime) : Prop :=
  ∀ i previous next required,
    times[i]? = some previous
    → times[i + 1]? = some next
    → policy.spacing? (first + i) = some required
    → previous + required ≤ next

/-- Entries that neither send a notice nor execute a retry. -/
def Between (entries : List AuditEntry) : Prop :=
  ∀ entry ∈ entries, entry.toState ≠ .noticeSent ∧ entry.toState ≠ .retryExecuted

/-- The first execution after a notice, unless another notice comes first, is no earlier
than the lead time.
-/
def FirstLed (lead : Timedelta) (notice : AuditEntry) (entries : List AuditEntry) : Prop :=
  ∀ between execution after,
    entries = between ++ execution :: after
    → Between between
    → execution.toState = .retryExecuted
    → notice.timestamp + lead ≤ execution.timestamp

/-- Every notice of a trail leads its first execution. -/
def NoticesLead (lead : Timedelta) (entries : List AuditEntry) : Prop :=
  ∀ before notice after,
    entries = before ++ notice :: after
    → notice.toState = .noticeSent
    → FirstLed lead notice after

/-- What the verifier looks at holds of a case and its trail. -/
structure RulesKept (case : RecoveryCase) (entries : List AuditEntry) (config : AppConfig)
    : Prop where
  counter : (case.retriesUsed : Int) ≤ config.npciRules.maxRetries
  notices : NoticesLead config.npciRules.noticeLeadTime entries
  spacing : Spaced config.selfImposed 1 (executedTimes entries)
  peak : ∀ entry ∈ entries, ∀ t ∈ checkedTimes entry, ¬ config.npciRules.inPeak t
  afa
    : case.bucket = some .treatment
      → defaultCeiling config.npciRules < case.originalAmount
      → ∀ entry ∈ entries, isRetryState entry.toState = false
  buckets
    : ∀ first ∈ entries, ∀ second ∈ entries,
        assignsBucket first → assignsBucket second
        → lastSegment first.ruleFired = lastSegment second.ruleFired

-----------------------------------------------------------------------------------------
-- Each check decides its rule
-----------------------------------------------------------------------------------------

theorem maxRetries_passed {case : RecoveryCase} {rules : NpciRules}
    : (maxRetries case rules).passed = true ↔ (case.retriesUsed : Int) ≤ rules.maxRetries := by
  unfold maxRetries
  split <;> simp <;> omega

/-- An entry that is no execution does not end the search for one. -/
theorem FirstLed.cons_other {lead : Timedelta} {notice entry : AuditEntry}
    {rest : List AuditEntry} (unnoticed : entry.toState ≠ .noticeSent)
    (unexecuted : entry.toState ≠ .retryExecuted)
    : FirstLed lead notice (entry :: rest) ↔ FirstLed lead notice rest := by
  constructor
  · intro led between execution after split quiet executed
    refine led (entry :: between) execution after (by rw [split, List.cons_append]) ?_ executed
    exact List.forall_mem_cons.mpr ⟨⟨unnoticed, unexecuted⟩, quiet⟩
  · intro led between execution after split quiet executed
    cases between with
    | nil =>
        cases split
        exact absurd executed unexecuted
    | cons head tail =>
        cases split
        exact led tail execution after rfl (List.forall_mem_cons.mp quiet).2 executed

/-- An execution right after a notice decides whether the notice led it. -/
theorem FirstLed.cons_executed {lead : Timedelta} {notice entry : AuditEntry}
    {rest : List AuditEntry} (executed : entry.toState = .retryExecuted)
    : FirstLed lead notice (entry :: rest) ↔ notice.timestamp + lead ≤ entry.timestamp := by
  constructor
  · intro led
    exact led [] entry rest rfl (by simp [Between]) executed
  · intro gap between execution after split quiet _
    cases between with
    | nil =>
        cases split
        exact gap
    | cons head tail =>
        cases split
        exact absurd executed (quiet entry (by simp)).2

/-- Another notice ends the search. -/
theorem FirstLed.cons_noticed {lead : Timedelta} {notice entry : AuditEntry}
    {rest : List AuditEntry} (noticed : entry.toState = .noticeSent)
    : FirstLed lead notice (entry :: rest) := by
  intro between execution after split quiet executed
  cases between with
  | nil =>
      cases split
      cases noticed.symm.trans executed
  | cons head tail =>
      cases split
      exact absurd noticed (quiet entry (by simp)).1

theorem NoticesLead.cons {lead : Timedelta} {entry : AuditEntry} {rest : List AuditEntry}
    : NoticesLead lead (entry :: rest)
      ↔ (entry.toState = .noticeSent → FirstLed lead entry rest) ∧ NoticesLead lead rest := by
  constructor
  · intro leads
    refine ⟨leads [] entry rest rfl, fun before notice after split noticed => ?_⟩
    exact leads (entry :: before) notice after (by rw [split, List.cons_append]) noticed
  · rintro ⟨first, later⟩ before notice after split noticed
    cases before with
    | nil =>
        cases split
        exact first noticed
    | cons head tail =>
        cases split
        exact later tail notice after rfl noticed

/-- The notice loop runs through exactly when its pending notice and every later one lead
their executions. Witness: induction over the trail; an execution consumes the pending
notice, and one without a notice is no evidence.
-/
theorem scanNotices_clear {lead : Timedelta} {entries : List AuditEntry} {scan : NoticeScan}
    (clear : scan.failure = none)
    : (scanNotices lead scan entries).failure = none
      ↔ (∀ notice, scan.lastNotice = some notice → FirstLed lead notice entries)
        ∧ NoticesLead lead entries := by
  induction entries generalizing scan with
  | nil => simp [scanNotices, clear, FirstLed, NoticesLead]
  | cons entry rest ih =>
      rw [scanNotices, NoticesLead.cons]
      by_cases noticed : entry.toState = .noticeSent
      · have later := @ih { scan with lastNotice := some entry } clear
        rw [if_pos noticed, later]
        simp [noticed, FirstLed.cons_noticed noticed]
      by_cases executed : entry.toState = .retryExecuted
      · rw [if_neg noticed, if_pos executed]
        cases pending : scan.lastNotice with
        | none => simp [ih clear, pending, noticed]
        | some notice =>
            dsimp only
            split
            · next short =>
                simp only [reduceCtorEq, false_iff, not_and]
                intro led
                have gap := (FirstLed.cons_executed executed).mp (led notice rfl)
                simp only [Datetime, Timedelta] at *
                omega
            · next long =>
                have gap : notice.timestamp + lead ≤ entry.timestamp := by
                  simp only [Datetime, Timedelta] at *
                  omega
                have later := @ih { scan with lastNotice := none, foundExecution := true } clear
                rw [later]
                simp [noticed, FirstLed.cons_executed executed, gap]
      · rw [if_neg noticed, if_neg executed, ih clear]
        simp [noticed, FirstLed.cons_other noticed executed]

/-- The result appended before the break of the notice loop is a failure. -/
theorem scanNotices_failed {lead : Timedelta} {entries : List AuditEntry} {scan : NoticeScan}
    (clear : scan.failure = none) {result : VerificationResult}
    (failed : (scanNotices lead scan entries).failure = some result)
    : result.passed = false := by
  induction entries generalizing scan with
  | nil => simp [scanNotices, clear] at failed
  | cons entry rest ih =>
      rw [scanNotices] at failed
      split at failed
      · exact @ih { scan with lastNotice := some entry } clear failed
      split at failed
      · split at failed
        · exact ih clear failed
        · dsimp only at failed
          split at failed
          · cases failed
            rfl
          · exact @ih { scan with lastNotice := none, foundExecution := true } clear failed
      · exact ih clear failed

theorem noticeLeadTime_passed {entries : List AuditEntry} {rules : NpciRules}
    : (∀ result ∈ noticeLeadTime entries rules, result.passed = true)
      ↔ NoticesLead rules.noticeLeadTime entries := by
  have clear := @scanNotices_clear rules.noticeLeadTime entries {} rfl
  simp only [reduceCtorEq, false_implies, implies_true, true_and] at clear
  rw [← clear]
  unfold noticeLeadTime
  dsimp only
  cases failure : (scanNotices rules.noticeLeadTime {} entries).failure with
  | none => split <;> simp
  | some result =>
      simp [scanNotices_failed rfl failure]

/-- Spacing splits into the first gap and the spacing of the rest. -/
theorem Spaced.cons {policy : SelfImposedPolicy} {first : Nat} {previous next : Datetime}
    {rest : List Datetime} {required : Timedelta}
    (entry : policy.spacing? first = some required)
    : Spaced policy first (previous :: next :: rest)
      ↔ previous + required ≤ next ∧ Spaced policy (first + 1) (next :: rest) := by
  constructor
  · intro spaced
    refine ⟨spaced 0 previous next required rfl rfl entry, ?_⟩
    intro i earlier later gap atEarlier atLater listed
    exact spaced (i + 1) earlier later gap atEarlier atLater
      (by rw [← listed]; congr 1; omega)
  · rintro ⟨gap, spaced⟩ i earlier later other atEarlier atLater listed
    cases i with
    | zero =>
        cases atEarlier
        cases atLater
        cases entry.symm.trans listed
        exact gap
    | succ i =>
        exact spaced i earlier later other atEarlier atLater
          (by rw [← listed]; congr 1; omega)

/-- One more time keeps the spacing when every earlier one is far enough from it. -/
theorem Spaced.snoc {policy : SelfImposedPolicy} {first : Nat} {times : List Datetime}
    {next : Datetime} (spaced : Spaced policy first times)
    (far
      : ∀ t ∈ times, ∀ required,
          policy.spacing? (first + times.length - 1) = some required → t + required ≤ next)
    : Spaced policy first (times ++ [next]) := by
  intro i previous later required atPrevious atLater listed
  have bound := (List.getElem?_eq_some_iff.mp atLater).1
  rw [List.length_append, List.length_singleton] at bound
  have before : i < times.length := by omega
  rw [List.getElem?_append_left before] at atPrevious
  by_cases last : i + 1 = times.length
  · rw [List.getElem?_append_right (by omega), last, Nat.sub_self] at atLater
    cases atLater
    apply far previous (List.mem_of_getElem? atPrevious) required
    rw [← listed]
    congr 1
    omega
  · rw [List.getElem?_append_left (by omega)] at atLater
    exact spaced i previous later required atPrevious atLater listed

/-- Notices lead where every one of them leads every later execution. -/
theorem noticesLead_of_pairwise {lead : Timedelta} {entries : List AuditEntry}
    (leads
      : entries.Pairwise fun earlier later =>
          earlier.toState = .noticeSent → later.toState = .retryExecuted
          → earlier.timestamp + lead ≤ later.timestamp)
    : NoticesLead lead entries := by
  rintro before notice after rfl noticed between execution rest rfl _ executed
  have follows := (List.pairwise_append.mp leads).2.1
  exact (List.pairwise_cons.mp follows).1 execution (by simp) noticed executed

@[simp] theorem executedTimes_append (left right : List AuditEntry)
    : executedTimes (left ++ right) = executedTimes left ++ executedTimes right := by
  simp [executedTimes]

/-- The spacing loop answers on every list of times once there is a spacing entry to compare
them with, and its answer is whether they are spaced. Witness: induction over the times from
the loop's index on.
-/
theorem retrySpacing_passed {policy : SelfImposedPolicy} (i : Nat) (times : List Datetime)
    (listed : times ≠ [] → policy.retrySpacing ≠ [])
    : ∃ result,
        retrySpacing policy i times = .ok result
        ∧ (result.passed = true ↔ Spaced policy i times) := by
  induction times generalizing i with
  | nil => exact ⟨_, rfl, by simp [Spaced]⟩
  | cons previous rest ih =>
      cases rest with
      | nil => exact ⟨_, rfl, by simp [Spaced]⟩
      | cons next later =>
          have listed := listed (by simp)
          obtain ⟨required, entry⟩ := policy.spacing?_isSome listed i
          obtain ⟨result, rest_ok, rest_spaced⟩ := ih (i + 1) fun _ => listed
          have head := @Spaced.cons policy i previous next later required entry
          rw [retrySpacing, entry]
          dsimp only [bind, Except.bind, pure, Except.pure]
          split
          · next short =>
              refine ⟨_, rfl, ?_⟩
              simp only [head]
              simp only [Datetime, Timedelta] at *
              simp
              omega
          · next long =>
              refine ⟨result, rest_ok, ?_⟩
              rw [rest_spaced, head]
              simp only [Datetime, Timedelta] at *
              constructor
              · intro spaced
                exact ⟨by omega, spaced⟩
              · exact And.right

theorem peakHourBlackout_passed {entries : List AuditEntry} {rules : NpciRules}
    : (peakHourBlackout entries rules).passed = true
      ↔ ∀ entry ∈ entries, ∀ t ∈ checkedTimes entry, ¬ rules.inPeak t := by
  have none_found
      : ((entries.flatMap checkedTimes).findSome? fun t =>
          (rules.peakWindows.find? (fun window => window.covers (istTime t))).map (t, ·)) = none
        ↔ ∀ entry ∈ entries, ∀ t ∈ checkedTimes entry, ¬ rules.inPeak t := by
    simp only [List.findSome?_eq_none_iff, List.mem_flatMap, Option.map_eq_none_iff,
      List.find?_eq_none, decide_eq_true_eq, NpciRules.inPeak, not_exists, not_and]
    exact ⟨fun clear entry member t checked => clear t ⟨entry, member, checked⟩,
      fun clear t ⟨entry, member, checked⟩ => clear entry member t checked⟩
  rw [← none_found]
  unfold peakHourBlackout
  dsimp only
  split
  · next found => simp [found]
  · next clear => simp [clear]

theorem afaCeiling_passed {case : RecoveryCase} {entries : List AuditEntry}
    {rules : NpciRules}
    : (afaCeiling case entries rules).passed = true
      ↔ (case.bucket = some .treatment → defaultCeiling rules < case.originalAmount
        → ∀ entry ∈ entries, isRetryState entry.toState = false) := by
  unfold afaCeiling
  dsimp only
  split
  · next broken =>
      obtain ⟨treated, above, retried⟩ := broken
      obtain ⟨entry, member, retry⟩ := List.any_eq_true.mp retried
      simp only [Bool.false_eq_true, false_iff]
      intro kept
      simp [kept treated above entry member] at retry
  · next kept =>
      simp only [true_iff]
      intro treated above entry member
      by_contra retry
      exact kept ⟨treated, above, List.any_eq_true.mpr ⟨entry, member, by simpa using retry⟩⟩

theorem bucketImmutability_passed {entries : List AuditEntry}
    : (bucketImmutability entries).passed = true
      ↔ ∀ first ∈ entries, ∀ second ∈ entries,
          assignsBucket first → assignsBucket second
          → lastSegment first.ruleFired = lastSegment second.ruleFired := by
  have member (bucket : String)
      : bucket ∈ bucketsSeen entries
        ↔ ∃ entry ∈ entries, assignsBucket entry ∧ lastSegment entry.ruleFired = bucket := by
    simp [bucketsSeen, and_assoc]
  have single : (bucketsSeen entries).length ≤ 1
      ↔ ∀ first ∈ bucketsSeen entries, ∀ second ∈ bucketsSeen entries, first = second := by
    have unique : (bucketsSeen entries).Nodup := List.nodup_dedup _
    match seen : bucketsSeen entries with
    | [] => simp
    | [bucket] => simp
    | first :: second :: rest =>
        rw [seen] at unique
        simp only [List.length_cons]
        refine ⟨by omega, fun same => ?_⟩
        have equal := same first (by simp) second (by simp)
        simp [equal] at unique
  have passed : (bucketImmutability entries).passed = true ↔ (bucketsSeen entries).length ≤ 1 := by
    unfold bucketImmutability
    dsimp only
    split <;> simp <;> omega
  rw [passed, single]
  constructor
  · intro same first hf second hs assigns assigns'
    exact same _ ((member _).mpr ⟨first, hf, assigns, rfl⟩) _
      ((member _).mpr ⟨second, hs, assigns', rfl⟩)
  · intro same first hf second hs
    obtain ⟨e, he, assigns, rfl⟩ := (member first).mp hf
    obtain ⟨e', he', assigns', rfl⟩ := (member second).mp hs
    exact same e he e' he' assigns assigns'

/-- Every result passed. -/
def AllPassed (case : RecoveryCase) (entries : List AuditEntry) (config : AppConfig) : Prop :=
  ∃ results,
    verifyCaseCompliance case entries config = .ok results
    ∧ ∀ result ∈ results, result.passed = true

/-- The verifier answers on every trail, unless it needs a spacing entry and there is none,
and passes exactly the trails that keep its rules.
-/
theorem allPassed_iff {case : RecoveryCase} {entries : List AuditEntry} {config : AppConfig}
    (listed : executedTimes entries ≠ [] → config.selfImposed.retrySpacing ≠ [])
    (nonempty : entries ≠ [])
    : AllPassed case entries config ↔ RulesKept case entries config := by
  obtain ⟨spacing, answered, spaced⟩ := retrySpacing_passed 1 (executedTimes entries) listed
  unfold AllPassed verifyCaseCompliance
  rw [if_neg (by simpa using nonempty), answered]
  dsimp only [bind, Except.bind, pure, Except.pure]
  simp only [Except.ok.injEq, exists_eq_left', List.forall_mem_append, List.forall_mem_cons,
    List.not_mem_nil, false_implies, implies_true, and_true, maxRetries_passed,
    noticeLeadTime_passed, spaced, peakHourBlackout_passed, afaCeiling_passed,
    bucketImmutability_passed]
  constructor
  · rintro ⟨⟨counter, notices⟩, spacing, peak, afa, buckets⟩
    exact ⟨counter, notices, spacing, peak, afa, buckets⟩
  · rintro ⟨counter, notices, spacing, peak, afa, buckets⟩
    exact ⟨⟨counter, notices⟩, spacing, peak, afa, buckets⟩

-----------------------------------------------------------------------------------------
-- Soundness
-----------------------------------------------------------------------------------------

/-- Since the last execution among them, the entries have a notice with the property. -/
def NoticeSince (property : AuditEntry → Prop) (entries : List AuditEntry) : Prop :=
  ∃ earlier notice between,
    entries = earlier ++ notice :: between
    ∧ (∀ entry ∈ between, entry.toState ≠ .retryExecuted)
    ∧ notice.toState = .noticeSent
    ∧ property notice

/-- Every execution of a trail has a notice of its own. -/
def OwnNotices (entries : List AuditEntry) : Prop :=
  ∀ before execution after,
    entries = before ++ execution :: after
    → execution.toState = .retryExecuted
    → NoticeSince (fun _ => True) before

/-- What the rules ask of the executions of a trail. -/
structure Compliant (entries : List AuditEntry) (config : AppConfig) : Prop where
  noticed
    : ∀ before execution after,
        entries = before ++ execution :: after
        → execution.toState = .retryExecuted
        → NoticeSince
            (fun notice =>
              notice.timestamp + config.npciRules.noticeLeadTime ≤ execution.timestamp)
            before
  spaced : Spaced config.selfImposed 1 (executedTimes entries)
  quiet
    : ∀ entry ∈ entries, entry.toState = .retryExecuted
        → ¬ config.npciRules.inPeak entry.timestamp
  capped : ((executedTimes entries).length : Int) ≤ config.npciRules.maxRetries

/-- Among entries without an execution that start with a notice there is a last notice.
Witness: induction over the entries after the first notice.
-/
theorem exists_last_notice {notice : AuditEntry} (noticed : notice.toState = .noticeSent)
    {between : List AuditEntry} (idle : ∀ entry ∈ between, entry.toState ≠ .retryExecuted)
    : ∃ earlier last later,
        notice :: between = earlier ++ last :: later
        ∧ Between later
        ∧ last.toState = .noticeSent := by
  induction between generalizing notice with
  | nil => exact ⟨[], notice, [], rfl, by simp [Between], noticed⟩
  | cons entry rest ih =>
      obtain ⟨unexecuted, idle⟩ := List.forall_mem_cons.mp idle
      by_cases again : entry.toState = .noticeSent
      · obtain ⟨earlier, last, later, split, quiet, sent⟩ := ih again idle
        exact ⟨notice :: earlier, last, later, by rw [split, List.cons_append], quiet, sent⟩
      · obtain ⟨earlier, last, later, split, quiet, sent⟩ := ih noticed idle
        cases earlier with
        | nil =>
            cases split
            exact ⟨[], notice, entry :: rest, rfl,
              List.forall_mem_cons.mpr ⟨⟨again, unexecuted⟩, quiet⟩, noticed⟩
        | cons head tail =>
            cases split
            exact ⟨notice :: entry :: tail, last, later, rfl, quiet, sent⟩

/-- Where notices lead, an execution with a notice of its own was led by one of its own. -/
theorem NoticeSince.led {lead : Timedelta} {before after : List AuditEntry}
    {execution : AuditEntry} (leads : NoticesLead lead (before ++ execution :: after))
    (executed : execution.toState = .retryExecuted)
    (own : NoticeSince (fun _ => True) before)
    : NoticeSince (fun notice => notice.timestamp + lead ≤ execution.timestamp) before := by
  obtain ⟨earlier, notice, between, rfl, idle, noticed, _⟩ := own
  obtain ⟨more, last, later, split, quiet, sent⟩ := exists_last_notice noticed idle
  have trail
      : earlier ++ notice :: between ++ execution :: after
        = (earlier ++ more) ++ last :: (later ++ execution :: after) := by
    simp [split]
  have led := leads _ last _ trail sent later execution after rfl quiet executed
  refine ⟨earlier ++ more, last, later, by simp [split], ?_, sent, led⟩
  exact fun entry member => (quiet entry member).2

/-- Passing the verifier means compliance exactly where every execution has a notice of its
own and the trail itself shows no more executions than the cap, unless the trail already
breaks a rule the verifier does look at. Witness: the passed rules give the lead time of
the notices there are, the spacing and the blackout.
-/
theorem verifier_sound_iff {case : RecoveryCase} {entries : List AuditEntry}
    {config : AppConfig} (listed : config.selfImposed.retrySpacing ≠ [])
    (nonempty : entries ≠ [])
    : (AllPassed case entries config → Compliant entries config)
      ↔ (OwnNotices entries
          ∧ ((executedTimes entries).length : Int) ≤ config.npciRules.maxRetries)
        ∨ ¬ RulesKept case entries config := by
  rw [allPassed_iff (fun _ => listed) nonempty]
  constructor
  · intro sound
    by_cases kept : RulesKept case entries config
    · obtain ⟨noticed, _, _, capped⟩ := sound kept
      refine .inl ⟨fun before execution after split executed => ?_, capped⟩
      obtain ⟨earlier, notice, between, rfl, idle, sent, _⟩
        := noticed before execution after split executed
      exact ⟨earlier, notice, between, rfl, idle, sent, trivial⟩
    · exact .inr kept
  · rintro (⟨own, capped⟩ | broken) kept
    · exact {
        noticed := fun before execution after split executed =>
          (own before execution after split executed).led (split ▸ kept.notices) executed
        spaced := kept.spacing
        quiet := fun entry member executed =>
          kept.peak entry member entry.timestamp (by simp [checkedTimes, executed])
        capped := capped
      }
    · exact absurd kept broken

/-- A case whose counter was never raised. -/
def unannouncedCase : RecoveryCase where
  caseId := "pay_adv"
  mandateId := "mandate_adv"
  instrumentId := "instr_adv"
  originalAmount := 10000
  openedAt := 0
  state := .retryExecuted
  bucket := some .treatment
  caseId_ne := by decide
  mandateId_ne := by decide
  instrumentId_ne := by decide
  originalAmount_pos := by decide

/-- A trail with an execution at 05:30 IST that no notice precedes. -/
def unannouncedTrail : List AuditEntry := [{
  caseId := "pay_adv"
  fromState := .retryScheduled
  toState := .retryExecuted
  ruleFired := "commit_approved"
  ruleVersion := 2
  timestamp := 0
  actor := .agent
}]

theorem verifier_sound_iff_unannounced
    : (AllPassed unannouncedCase unannouncedTrail (shippedConfig .prod)
        → Compliant unannouncedTrail (shippedConfig .prod))
      ↔ (OwnNotices unannouncedTrail
          ∧ ((executedTimes unannouncedTrail).length : Int)
            ≤ (shippedConfig .prod).npciRules.maxRetries)
        ∨ ¬ RulesKept unannouncedCase unannouncedTrail (shippedConfig .prod) :=
  verifier_sound_iff (by decide) (by decide)

/-- The verifier passes a trail whose only execution had no notice at all. -/
theorem verifier_passes_unannounced
    : ¬ ∀ (case : RecoveryCase) (entries : List AuditEntry) (config : AppConfig),
        config.selfImposed.retrySpacing ≠ []
        → entries ≠ []
        → (entries.map (·.timestamp)).Pairwise (· ≤ ·)
        → AllPassed case entries config
        → Compliant entries config := by
  intro sound
  have results
      : (verifyCaseCompliance unannouncedCase unannouncedTrail (shippedConfig .prod)).map
          (·.all (·.passed)) = .ok true := by
    decide +kernel
  have passed : AllPassed unannouncedCase unannouncedTrail (shippedConfig .prod) := by
    unfold AllPassed
    cases verified : verifyCaseCompliance unannouncedCase unannouncedTrail (shippedConfig .prod)
      with
    | error raised => rw [verified] at results; cases results
    | ok answered =>
        rw [verified] at results
        exact ⟨answered, rfl, by simpa [Except.map] using results⟩
  have compliant := sound _ _ _ (by decide) (by decide) (by simp [unannouncedTrail]) passed
  obtain ⟨earlier, notice, between, split, _⟩ := compliant.noticed [] _ [] rfl rfl
  simp at split

end Verifier

end RecoveryAgent
