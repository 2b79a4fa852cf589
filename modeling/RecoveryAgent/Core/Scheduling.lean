import RecoveryAgent.Core.Config
import RecoveryAgent.Lib.Ends
import Mathlib.Data.List.GetD
import Mathlib.Data.List.Pairwise
import Mathlib.Tactic.Linarith

/-! Choosing the slot of a retry: legal candidates, the advisory slot bandit, and the
scheduler of the state machine (`state_machine.py` §9B, `bandit.py`).
-/

namespace RecoveryAgent

-----------------------------------------------------------------------------------------
-- The slot bandit
-----------------------------------------------------------------------------------------

structure SlotStats where
  attempts : Nat := 0
  successes : Nat := 0

/-- Epsilon-greedy statistics over named slots. -/
structure RetrySlotBandit where
  slots : List String
  stats : List (String × SlotStats)

/-- What the random module returns during one suggestion: whether `random.random()` fell
below epsilon, and the index behind `random.choice`.
-/
structure Draw where
  explore : Bool
  choice : Nat

namespace RetrySlotBandit

/-- The bandit with no outcome recorded. -/
def new (slots : List String) : RetrySlotBandit := ⟨slots, slots.map (·, {})⟩

/-- The slot a candidate's statistics are kept under: its UTC hour decides. -/
def candidateToSlot (candidate : Datetime) : String :=
  let hour := candidate % 86400000000 / 3600000000
  if hour < 12 then "immediate" else if hour < 24 then "24h" else "72h"

/-- The success rate of a slot, one half where it is unseen. -/
def rate (bandit : RetrySlotBandit) (slot : String) : Rat :=
  let s := (bandit.stats.lookup slot).getD {}
  if s.attempts > 0 then (s.successes : Rat) / s.attempts else 1 / 2

/-- One step of the greedy loop: a strictly better rate displaces the best so far. -/
def better (bandit : RetrySlotBandit) (best : Datetime × Rat) (candidate : Datetime)
    : Datetime × Rat :=
  let rate := bandit.rate (candidateToSlot candidate)
  if best.2 < rate then (candidate, rate) else best

/-- `suggest_from`: a random member when exploring, else the first of the best rate. -/
def suggestFrom (bandit : RetrySlotBandit) (draw : Draw) (candidates : List Datetime)
    : Except PyError Datetime :=
  match candidates with
  | [] => .error (.valueError "candidates must not be empty")
  | first :: rest =>
      if draw.explore then .ok (candidates.getD (draw.choice % candidates.length) first)
      else .ok ((first :: rest).foldl bandit.better (first, -1)).1

/-- The greedy loop returns its starting candidate or one it has seen. -/
theorem foldl_better_mem (bandit : RetrySlotBandit) (candidates : List Datetime)
    (best : Datetime × Rat)
    : (candidates.foldl bandit.better best).1 ∈ best.1 :: candidates := by
  induction candidates generalizing best with
  | nil => simp
  | cons head tail ih =>
      have later := ih (bandit.better best head)
      have step : (bandit.better best head).1 = head ∨ (bandit.better best head).1 = best.1 := by
        unfold better
        dsimp only
        split <;> simp
      rw [List.foldl_cons]
      rcases List.mem_cons.mp later with same | member
      · rcases step with h | h <;> simp [same, h]
      · simp [member]

/-- A suggestion is one of the candidates it was asked to choose from. -/
theorem suggestFrom_mem {bandit : RetrySlotBandit} {draw : Draw} {candidates : List Datetime}
    {chosen : Datetime} (suggested : bandit.suggestFrom draw candidates = .ok chosen)
    : chosen ∈ candidates := by
  unfold suggestFrom at suggested
  split at suggested
  · cases suggested
  · next first rest =>
      split at suggested
      · cases suggested
        have bound : draw.choice % (first :: rest).length < (first :: rest).length :=
          Nat.mod_lt _ (by simp)
        rw [List.getD_eq_getElem _ _ bound]
        exact List.getElem_mem bound
      · cases suggested
        simpa using bandit.foldl_better_mem (first :: rest) (first, -1)

end RetrySlotBandit

namespace StateMachine

/-- `_avoid_peak_windows`: a time inside a window moves to that window's end. -/
def avoidPeakWindows (scheduledAt : Datetime) (config : AppConfig) : Datetime :=
  match config.npciRules.peakWindows.find? (fun window => window.covers (istTime scheduledAt)) with
  | some window => replaceIstTime scheduledAt window.stop.hour window.stop.minute
  | none => scheduledAt

/-- The push out of a window only ever delays, since the window ends later that day. -/
theorem le_avoidPeakWindows {config : AppConfig} (loaded : config.Loaded) (t : Datetime)
    : t ≤ avoidPeakWindows t config := by
  unfold avoidPeakWindows
  split
  · next window found =>
      have covers : window.covers (istTime t) := by simpa using List.find?_some found
      rw [replaceIstTime_eq t window.stop
        (loaded.wholeMinutes window (List.mem_of_find?_eq_some found))]
      have before : ((istTime t).micros : Int) < window.stop.micros := by
        exact_mod_cast covers.2
      linarith
  · exact le_refl t

/-- A time stays where it is exactly when no window covers it. -/
theorem avoidPeakWindows_eq_iff {config : AppConfig} (loaded : config.Loaded) {t : Datetime}
    : avoidPeakWindows t config = t ↔ ¬ config.npciRules.inPeak t := by
  unfold avoidPeakWindows
  split
  · next window found =>
      have member := List.mem_of_find?_eq_some found
      have covers : window.covers (istTime t) := by simpa using List.find?_some found
      rw [replaceIstTime_eq t window.stop (loaded.wholeMinutes window member)]
      have before : ((istTime t).micros : Int) < window.stop.micros := by
        exact_mod_cast covers.2
      constructor
      · intro same
        simp only [Datetime] at *
        omega
      · exact fun clear => absurd ⟨window, member, covers⟩ clear
  · next clear =>
      simp only [true_iff]
      rintro ⟨window, member, covers⟩
      exact List.find?_eq_none.mp clear window member (by simpa using covers)

/-- The windows neither overlap nor touch. -/
def WindowApart (first second : PeakWindow) : Prop :=
  first.stop.micros < second.start.micros ∨ second.stop.micros < first.start.micros

instance : Std.Symm WindowApart where
  symm _ _ := Or.symm

/-- Any two windows of the configuration are apart. -/
def WindowsApart (config : AppConfig) : Prop :=
  config.npciRules.peakWindows.Pairwise WindowApart

/-- Where the windows are apart, the end of one that covers a time is in none of them. -/
theorem WindowsApart.stop_outside {config : AppConfig} (apart : WindowsApart config)
    {window : PeakWindow} (member : window ∈ config.npciRules.peakWindows) {time : TimeOfDay}
    (covered : window.covers time)
    : ∀ other ∈ config.npciRules.peakWindows, ¬ other.covers window.stop := by
  intro other listed inside
  obtain ⟨begun, unfinished⟩ := covered
  obtain ⟨after, before⟩ := inside
  by_cases same : window = other
  · subst same
    omega
  · rcases List.Pairwise.forall apart member listed same with earlier | later <;> omega

/-- The push out of a window ends outside every window, where they are apart. Witness: it
ends at the window's stop, and only there does another window matter.
-/
theorem avoidPeakWindows_outside {config : AppConfig} (loaded : config.Loaded)
    (apart : WindowsApart config) (t : Datetime)
    : ¬ config.npciRules.inPeak (avoidPeakWindows t config) := by
  unfold avoidPeakWindows
  split
  · next window found =>
      have member := List.mem_of_find?_eq_some found
      have covers : window.covers (istTime t) := by simpa using List.find?_some found
      have landed : (istTime (t - (istTime t).micros + window.stop.micros)).micros
          = window.stop.micros := by
        have within := window.stop.valid
        have left := istTime_micros t
        have reached := istTime_micros (t - (istTime t).micros + window.stop.micros)
        simp only [Datetime, Timedelta, istOffset] at *
        omega
      rw [replaceIstTime_eq t window.stop (loaded.wholeMinutes window member)]
      rintro ⟨other, listed, inside⟩
      apply apart.stop_outside member covers other listed
      simpa only [PeakWindow.covers, landed] using inside
  · next clear =>
      rintro ⟨other, listed, inside⟩
      have spared := List.find?_eq_none.mp clear other listed
      exact spared (by simpa using inside)

/-- `_avoid_peak_windows` with its conversion to IST, which has to be in the calendar too. -/
def pushOut (scheduledAt : Datetime) (config : AppConfig) : Except PyError Datetime := do
  let _ ← plus scheduledAt istOffset
  return avoidPeakWindows scheduledAt config

theorem pushOut_eq_ok {t slot : Datetime} {config : AppConfig}
    : pushOut t config = .ok slot ↔ Reaches t istOffset ∧ slot = avoidPeakWindows t config := by
  unfold pushOut plus
  by_cases reaches : Reaches t istOffset <;>
    simp [reaches, bind, Except.bind, pure, Except.pure, eq_comm]

/-- The loop of `_generate_legal_candidates` over its hour offsets. -/
def candidatesAt (floor latest : Datetime) (config : AppConfig) (clock : Clock)
    : List Int → Except PyError (List Datetime)
  | [] => .ok []
  | offset :: rest => do
      let delay ← clock.resolveDelay (hours offset)
      let candidate ← plus floor delay
      if candidate ≤ latest then
        let moved ← pushOut candidate config
        let others ← candidatesAt floor latest config clock rest
        return if moved ≤ latest then moved :: others else others
      else candidatesAt floor latest config clock rest

/-- `_generate_legal_candidates`: the offsets that fit the window, else the floor. -/
def generateLegalCandidates (floor latest : Datetime) (config : AppConfig) (clock : Clock)
    : Except PyError (List Datetime) := do
  let candidates ← candidatesAt floor latest config clock [0, 12, 24, 48, 72]
  if candidates.isEmpty then return [← pushOut floor config]
  return candidates

/-- The clock never turns a legal delay into a negative one. -/
def Forward (clock : Clock) : Prop :=
  ∀ delay resolved, clock.resolveDelay delay = .ok resolved → 0 ≤ resolved

/-- Every clock of the service moves forward, real or accelerated. -/
theorem forward_view (clock : ServiceClock) : Forward clock.view := by
  intro delay resolved found
  obtain ⟨timeScale, wall, reads, offset⟩ := clock
  cases timeScale with
  | none =>
      simp only [ServiceClock.view, ServiceClock.resolveDelay, RealClock.resolveDelay] at found
      split at found <;> cases found
      next legal => exact not_lt.mp legal
  | some scale =>
      simp only [ServiceClock.view, ServiceClock.resolveDelay,
        AcceleratedClock.resolveDelay] at found
      split at found <;> cases found
      next legal =>
      have quotient : 0 ≤ delay / (scale : Int) :=
        Int.ediv_nonneg (not_lt.mp legal) (Int.natCast_nonneg scale)
      have above : 0 ≤ delay / (scale : Int) + 1 := by linarith
      unfold divideAndRound
      dsimp only
      split
      · exact quotient
      split
      · split
        · exact quotient
        · exact above
      · exact above

/-- The clock passes durations through unchanged. -/
def Identity (clock : Clock) : Prop :=
  ∀ delay resolved, clock.resolveDelay delay = .ok resolved → resolved = delay

/-- No delay of the offset loop is resolved to a negative one. -/
def ForwardAt (clock : Clock) (offsets : List Int) : Prop :=
  ∀ offset ∈ offsets, ∀ resolved, clock.resolveDelay (hours offset) = .ok resolved → 0 ≤ resolved

theorem Forward.at {clock : Clock} (forward : Forward clock) (offsets : List Int)
    : ForwardAt clock offsets :=
  fun _ _ resolved found => forward _ resolved found

theorem Identity.at {clock : Clock} (identity : Identity clock)
    : ForwardAt clock [0, 12, 24, 48, 72] := by
  intro offset member resolved found
  rw [identity _ _ found]
  simp only [List.mem_cons, List.not_mem_nil, or_false] at member
  rcases member with rfl | rfl | rfl | rfl | rfl <;> decide

/-- A time pushed out of the windows, from one that is not before the floor. -/
def Moved (config : AppConfig) (floor slot : Datetime) : Prop :=
  ∃ t, slot = avoidPeakWindows t config ∧ floor ≤ t

theorem Moved.floor {config : AppConfig} (loaded : config.Loaded) {floor slot : Datetime}
    (moved : Moved config floor slot)
    : floor ≤ slot := by
  obtain ⟨t, rfl, above⟩ := moved
  exact le_trans above (le_avoidPeakWindows loaded t)

/-- A slot that the offset loop keeps: a delay of it that fits, pushed out of the windows. -/
structure KeptSlot (config : AppConfig) (clock : Clock) (floor latest : Datetime)
    (offsets : List Int) (slot : Datetime) (delay : Timedelta)
    : Prop where
  resolved : ∃ offset ∈ offsets, clock.resolveDelay (hours offset) = .ok delay
  within : floor + delay ≤ latest
  pushed : slot = avoidPeakWindows (floor + delay) config

/-- The clock resolves an offset to the delay, whose instant is in the calendar; in IST too, if it
is within the schedule.
-/
structure OffsetReached (clock : Clock) (floor latest : Datetime) (offset : Int)
    (delay : Timedelta)
    : Prop where
  resolved : clock.resolveDelay (hours offset) = .ok delay
  candidate : Reaches floor delay
  converted : floor + delay ≤ latest → Reaches (floor + delay) istOffset

/-- The offset loop goes on with what it keeps of its first offset. -/
theorem candidatesAt_cons_iff {config : AppConfig} {clock : Clock} {floor latest : Datetime}
    {offset : Int} {rest : List Int} {slots : List Datetime}
    : candidatesAt floor latest config clock (offset :: rest) = .ok slots
      ↔ ∃ delay others,
          OffsetReached clock floor latest offset delay
          ∧ candidatesAt floor latest config clock rest = .ok others
          ∧ slots
            = if floor + delay ≤ latest ∧ avoidPeakWindows (floor + delay) config ≤ latest then
                avoidPeakWindows (floor + delay) config :: others
              else others := by
  constructor
  · intro generated
    simp only [candidatesAt, bind, Except.bind, pure, Except.pure] at generated
    split at generated
    · cases generated
    next delay resolved =>
    split at generated
    · cases generated
    next candidate summed =>
    obtain ⟨reached, rfl⟩ := plus_eq_ok.mp summed
    split at generated
    · next fits =>
        split at generated
        · cases generated
        next moved pushed =>
        obtain ⟨converted, rfl⟩ := pushOut_eq_ok.mp pushed
        split at generated
        · cases generated
        next others tail =>
        cases generated
        exact ⟨delay, others, ⟨resolved, reached, fun _ => converted⟩, tail, by simp [fits]⟩
    · next passed =>
        exact ⟨delay, slots, ⟨resolved, reached, fun fits => absurd fits passed⟩, generated,
          by simp [passed]⟩
  · rintro ⟨delay, others, ⟨resolved, reached, converted⟩, tail, rfl⟩
    simp only [candidatesAt, resolved, plus_ok reached, tail, bind, Except.bind, pure, Except.pure]
    split
    · next fits => simp [pushOut_eq_ok.mpr ⟨converted fits, rfl⟩, fits]
    · next passed => simp [passed]

/-- The offset loop answers exactly where every offset is reached, by induction over the offsets.
-/
theorem candidatesAt_ok_iff {config : AppConfig} {clock : Clock} {floor latest : Datetime}
    {offsets : List Int}
    : (∃ slots, candidatesAt floor latest config clock offsets = .ok slots)
      ↔ ∀ offset ∈ offsets, ∃ delay, OffsetReached clock floor latest offset delay := by
  induction offsets with
  | nil => simp [candidatesAt]
  | cons offset rest ih =>
      simp only [candidatesAt_cons_iff, List.forall_mem_cons, ← ih]
      constructor
      · rintro ⟨_, delay, others, reached, tail, _⟩
        exact ⟨⟨delay, reached⟩, others, tail⟩
      · rintro ⟨⟨delay, reached⟩, others, tail⟩
        exact ⟨_, delay, others, reached, tail, rfl⟩

/-- Every slot of the offset loop is one of its delays, by induction over the offsets. -/
theorem candidatesAt_kept {config : AppConfig} {clock : Clock} {floor latest : Datetime}
    {offsets : List Int} {slots : List Datetime}
    (generated : candidatesAt floor latest config clock offsets = .ok slots)
    : ∀ slot ∈ slots, ∃ delay, KeptSlot config clock floor latest offsets slot delay := by
  induction offsets generalizing slots with
  | nil =>
      cases generated
      simp
  | cons offset rest ih =>
      obtain ⟨delay, others, ⟨resolved, _, _⟩, tail, rfl⟩ := candidatesAt_cons_iff.mp generated
      have later (slot : Datetime) (member : slot ∈ others)
          : ∃ delay, KeptSlot config clock floor latest (offset :: rest) slot delay := by
        obtain ⟨delay, ⟨offset, listed, resolved⟩, within, pushed⟩ := ih tail slot member
        exact ⟨delay, ⟨offset, List.mem_cons_of_mem _ listed, resolved⟩, within, pushed⟩
      intro slot member
      split at member
      · next fits =>
          rcases List.mem_cons.mp member with rfl | member
          · exact ⟨delay, ⟨offset, List.mem_cons_self, resolved⟩, fits.1, rfl⟩
          · exact later slot member
      · exact later slot member

/-- There is always a candidate, the floor if no other. -/
theorem generateLegalCandidates_filled {config : AppConfig} {clock : Clock}
    {floor latest : Datetime} {slots : List Datetime}
    (generated : generateLegalCandidates floor latest config clock = .ok slots)
    : slots ≠ [] := by
  simp only [generateLegalCandidates, bind, Except.bind, pure, Except.pure] at generated
  split at generated
  · cases generated
  split at generated
  · split at generated <;> cases generated
    simp
  · next filled =>
      cases generated
      simpa using filled

/-- Where there are candidates, every offset was reached. -/
theorem generateLegalCandidates_reached {config : AppConfig} {clock : Clock}
    {floor latest : Datetime} {slots : List Datetime}
    (generated : generateLegalCandidates floor latest config clock = .ok slots)
    : ∀ offset ∈ [0, 12, 24, 48, 72], ∃ delay, OffsetReached clock floor latest offset delay := by
  rw [← @candidatesAt_ok_iff config]
  simp only [generateLegalCandidates, bind, Except.bind] at generated
  split at generated
  · cases generated
  · next found => exact ⟨_, found⟩

/-- A legal candidate was kept by the offset loop, or it is the floor, pushed. -/
theorem generateLegalCandidates_kept {config : AppConfig} {clock : Clock}
    {floor latest : Datetime} {slots : List Datetime}
    (generated : generateLegalCandidates floor latest config clock = .ok slots)
    : ∀ slot ∈ slots,
        slot = avoidPeakWindows floor config
        ∨ ∃ delay, KeptSlot config clock floor latest [0, 12, 24, 48, 72] slot delay := by
  simp only [generateLegalCandidates, bind, Except.bind, pure, Except.pure] at generated
  split at generated
  · cases generated
  next found =>
  split at generated
  · split at generated
    · cases generated
    next moved pushed =>
    obtain ⟨_, rfl⟩ := pushOut_eq_ok.mp pushed
    cases generated
    exact fun slot member => .inl (List.mem_singleton.mp member)
  · cases generated
    exact fun slot member => .inr (candidatesAt_kept found slot member)

/-- Every legal candidate was moved from the floor on. -/
theorem generateLegalCandidates_moved {config : AppConfig} {clock : Clock}
    {floor latest : Datetime} {slots : List Datetime}
    (forward : ForwardAt clock [0, 12, 24, 48, 72])
    (generated : generateLegalCandidates floor latest config clock = .ok slots)
    : ∀ slot ∈ slots, Moved config floor slot := by
  intro slot member
  rcases generateLegalCandidates_kept generated slot member with rfl | ⟨delay, kept⟩
  · exact ⟨floor, rfl, le_rfl⟩
  · obtain ⟨⟨offset, listed, resolved⟩, _, pushed⟩ := kept
    have delayed := forward offset listed delay resolved
    exact ⟨floor + delay, pushed, by linarith⟩

-----------------------------------------------------------------------------------------
-- The scheduler
-----------------------------------------------------------------------------------------

/-- `RULE_VERSION`. -/
def ruleVersion : Nat := 2

/-- `_first_salary_window_day`: the first of the daily instants from `cursor` on, at most
`count` of them and none after `stop`, whose UTC day of month is 1 to 7.
-/
def firstSalaryWindowDayFrom (stop : Datetime)
    : Nat → Datetime → Except PyError (Option Datetime)
  | 0, _ => .ok none
  | count + 1, cursor =>
      if stop < cursor then .ok none
      else
        let day := (civilDate (cursor / 86400000000)).2.2
        if 1 ≤ day ∧ day ≤ 7 then .ok (some cursor)
        else do
          let next ← plus cursor (days 1)
          firstSalaryWindowDayFrom stop count next

/-- `_first_salary_window_day` over the closed interval, one instant a day. -/
def firstSalaryWindowDay (start stop : Datetime) : Except PyError (Option Datetime) :=
  firstSalaryWindowDayFrom stop (((stop - start) / days 1).toNat + 1) start

/-- `str(t.date())`. -/
def dateText (t : Datetime) : String :=
  let date := civilDate (t / 86400000000)
  padded 4 date.1.toNat ++ "-" ++ padded 2 date.2.1 ++ "-" ++ padded 2 date.2.2

/-- The earliest instant of a retry: after the notice lead time and after the spacing
from the previous execution, or from now where no previous execution is given.
-/
def floorAt (now : Datetime) (lead spacing : Timedelta) (previous : Option Datetime)
    : Datetime :=
  max (now + lead) (previous.getD now + spacing)

/-- A suggestion method, such as a bandit's `suggest_from` with its random draw made. -/
abbrev Suggest := List Datetime → Except PyError Datetime

/-- `_compute_scheduled_at`: the chosen instant and its reasoning. The clock's first
reading here is `clock.now 0`.
-/
def computeScheduledAt (retriesUsed : Nat) (reasonCode : Option String) (config : AppConfig)
    (clock : Clock) (previousExecutedAt : Option Datetime) (bandit : Option Suggest)
    : Except PyError (Datetime × String) := do
  let some spacing := config.selfImposed.spacing? retriesUsed | .error .indexError
  let now := clock.now 0
  let byNotice ← plus now config.npciRules.noticeLeadTime
  let bySpacing ← plus (previousExecutedAt.getD now) spacing
  let floor := max byNotice bySpacing
  let note := if bySpacing ≤ byNotice then "notice lead" else "NPCI spacing floor"
  let latest ← plus floor config.selfImposed.maxScheduleWindow
  let candidates ← generateLegalCandidates floor latest config clock
  let attempt := "Retry attempt " ++ toString (retriesUsed + 1)
  let version := " (config v" ++ toString ruleVersion ++ ")."
  if let some suggest := bandit then
    let selected ← suggest candidates
    if selected ∉ candidates then
      throw (.assertionError "Bandit selected an illegal slot")
    return (selected, attempt ++ ": bandit selected " ++ isoformat selected
      ++ " among legal slots (floor=" ++ isoformat floor ++ ", latest=" ++ isoformat latest
      ++ "). Constraint: " ++ note ++ version)
  if reasonCode = some "insufficient_funds" then
    if let some salaryDay ← firstSalaryWindowDay floor latest then
      let delay ← clock.resolveDelay (salaryDay - now)
      let scheduled ← pushOut (← plus now delay) config
      return (scheduled,
        attempt ++ ": insufficient_funds bias applied — targeting " ++ dateText salaryDay
        ++ " (day-1–7 salary window), no earlier than the " ++ note ++ " floor" ++ version
        ++ " Peak-hour blackout applied.")
  let delay ← clock.resolveDelay (floor - now)
  let target ← plus now delay
  let scheduled ← pushOut target config
  return (scheduled, attempt ++ ": scheduled at the " ++ note ++ " floor" ++ version
    ++ (if scheduled ≠ target then " Peak-hour blackout applied." else ""))

/-- The instant the scheduler aims at without a bandit: the first salary day within the window
where the decline was for insufficient funds, else the floor.
-/
def fallbackTarget (reasonCode : Option String) (floor latest : Datetime)
    : Except PyError Datetime :=
  if reasonCode = some "insufficient_funds" then
    (firstSalaryWindowDay floor latest).map (·.getD floor)
  else .ok floor

/-- How the slot is chosen between the floor and the latest instant. -/
inductive Chosen (config : AppConfig) (clock : Clock) (reasonCode : Option String)
    (floor latest : Datetime) (slot : Datetime)
    : Option Suggest → Prop where
  | suggested {suggest : Suggest} {candidates : List Datetime}
      (generated : generateLegalCandidates floor latest config clock = .ok candidates)
      (asked : suggest candidates = .ok slot) (legal : slot ∈ candidates)
    : Chosen config clock reasonCode floor latest slot (some suggest)
  | fallback {candidates : List Datetime} {target : Datetime} {delay : Timedelta}
      (generated : generateLegalCandidates floor latest config clock = .ok candidates)
      (aimed : fallbackTarget reasonCode floor latest = .ok target)
      (resolved : clock.resolveDelay (target - clock.now 0) = .ok delay)
      (reached : Reaches (clock.now 0) delay ∧ Reaches (clock.now 0 + delay) istOffset)
      (moved : slot = avoidPeakWindows (clock.now 0 + delay) config)
    : Chosen config clock reasonCode floor latest slot none

/-- A slot is chosen only where every offset was reached. -/
theorem Chosen.reached {config : AppConfig} {clock : Clock} {reasonCode : Option String}
    {floor latest slot : Datetime} {bandit : Option Suggest}
    (chosen : Chosen config clock reasonCode floor latest slot bandit)
    : ∀ offset ∈ [0, 12, 24, 48, 72], ∃ delay, OffsetReached clock floor latest offset delay := by
  cases chosen with
  | suggested generated => exact generateLegalCandidates_reached generated
  | fallback generated => exact generateLegalCandidates_reached generated

/-- The bounds of the schedule are in the calendar. -/
structure BoundsReached (config : AppConfig) (now : Datetime) (spacing : Timedelta)
    (previous : Option Datetime)
    : Prop where
  notice : Reaches now config.npciRules.noticeLeadTime
  spaced : Reaches (previous.getD now) spacing
  latest
    : Reaches (floorAt now config.npciRules.noticeLeadTime spacing previous)
        config.selfImposed.maxScheduleWindow

/-- The last steps of the scheduler answer with the instant after the resolved delay, pushed out
of the windows, where both are in the calendar.
-/
theorem aimed_iff {config : AppConfig} {clock : Clock} {now target slot : Datetime}
    {reason : Datetime → Datetime → String}
    : (∃ reasoning,
        (clock.resolveDelay (target - now) >>= fun delay =>
            plus now delay >>= fun aimed =>
              pushOut aimed config >>= fun scheduled =>
                pure (scheduled, reason aimed scheduled))
          = .ok (slot, reasoning))
      ↔ ∃ delay,
          clock.resolveDelay (target - now) = .ok delay
          ∧ (Reaches now delay ∧ Reaches (now + delay) istOffset)
          ∧ slot = avoidPeakWindows (now + delay) config := by
  unfold pushOut plus
  cases resolved : clock.resolveDelay (target - now) with
  | error raised => simp [bind, Except.bind]
  | ok delay =>
      by_cases reaches : Reaches now delay <;>
        by_cases reaches' : Reaches (now + delay) istOffset <;>
        simp [reaches, reaches', bind, Except.bind, pure, Except.pure, eq_comm]

/-- The scheduler answers with exactly the slots that can be so chosen, and gives a reason. -/
theorem computeScheduledAt_iff {config : AppConfig} {clock : Clock} {retriesUsed : Nat}
    {reasonCode : Option String} {previous : Option Datetime} {bandit : Option Suggest}
    {slot : Datetime}
    : (∃ reasoning,
        computeScheduledAt retriesUsed reasonCode config clock previous bandit
          = .ok (slot, reasoning))
      ↔ ∃ spacing floor,
          config.selfImposed.spacing? retriesUsed = some spacing
          ∧ floor = floorAt (clock.now 0) config.npciRules.noticeLeadTime spacing previous
          ∧ BoundsReached config (clock.now 0) spacing previous
          ∧ Chosen config clock reasonCode floor (floor + config.selfImposed.maxScheduleWindow)
              slot bandit := by
  unfold computeScheduledAt
  cases entry : config.selfImposed.spacing? retriesUsed with
  | none => simp
  | some spacing =>
      simp only [Option.some.injEq, exists_and_left, exists_eq_left, exists_eq_left']
      by_cases bounds : BoundsReached config (clock.now 0) spacing previous
      swap
      · refine iff_of_false ?_ fun chosen => bounds chosen.1
        rintro ⟨reasoning, answered⟩
        simp only [bind, Except.bind] at answered
        split at answered
        · cases answered
        next byNotice summed =>
        split at answered
        · cases answered
        next bySpacing summed' =>
        split at answered
        · cases answered
        next latest reached =>
        obtain ⟨notice, rfl⟩ := plus_eq_ok.mp summed
        obtain ⟨spaced, rfl⟩ := plus_eq_ok.mp summed'
        exact bounds ⟨notice, spaced, (plus_eq_ok.mp reached).1⟩
      have latest := plus_ok bounds.latest
      unfold floorAt at latest ⊢
      simp only [bounds, true_and, plus_ok bounds.notice, plus_ok bounds.spaced, latest, bind,
        Except.bind]
      generalize max (clock.now 0 + config.npciRules.noticeLeadTime)
        (previous.getD (clock.now 0) + spacing) = floor
      generalize floor + config.selfImposed.maxScheduleWindow = latest
      cases generated : generateLegalCandidates floor latest config clock with
      | error raised =>
          refine ⟨fun ⟨_, answered⟩ => (by cases answered), fun chosen => ?_⟩
          cases chosen with
          | suggested other => rw [generated] at other; cases other
          | fallback other => rw [generated] at other; cases other
      | ok candidates =>
          dsimp only
          cases bandit with
          | some suggest =>
              constructor
              · rintro ⟨reasoning, answered⟩
                dsimp only at answered
                split at answered
                · cases answered
                next selected asked =>
                split at answered
                · cases answered
                next legal =>
                cases answered
                exact .suggested generated asked (not_not.mp legal)
              · rintro (⟨other, asked, legal⟩ | _)
                cases generated.symm.trans other
                simp only [asked, legal, not_true_eq_false, if_false]
                exact ⟨_, rfl⟩
          | none =>
              have chosen_iff
                  : Chosen config clock reasonCode floor latest slot none
                    ↔ ∃ target,
                        fallbackTarget reasonCode floor latest = .ok target
                        ∧ ∃ delay,
                            clock.resolveDelay (target - clock.now 0) = .ok delay
                            ∧ (Reaches (clock.now 0) delay
                              ∧ Reaches (clock.now 0 + delay) istOffset)
                            ∧ slot = avoidPeakWindows (clock.now 0 + delay) config := by
                constructor
                · intro chosen
                  cases chosen with
                  | fallback _ aimed resolved reached moved =>
                      exact ⟨_, aimed, _, resolved, reached, moved⟩
                · rintro ⟨target, aimed, delay, resolved, reached, moved⟩
                  exact .fallback generated aimed resolved reached moved
              rw [chosen_iff]
              dsimp only
              unfold fallbackTarget
              split
              · cases salary : firstSalaryWindowDay floor latest with
                | error raised => simp [Except.map]
                | ok found =>
                    cases found with
                    | some day =>
                        refine aimed_iff.trans ?_
                        simp [Except.map]
                    | none =>
                        refine aimed_iff.trans ?_
                        simp [Except.map]
              · refine aimed_iff.trans ?_
                simp

/-- The scheduler never answers without a reason. -/
theorem computeScheduledAt_reasoned {config : AppConfig} {clock : Clock} {retriesUsed : Nat}
    {reasonCode : Option String} {previous : Option Datetime} {bandit : Option Suggest}
    {scheduled : Datetime} {reasoning : String}
    (computed
      : computeScheduledAt retriesUsed reasonCode config clock previous bandit
        = .ok (scheduled, reasoning))
    : reasoning ≠ "" := by
  simp only [computeScheduledAt, bind, Except.bind, pure, Except.pure] at computed
  repeat' split at computed
  all_goals cases computed
  all_goals simp

/-- With a bandit, the slot lies at or after the notice and the spacing floor of the
configuration entry in force. Witness: the assertion keeps the slot among the candidates,
and no candidate precedes the floor.
-/
theorem computeScheduledAt_floor {config : AppConfig} (loaded : config.Loaded)
    {clock : Clock} (forward : Forward clock) {retriesUsed : Nat}
    {reasonCode : Option String} {previous : Option Datetime} {suggest : Suggest}
    {scheduled : Datetime} {reasoning : String}
    (computed
      : computeScheduledAt retriesUsed reasonCode config clock previous (some suggest)
        = .ok (scheduled, reasoning))
    : ∃ spacing,
        config.selfImposed.spacing? retriesUsed = some spacing
        ∧ clock.now 0 + config.npciRules.noticeLeadTime ≤ scheduled
        ∧ previous.getD (clock.now 0) + spacing ≤ scheduled := by
  obtain ⟨spacing, floor, entry, rfl, _, chosen⟩ := computeScheduledAt_iff.mp ⟨_, computed⟩
  cases chosen with
  | suggested generated asked legal =>
      have moved := generateLegalCandidates_moved (forward.at _) generated scheduled legal
      have above := moved.floor loaded
      exact ⟨spacing, entry, le_trans (le_max_left _ _) above, le_trans (le_max_right _ _) above⟩

/-- The salary day lies between the instant the search starts from and its last one, by
induction over the days left.
-/
theorem firstSalaryWindowDayFrom_bounds {stop cursor day : Datetime} {count : Nat}
    (found : firstSalaryWindowDayFrom stop count cursor = .ok (some day))
    : cursor ≤ day ∧ day ≤ stop := by
  induction count generalizing cursor with
  | zero => cases found
  | succ count ih =>
      rw [firstSalaryWindowDayFrom] at found
      split at found
      · cases found
      next within =>
      dsimp only at found
      split at found
      · cases found
        exact ⟨le_rfl, not_lt.mp within⟩
      · simp only [bind, Except.bind] at found
        split at found
        · cases found
        next next_ summed =>
        obtain ⟨_, rfl⟩ := plus_eq_ok.mp summed
        obtain ⟨later, bounded⟩ := ih found
        refine ⟨?_, bounded⟩
        simp only [days, Datetime, Timedelta] at *
        omega

/-- The scheduler never aims before the floor, nor past the latest instant. -/
theorem fallbackTarget_bounds {reasonCode : Option String} {floor latest target : Datetime}
    (ordered : floor ≤ latest) (aimed : fallbackTarget reasonCode floor latest = .ok target)
    : floor ≤ target ∧ target ≤ latest := by
  unfold fallbackTarget at aimed
  split at aimed
  · cases salary : firstSalaryWindowDay floor latest with
    | error raised => rw [salary] at aimed; cases aimed
    | ok found =>
        rw [salary] at aimed
        cases aimed
        cases found with
        | none => exact ⟨le_rfl, ordered⟩
        | some day => exact firstSalaryWindowDayFrom_bounds salary
  · cases aimed
    exact ⟨le_rfl, ordered⟩

/-- On a clock that passes durations through, every slot was moved from the floor on, by
whichever way it was chosen.
-/
theorem computeScheduledAt_moved {config : AppConfig} (loaded : config.Loaded) {clock : Clock}
    (identity : Identity clock) {retriesUsed : Nat} {reasonCode : Option String}
    {previous : Option Datetime} {bandit : Option Suggest} {scheduled : Datetime}
    {reasoning : String}
    (computed
      : computeScheduledAt retriesUsed reasonCode config clock previous bandit
        = .ok (scheduled, reasoning))
    : ∃ spacing,
        config.selfImposed.spacing? retriesUsed = some spacing
        ∧ Moved config (floorAt (clock.now 0) config.npciRules.noticeLeadTime spacing previous)
            scheduled := by
  obtain ⟨spacing, floor, entry, floored, _, chosen⟩ := computeScheduledAt_iff.mp ⟨_, computed⟩
  refine ⟨spacing, entry, ?_⟩
  rw [← floored]
  cases chosen with
  | suggested generated asked legal =>
      exact generateLegalCandidates_moved identity.at generated scheduled legal
  | fallback generated aimed resolved reached moved =>
      refine ⟨_, moved, ?_⟩
      have ordered : floor ≤ floor + config.selfImposed.maxScheduleWindow :=
        le_add_of_nonneg_right loaded.scheduleWindow
      have above := (fallbackTarget_bounds ordered aimed).1
      rw [identity _ _ resolved]
      linarith

-----------------------------------------------------------------------------------------
-- Where the scheduler answers
-----------------------------------------------------------------------------------------

/-- The clock resolves every legal delay, to one that is legal and no longer, as both clocks of
the service do.
-/
def Resolves (clock : Clock) : Prop :=
  ∀ delay,
    0 ≤ delay
    → ∃ resolved, clock.resolveDelay delay = .ok resolved ∧ 0 ≤ resolved ∧ resolved ≤ delay

/-- A bandit that picks one of the candidates it is handed. -/
def Picks (suggest : Suggest) : Prop :=
  ∀ candidates, candidates ≠ [] → ∃ chosen ∈ candidates, suggest candidates = .ok chosen

/-- The schedule from the floor is in the calendar: the schedule window and the longest offset,
and what is left of the last day for the time in IST and for the search of a salary day.
-/
def InCalendar (config : AppConfig) (floor : Datetime) : Prop :=
  floor + max config.selfImposed.maxScheduleWindow (hours 72) + days 1 ≤ lastInstant

instance (config : AppConfig) (floor : Datetime) : Decidable (InCalendar config floor) :=
  inferInstanceAs (Decidable (_ ≤ _))

theorem InCalendar.latest {config : AppConfig} {floor : Datetime}
    (calendar : InCalendar config floor)
    : floor + config.selfImposed.maxScheduleWindow + days 1 ≤ lastInstant := by
  have window := le_max_left config.selfImposed.maxScheduleWindow (hours 72)
  unfold InCalendar at calendar
  linarith

theorem InCalendar.offsets {config : AppConfig} {floor : Datetime}
    (calendar : InCalendar config floor)
    : floor + hours 72 + istOffset ≤ lastInstant := by
  have longest := le_max_right config.selfImposed.maxScheduleWindow (hours 72)
  have spare : istOffset ≤ days 1 := by decide
  unfold InCalendar at calendar
  linarith

/-- Every offset is reached where the clock resolves it and three days from the floor are in the
calendar.
-/
theorem offsetReached_of_le {clock : Clock} (resolves : Resolves clock) {floor : Datetime}
    (latest : Datetime) (within : floor + hours 72 + istOffset ≤ lastInstant) {offset : Int}
    (legal : 0 ≤ offset ∧ offset ≤ 72)
    : ∃ delay, OffsetReached clock floor latest offset delay := by
  have short : 0 ≤ hours offset ∧ hours offset ≤ hours 72 := by
    simp only [hours, Timedelta]
    omega
  obtain ⟨delay, resolved, forward, shorter⟩ := resolves _ short.1
  have ahead : 0 ≤ istOffset := by decide
  exact ⟨delay, {
    resolved := resolved
    candidate := (reaches_iff forward).mpr (by linarith)
    converted := fun _ => (reaches_iff ahead).mpr (by linarith)
  }⟩

/-- There are candidates of a floor exactly where every offset is reached. -/
theorem generateLegalCandidates_ok_iff {config : AppConfig} {clock : Clock}
    (resolves : Resolves clock) {floor latest : Datetime} (ordered : floor ≤ latest)
    : (∃ slots, generateLegalCandidates floor latest config clock = .ok slots)
      ↔ ∀ offset ∈ [0, 12, 24, 48, 72],
          ∃ delay, OffsetReached clock floor latest offset delay := by
  refine ⟨fun ⟨_, generated⟩ => generateLegalCandidates_reached generated, fun reached => ?_⟩
  obtain ⟨slots, found⟩ := (@candidatesAt_ok_iff config clock floor latest _).mpr reached
  have pushed : pushOut floor config = .ok (avoidPeakWindows floor config) := by
    obtain ⟨delay, start⟩ := reached 0 (by decide)
    obtain ⟨wait, resolved, forward, short⟩ := resolves (hours 0) (by decide)
    cases resolved.symm.trans start.resolved
    have still : delay = 0 := le_antisymm short forward
    subst still
    have converted := start.converted (by rwa [add_zero])
    rw [add_zero] at converted
    exact pushOut_eq_ok.mpr ⟨converted, rfl⟩
  simp only [generateLegalCandidates, found, pushed, bind, Except.bind, pure, Except.pure]
  split <;> exact ⟨_, rfl⟩

/-- The search for a salary day ends in the calendar where the day after its last instant is in
it, by induction over the days left.
-/
theorem firstSalaryWindowDayFrom_total {stop : Datetime} (within : stop + days 1 ≤ lastInstant)
    (count : Nat) (cursor : Datetime)
    : ∃ found, firstSalaryWindowDayFrom stop count cursor = .ok found := by
  induction count generalizing cursor with
  | zero => exact ⟨none, rfl⟩
  | succ count ih =>
      rw [firstSalaryWindowDayFrom]
      split
      · exact ⟨none, rfl⟩
      next reached =>
      dsimp only
      split
      · exact ⟨some cursor, rfl⟩
      · have before := not_lt.mp reached
        rw [plus_ok ((reaches_iff (by decide)).mpr (by linarith))]
        exact ih (cursor + days 1)

theorem fallbackTarget_total (reasonCode : Option String) (floor : Datetime) {latest : Datetime}
    (within : latest + days 1 ≤ lastInstant)
    : ∃ target, fallbackTarget reasonCode floor latest = .ok target := by
  unfold fallbackTarget
  split
  · obtain ⟨found, searched⟩ := firstSalaryWindowDayFrom_total within _ floor
    exact ⟨found.getD floor, by rw [firstSalaryWindowDay, searched]; rfl⟩
  · exact ⟨floor, rfl⟩

/-- The scheduler answers where there is a spacing entry, the clock resolves legal delays, a
bandit picks a candidate and the schedule is in the calendar; it always gives a reason.
-/
theorem computeScheduledAt_total {config : AppConfig} (loaded : config.Loaded) {clock : Clock}
    (resolves : Resolves clock) {retriesUsed : Nat} {spacing : Timedelta}
    (entry : config.selfImposed.spacing? retriesUsed = some spacing)
    (reasonCode : Option String) {previous : Option Datetime} {bandit : Option Suggest}
    (picks : ∀ suggest, bandit = some suggest → Picks suggest)
    (calendar
      : InCalendar config
          (floorAt (clock.now 0) config.npciRules.noticeLeadTime spacing previous))
    : ∃ scheduled reasoning,
        computeScheduledAt retriesUsed reasonCode config clock previous bandit
          = .ok (scheduled, reasoning)
        ∧ reasoning ≠ "" := by
  generalize floored
    : floorAt (clock.now 0) config.npciRules.noticeLeadTime spacing previous = floor at calendar
  have lead := loaded.leadTime
  have window := loaded.scheduleWindow
  have gap : 0 ≤ spacing := loaded.spacing spacing (List.mem_of_getElem? entry)
  have latest := calendar.latest
  have day : istOffset ≤ days 1 ∧ 0 ≤ istOffset := by decide
  have byNotice : clock.now 0 + config.npciRules.noticeLeadTime ≤ floor :=
    floored ▸ le_max_left _ _
  have bySpacing : previous.getD (clock.now 0) + spacing ≤ floor := floored ▸ le_max_right _ _
  have bounds : BoundsReached config (clock.now 0) spacing previous := {
    notice := (reaches_iff lead).mpr (by linarith)
    spaced := (reaches_iff gap).mpr (by linarith)
    latest := (reaches_iff window).mpr (by rw [floored]; linarith)
  }
  have legal : ∀ offset ∈ [(0 : Int), 12, 24, 48, 72], 0 ≤ offset ∧ offset ≤ 72 := by decide
  obtain ⟨candidates, generated⟩ :=
    (generateLegalCandidates_ok_iff resolves (le_add_of_nonneg_right window)).mpr
      fun offset member => offsetReached_of_le resolves _ calendar.offsets (legal offset member)
  suffices chosen : ∃ slot, Chosen config clock reasonCode floor
      (floor + config.selfImposed.maxScheduleWindow) slot bandit by
    obtain ⟨slot, chosen⟩ := chosen
    obtain ⟨reasoning, computed⟩
      := computeScheduledAt_iff.mpr ⟨spacing, floor, entry, floored.symm, bounds, chosen⟩
    exact ⟨slot, reasoning, computed, computeScheduledAt_reasoned computed⟩
  cases bandit with
  | some suggest =>
      obtain ⟨chosen, member, suggested⟩ := picks suggest rfl candidates
        (generateLegalCandidates_filled generated)
      exact ⟨chosen, .suggested generated suggested member⟩
  | none =>
      obtain ⟨target, aimed⟩ := fallbackTarget_total reasonCode floor latest
      obtain ⟨above, below⟩ := fallbackTarget_bounds (le_add_of_nonneg_right window) aimed
      obtain ⟨delay, resolved, forward, shorter⟩ := resolves (target - clock.now 0) (by linarith)
      refine ⟨_, .fallback generated aimed resolved ⟨?_, ?_⟩ rfl⟩
      · exact (reaches_iff forward).mpr (by linarith)
      · exact (reaches_iff day.2).mpr (by linarith)

section Raises

variable {raised : PyError → Prop} (overflow : raised .overflowError) {config : AppConfig}
  {clock : Clock}

include overflow

theorem plus_raises (t : Datetime) (delta : Timedelta) : (plus t delta).RaisesOnly raised := by
  unfold plus
  split
  · exact trivial
  · exact overflow

theorem pushOut_raises (t : Datetime) : (pushOut t config).RaisesOnly raised :=
  Except.raisesOnly_bind.mpr ⟨plus_raises overflow t istOffset, fun _ _ => trivial⟩

/-- The offset loop raises what the clock raises, or leaves the calendar, by induction over the
offsets.
-/
theorem candidatesAt_raises
    (quiet : ∀ delay, 0 ≤ delay → (clock.resolveDelay delay).RaisesOnly raised)
    {floor latest : Datetime} {offsets : List Int} (legal : ∀ offset ∈ offsets, 0 ≤ offset)
    : (candidatesAt floor latest config clock offsets).RaisesOnly raised := by
  induction offsets with
  | nil => exact trivial
  | cons offset rest ih =>
      have tail := ih fun offset member => legal offset (by simp [member])
      have positive : 0 ≤ hours offset := by
        have here := legal offset (by simp)
        simp only [hours, Timedelta]
        omega
      refine Except.raisesOnly_bind.mpr ⟨quiet _ positive, fun delay _ => ?_⟩
      refine Except.raisesOnly_bind.mpr ⟨plus_raises overflow _ _, fun candidate _ => ?_⟩
      split
      · exact Except.raisesOnly_bind.mpr ⟨pushOut_raises overflow _, fun moved _ =>
          Except.raisesOnly_bind.mpr ⟨tail, fun _ _ => trivial⟩⟩
      · exact tail

theorem generateLegalCandidates_raises
    (quiet : ∀ delay, 0 ≤ delay → (clock.resolveDelay delay).RaisesOnly raised)
    {floor latest : Datetime}
    : (generateLegalCandidates floor latest config clock).RaisesOnly raised := by
  have kept := @candidatesAt_raises _ overflow config clock quiet floor latest
    [0, 12, 24, 48, 72] (by decide)
  refine Except.raisesOnly_bind.mpr ⟨kept, fun candidates _ => ?_⟩
  split
  · exact Except.raisesOnly_bind.mpr ⟨pushOut_raises overflow _, fun _ _ => trivial⟩
  · exact trivial

/-- The search for a salary day can only leave the calendar, by induction over the days left. -/
theorem firstSalaryWindowDayFrom_raises (stop : Datetime) (count : Nat) (cursor : Datetime)
    : (firstSalaryWindowDayFrom stop count cursor).RaisesOnly raised := by
  induction count generalizing cursor with
  | zero => exact trivial
  | succ count ih =>
      rw [firstSalaryWindowDayFrom]
      dsimp only
      repeat' split
      · exact trivial
      · exact trivial
      · exact Except.raisesOnly_bind.mpr ⟨plus_raises overflow _ _, fun next _ => ih next⟩

/-- Where there is a spacing entry, the scheduler raises what its clock and its bandit raise, or
leaves the calendar. The clock is asked for legal delays only, the bandit for one of some
candidates.
-/
theorem computeScheduledAt_raises (loaded : config.Loaded) {retriesUsed : Nat}
    {spacing : Timedelta} (entry : config.selfImposed.spacing? retriesUsed = some spacing)
    (quiet : ∀ delay, 0 ≤ delay → (clock.resolveDelay delay).RaisesOnly raised)
    {reasonCode : Option String} {previous : Option Datetime} {bandit : Option Suggest}
    (advised
      : ∀ suggest : Suggest,
          bandit = some suggest
          → ∀ candidates,
              candidates ≠ []
              → (suggest candidates).Ends
                  (fun chosen =>
                    chosen ∈ candidates
                    ∨ raised (.assertionError "Bandit selected an illegal slot"))
                  raised)
    : (computeScheduledAt retriesUsed reasonCode config clock previous bandit).RaisesOnly
        raised := by
  have aimed {target : Datetime} (ahead : clock.now 0 ≤ target)
      {reason : Datetime → Datetime → String}
      : (clock.resolveDelay (target - clock.now 0) >>= fun delay =>
          plus (clock.now 0) delay >>= fun target =>
            pushOut target config >>= fun scheduled =>
              pure (scheduled, reason target scheduled)).RaisesOnly raised :=
    Except.raisesOnly_bind.mpr ⟨quiet _ (by linarith), fun _ _ =>
      Except.raisesOnly_bind.mpr ⟨plus_raises overflow _ _, fun _ _ =>
        Except.raisesOnly_bind.mpr ⟨pushOut_raises overflow _, fun _ _ => trivial⟩⟩⟩
  unfold computeScheduledAt
  rw [entry]
  refine Except.raisesOnly_bind.mpr ⟨plus_raises overflow _ _, fun byNotice noticed => ?_⟩
  refine Except.raisesOnly_bind.mpr ⟨plus_raises overflow _ _, fun bySpacing _ => ?_⟩
  refine Except.raisesOnly_bind.mpr ⟨plus_raises overflow _ _, fun latest reached => ?_⟩
  obtain ⟨_, rfl⟩ := plus_eq_ok.mp noticed
  obtain ⟨_, rfl⟩ := plus_eq_ok.mp reached
  refine Except.raisesOnly_bind.mpr
    ⟨generateLegalCandidates_raises overflow quiet, fun candidates generated => ?_⟩
  have lead := loaded.leadTime
  have ahead : clock.now 0 ≤ max (clock.now 0 + config.npciRules.noticeLeadTime) bySpacing :=
    le_trans (by linarith) (le_max_left _ _)
  cases bandit with
  | some suggest =>
      have ends := advised suggest rfl candidates (generateLegalCandidates_filled generated)
      refine Except.Ends.bind ends fun selected _ picked => ?_
      dsimp only
      split
      · next stray => exact picked.resolve_left stray
      · exact trivial
  | none =>
      dsimp only
      split
      · refine Except.raisesOnly_bind.mpr
          ⟨firstSalaryWindowDayFrom_raises overflow _ _ _, fun found searched => ?_⟩
        cases found with
        | some day => exact aimed (le_trans ahead (firstSalaryWindowDayFrom_bounds searched).1)
        | none => exact aimed ahead
      · exact aimed ahead

end Raises

end StateMachine

end RecoveryAgent
