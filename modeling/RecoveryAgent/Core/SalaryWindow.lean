import RecoveryAgent.Core.Calendar
import RecoveryAgent.Core.LegalSlots

/-! Where the search for a salary day is exact.
The window is one of IST days. The search looks at one instant a day, at the time of day it
starts from, and asks for its UTC date.
-/

namespace RecoveryAgent.StateMachine

/-- The day number of the UTC date. -/
def utcDay (t : Datetime) : Int := t / days 1

/-- The day number of the IST date. -/
def istDay (t : Datetime) : Int := (t + istOffset) / days 1

/-- The instant at which an IST day begins. -/
def istMidnight (day : Int) : Datetime := days day - istOffset

/-- A day of the month from `SALARY_WINDOW_START_DAY` to `SALARY_WINDOW_END_DAY`. -/
def SalaryDay (day : Int) : Prop := 1 ≤ dayOfMonth day ∧ dayOfMonth day ≤ 7

instance (day : Int) : Decidable (SalaryDay day) :=
  inferInstanceAs (Decidable (1 ≤ dayOfMonth day ∧ dayOfMonth day ≤ 7))

/-- The search is exact: it answers with an instant of the interval on an IST salary day
wherever there is one, and with none elsewhere.
-/
structure SalaryExact (start stop : Datetime) : Prop where
  found
    : ∀ t,
        start ≤ t
        → t ≤ stop
        → SalaryDay (istDay t)
        → ∃ day,
            firstSalaryWindowDay start stop = .ok (some day)
            ∧ start ≤ day ∧ day ≤ stop ∧ SalaryDay (istDay day)
  absent
    : (∀ t, start ≤ t → t ≤ stop → ¬ SalaryDay (istDay t))
      → firstSalaryWindowDay start stop = .ok none

/-- The two ways the search can miss are not met: a start that is past the window in IST
though not in UTC, and an interval that enters the next month in IST and ends before the time of
day of its start on the first.
-/
structure SalaryReached (start stop : Datetime) : Prop where
  started : SalaryDay (utcDay start) → SalaryDay (istDay start)
  entered
    : ¬ SalaryDay (utcDay start)
      → istMidnight (nextFirst (utcDay start)) ≤ stop
      → start + days (nextFirst (utcDay start) - utcDay start) ≤ stop

theorem utcDay_add (t : Datetime) (ahead : Int) : utcDay (t + days ahead) = utcDay t + ahead := by
  simp only [utcDay, days, Datetime, Timedelta]
  omega

/-- IST is ahead of UTC by less than a day. -/
theorem istDay_cases (t : Datetime) : istDay t = utcDay t ∨ istDay t = utcDay t + 1 := by
  simp only [istDay, utcDay, days, istOffset, Datetime, Timedelta]
  omega

theorem istDay_mono {t later : Datetime} (ordered : t ≤ later) : istDay t ≤ istDay later := by
  simp only [istDay, days, istOffset, Datetime, Timedelta] at *
  omega

theorem istMidnight_le_iff {day : Int} {t : Datetime} : istMidnight day ≤ t ↔ day ≤ istDay t := by
  simp only [istMidnight, istDay, days, istOffset, Datetime, Timedelta]
  omega

theorem istDay_istMidnight (day : Int) : istDay (istMidnight day) = day := by
  simp only [istMidnight, istDay, days, istOffset, Datetime, Timedelta]
  omega

theorem firstSalaryWindowDayFrom_succ (stop cursor : Datetime) (count : Nat)
    : firstSalaryWindowDayFrom stop (count + 1) cursor
      = if stop < cursor then .ok none
        else if SalaryDay (utcDay cursor) then .ok (some cursor)
        else plus cursor (days 1) >>= firstSalaryWindowDayFrom stop count :=
  rfl

/-- The search goes on with the next day, where it is in the calendar. -/
theorem firstSalaryWindowDayFrom_next {stop cursor : Datetime} {count : Nat}
    {found : Option Datetime} (within : ¬ stop < cursor) (unsalaried : ¬ SalaryDay (utcDay cursor))
    (searched : firstSalaryWindowDayFrom stop (count + 1) cursor = .ok found)
    : firstSalaryWindowDayFrom stop count (cursor + days 1) = .ok found := by
  rw [firstSalaryWindowDayFrom_succ, if_neg within, if_neg unsalaried] at searched
  simp only [bind, Except.bind] at searched
  split at searched
  · cases searched
  next next_ summed =>
  obtain ⟨_, rfl⟩ := plus_eq_ok.mp summed
  exact searched

theorem utcDay_succ (cursor : Datetime) (ahead : Nat)
    : utcDay (cursor + days 1) + ahead = utcDay cursor + (ahead + 1 : Nat) := by
  rw [utcDay_add]
  omega

theorem days_succ (cursor : Datetime) (ahead : Nat)
    : cursor + days 1 + days ahead = cursor + days (ahead + 1 : Nat) := by
  simp only [days, Timedelta, Datetime]
  omega

/-- The search answers with the first of its instants on a UTC salary day, by induction over
the instants left.
-/
theorem firstSalaryWindowDayFrom_some {stop cursor day : Datetime} {count : Nat}
    (found : firstSalaryWindowDayFrom stop count cursor = .ok (some day))
    : ∃ ahead : Nat,
        day = cursor + days ahead
        ∧ day ≤ stop
        ∧ SalaryDay (utcDay cursor + ahead)
        ∧ ∀ k < ahead, ¬ SalaryDay (utcDay cursor + (k : Nat)) := by
  induction count generalizing cursor with
  | zero => cases found
  | succ count ih =>
      by_cases passed : stop < cursor
      · rw [firstSalaryWindowDayFrom_succ, if_pos passed] at found
        cases found
      by_cases salary : SalaryDay (utcDay cursor)
      · rw [firstSalaryWindowDayFrom_succ, if_neg passed, if_pos salary] at found
        cases found
        exact ⟨0, by simp [days], not_lt.mp passed, by simpa using salary, by simp⟩
      obtain ⟨ahead, rfl, bounded, later, earlier⟩ :=
        ih (firstSalaryWindowDayFrom_next passed salary found)
      rw [utcDay_succ] at later
      refine ⟨ahead + 1, days_succ cursor ahead, bounded, later, fun k before => ?_⟩
      cases k with
      | zero => simpa using salary
      | succ k =>
          rw [← utcDay_succ]
          exact earlier k (Nat.lt_of_succ_lt_succ before)

/-- The search gives up only where none of its instants is on a UTC salary day. -/
theorem firstSalaryWindowDayFrom_none {stop cursor : Datetime} {count : Nat}
    (absent : firstSalaryWindowDayFrom stop count cursor = .ok none)
    : ∀ k < count,
        cursor + days (k : Nat) ≤ stop → ¬ SalaryDay (utcDay cursor + (k : Nat)) := by
  induction count generalizing cursor with
  | zero => simp
  | succ count ih =>
      intro k counted within
      have begun : cursor ≤ cursor + days k := by
        simp only [days, Timedelta, Datetime]
        omega
      have reached : ¬ stop < cursor := not_lt.mpr (le_trans begun within)
      have unsalaried : ¬ SalaryDay (utcDay cursor) := by
        intro salary
        rw [firstSalaryWindowDayFrom_succ, if_neg reached, if_pos salary] at absent
        cases absent
      cases k with
      | zero => simpa using unsalaried
      | succ k =>
          rw [← utcDay_succ]
          exact ih (firstSalaryWindowDayFrom_next reached unsalaried absent) k
            (Nat.lt_of_succ_lt_succ counted) (by rwa [days_succ])

section Search

variable {start stop : Datetime}

/-- All the daily instants of the interval are looked at. -/
theorem firstSalaryWindowDay_none (absent : firstSalaryWindowDay start stop = .ok none)
    (ahead : Nat) (within : start + days ahead ≤ stop)
    : ¬ SalaryDay (utcDay start + ahead) := by
  refine firstSalaryWindowDayFrom_none absent ahead ?_ within
  simp only [days, Timedelta, Datetime] at *
  omega

/-- Where the search answers, it is exact if the answer is on an IST salary day. -/
theorem salaryExact_iff_of_some {day : Datetime}
    (found : firstSalaryWindowDay start stop = .ok (some day))
    : SalaryExact start stop ↔ SalaryDay (istDay day) := by
  obtain ⟨above, below⟩ := firstSalaryWindowDayFrom_bounds found
  constructor
  · intro exactly
    by_contra missed
    have listed : ∃ t, start ≤ t ∧ t ≤ stop ∧ SalaryDay (istDay t) := by
      by_contra none
      push Not at none
      cases found.symm.trans (exactly.absent none)
    obtain ⟨t, after, before, salary⟩ := listed
    obtain ⟨day', found', _, _, salary'⟩ := exactly.found t after before salary
    cases found.symm.trans found'
    exact missed salary'
  · exact fun salary => {
      found := fun _ _ _ _ => ⟨day, found, above, below, salary⟩
      absent := fun none => absurd salary (none day above below)
    }

/-- Where the search gives up, it is exact if the interval has no IST salary day. -/
theorem salaryExact_iff_of_none (absent : firstSalaryWindowDay start stop = .ok none)
    : SalaryExact start stop ↔ ∀ t, start ≤ t → t ≤ stop → ¬ SalaryDay (istDay t) := by
  constructor
  · intro exactly t after before salary
    obtain ⟨day, found, _⟩ := exactly.found t after before salary
    cases absent.symm.trans found
  · exact fun none => {
      found := fun t after before salary => absurd salary (none t after before)
      absent := fun _ => absent
    }

/-- Until the next month begins, no day after the window is a salary day. -/
theorem unsalaried_of_lt_nextFirst {day later : Int} (unsalaried : ¬ SalaryDay day)
    (after : day ≤ later) (before : later < nextFirst day)
    : ¬ SalaryDay later := by
  have counted := dayOfMonth_of_lt_nextFirst after before
  have first := (dayOfMonth_bounds day).1
  simp only [SalaryDay, not_and_or, not_le] at *
  omega

theorem salaryDay_nextFirst (day : Int) : SalaryDay (nextFirst day) := by
  simp [SalaryDay, dayOfMonth_nextFirst]

/-- The second of a month follows the first. -/
theorem salaryDay_nextFirst_succ (day : Int) : SalaryDay (nextFirst day + 1) := by
  have first := dayOfMonth_nextFirst day
  rcases dayOfMonth_next (nextFirst day) with second | ⟨_, long⟩
  · simp [SalaryDay, second, first]
  · omega

/-- From a start within the window, the search answers with the start. -/
theorem firstSalaryWindowDay_of_salaryDay (ordered : start ≤ stop)
    (salary : SalaryDay (utcDay start))
    : firstSalaryWindowDay start stop = .ok (some start) := by
  rw [firstSalaryWindowDay, firstSalaryWindowDayFrom_succ, if_neg (not_lt.mpr ordered),
    if_pos salary]

/-- From a start outside it, the search can only answer on the first of the next month. -/
theorem firstSalaryWindowDay_of_not_salaryDay (unsalaried : ¬ SalaryDay (utcDay start))
    {day : Datetime} (found : firstSalaryWindowDay start stop = .ok (some day))
    : day = start + days (nextFirst (utcDay start) - utcDay start) := by
  obtain ⟨ahead, rfl, _, salary, earlier⟩ := firstSalaryWindowDayFrom_some found
  have later : nextFirst (utcDay start) ≤ utcDay start + ahead := by
    by_contra before
    exact unsalaried_of_lt_nextFirst unsalaried (by omega) (not_le.mp before) salary
  have first : ¬ nextFirst (utcDay start) < utcDay start + ahead := by
    intro after
    have begun := lt_nextFirst (utcDay start)
    refine earlier (nextFirst (utcDay start) - utcDay start).toNat (by omega) ?_
    rw [Int.toNat_of_nonneg (by omega), add_sub_cancel]
    exact salaryDay_nextFirst _
  congr 2
  omega

/-- The search is exact exactly where neither of the two ways to miss is met. -/
theorem salaryExact_iff (ordered : start ≤ stop) (calendar : stop + days 1 ≤ lastInstant)
    : SalaryExact start stop ↔ SalaryReached start stop := by
  by_cases salary : SalaryDay (utcDay start)
  · rw [salaryExact_iff_of_some (firstSalaryWindowDay_of_salaryDay ordered salary)]
    exact ⟨fun salary' => ⟨fun _ => salary', absurd salary⟩, fun reached => reached.started salary⟩
  have reached_iff
      : SalaryReached start stop
        ↔ (istMidnight (nextFirst (utcDay start)) ≤ stop
          → start + days (nextFirst (utcDay start) - utcDay start) ≤ stop) :=
    ⟨fun reached => reached.entered salary, fun entered => ⟨(absurd · salary), fun _ => entered⟩⟩
  have begun := lt_nextFirst (utcDay start)
  rw [reached_iff]
  obtain ⟨found, search⟩ : ∃ found, firstSalaryWindowDay start stop = .ok found :=
    firstSalaryWindowDayFrom_total calendar _ start
  cases found with
  | some day =>
      obtain ⟨_, _, within, _⟩ := firstSalaryWindowDayFrom_some search
      rw [salaryExact_iff_of_some search]
      obtain rfl := firstSalaryWindowDay_of_not_salaryDay salary search
      refine iff_of_true ?_ fun _ => within
      have utc : utcDay (start + days (nextFirst (utcDay start) - utcDay start))
          = nextFirst (utcDay start) := by
        rw [utcDay_add, add_sub_cancel]
      rcases istDay_cases (start + days (nextFirst (utcDay start) - utcDay start)) with same | next
      · rw [same, utc]
        exact salaryDay_nextFirst _
      · rw [next, utc]
        exact salaryDay_nextFirst_succ _
  | none =>
      have short : ¬ start + days (nextFirst (utcDay start) - utcDay start) ≤ stop := by
        intro within
        have skipped := firstSalaryWindowDay_none search
          (nextFirst (utcDay start) - utcDay start).toNat
        rw [Int.toNat_of_nonneg (by omega), add_sub_cancel] at skipped
        exact skipped within (salaryDay_nextFirst _)
      rw [salaryExact_iff_of_none search]
      constructor
      · intro none entered
        -- the first instant of the interval in the new month is its midnight or the start
        have turned
            : istDay (max start (istMidnight (nextFirst (utcDay start))))
              = nextFirst (utcDay start) := by
          rcases le_total start (istMidnight (nextFirst (utcDay start))) with before | after
          · rw [max_eq_right before, istDay_istMidnight]
          · rw [max_eq_left after]
            rw [istMidnight_le_iff] at after
            rcases istDay_cases start with same | next <;> omega
        refine absurd ?_ (none _ (le_max_left _ _) (max_le ordered entered))
        rw [turned]
        exact salaryDay_nextFirst _
      · intro entered t after before
        have unentered : istDay t < nextFirst (utcDay start) := by
          by_contra later
          exact short (entered (le_trans (istMidnight_le_iff.mpr (not_lt.mp later)) before))
        refine unsalaried_of_lt_nextFirst salary ?_ unentered
        have first := istDay_mono after
        rcases istDay_cases start with same | next <;> omega

end Search

/-- The instant that a slot was pushed from lies between the floor and the latest instant. -/
def WithinSchedule (config : AppConfig) (clock : Clock) (retriesUsed : Nat)
    (previous : Option Datetime) (scheduled : Datetime)
    : Prop :=
  ∃ spacing t,
    config.selfImposed.spacing? retriesUsed = some spacing
    ∧ floorAt (clock.now 0) config.npciRules.noticeLeadTime spacing previous ≤ t
    ∧ t ≤ floorAt (clock.now 0) config.npciRules.noticeLeadTime spacing previous
          + config.selfImposed.maxScheduleWindow
    ∧ scheduled = avoidPeakWindows t config

/-- On a clock that passes durations through, every schedule lies between the floor and the
latest instant, up to the push.
-/
theorem computeScheduledAt_within {config : AppConfig} (loaded : config.Loaded) {clock : Clock}
    (identity : Identity clock) {retriesUsed : Nat} {reasonCode : Option String}
    {previous : Option Datetime} {bandit : Option Suggest} {scheduled : Datetime}
    {reasoning : String}
    (computed
      : computeScheduledAt retriesUsed reasonCode config clock previous bandit
        = .ok (scheduled, reasoning))
    : WithinSchedule config clock retriesUsed previous scheduled := by
  obtain ⟨spacing, floor, entry, floored, _, chosen⟩ := computeScheduledAt_iff.mp ⟨_, computed⟩
  have ordered : floor ≤ floor + config.selfImposed.maxScheduleWindow :=
    le_add_of_nonneg_right loaded.scheduleWindow
  suffices within : ∃ t, floor ≤ t ∧ t ≤ floor + config.selfImposed.maxScheduleWindow
      ∧ scheduled = avoidPeakWindows t config by
    obtain ⟨t, within⟩ := within
    exact ⟨spacing, t, entry, floored ▸ within⟩
  cases chosen with
  | suggested generated asked legal =>
      rcases generateLegalCandidates_kept generated scheduled legal with rfl | ⟨delay, kept⟩
      · exact ⟨floor, le_rfl, ordered, rfl⟩
      · obtain ⟨⟨offset, listed, resolved⟩, within, pushed⟩ := kept
        have delayed := identity.at offset listed delay resolved
        exact ⟨floor + delay, le_add_of_nonneg_right delayed, within, pushed⟩
  | fallback generated aimed resolved reached moved =>
      obtain ⟨above, below⟩ := fallbackTarget_bounds ordered aimed
      refine ⟨_, above, below, ?_⟩
      rw [moved, identity _ _ resolved, add_sub_cancel]

/-- The search for a salary day is exact exactly where it reaches the day: the start is not
past the window in IST only, and an interval that enters the next month in IST goes on to the
time of day of its start. The schedule is within its bounds in any case. Witness: the instants
looked at are a day apart, and IST is ahead of UTC by less than a day. The day after the interval
is in the calendar.
-/
theorem salary_window_iff (start stop : Datetime) (ordered : start ≤ stop)
    (calendar : stop + days 1 ≤ lastInstant)
    : (SalaryExact start stop ↔ SalaryReached start stop)
      ∧ ∀ (config : AppConfig) (clock : Clock) (retriesUsed : Nat) (previous : Option Datetime)
          (bandit : Option Suggest) (scheduled : Datetime) (reasoning : String),
          config.Loaded
          → Identity clock
          → computeScheduledAt retriesUsed (some "insufficient_funds") config clock previous
                bandit
              = .ok (scheduled, reasoning)
          → WithinSchedule config clock retriesUsed previous scheduled :=
  ⟨salaryExact_iff ordered calendar,
    fun _ _ _ _ _ _ _ loaded identity computed =>
      computeScheduledAt_within loaded identity computed⟩

/-- The search from a start at midnight of the first of a month, and a schedule from there. -/
theorem salary_window_iff_first
    : (SalaryExact 0 (hours 48) ↔ SalaryReached 0 (hours 48))
      ∧ ∃ scheduled reasoning,
          computeScheduledAt 0 (some "insufficient_funds") (shippedConfig .prod) (stoppedClock 0)
              none none
            = .ok (scheduled, reasoning)
          ∧ WithinSchedule (shippedConfig .prod) (stoppedClock 0) 0 none scheduled := by
  obtain ⟨scheduled, reasoning, computed, _⟩ :=
    @computeScheduledAt_total _ (shippedConfig_loaded .prod) (stoppedClock 0)
      (stoppedClock_resolves 0) 0 0 rfl (some "insufficient_funds") none none
      (fun _ given => nomatch given) (by decide)
  obtain ⟨exactly, within⟩ := salary_window_iff 0 (hours 48) (by decide) (by decide)
  exact ⟨exactly, scheduled, reasoning, computed,
    within _ _ _ _ _ _ _ (shippedConfig_loaded .prod) (stoppedClock_identity 0) computed⟩

/-- The search is exact on every interval: fails from the evening of the seventh in UTC, which
is the eighth in IST, and on an interval that ends in the morning of the first.
-/
theorem not_salaryExact
    : ¬ (∀ start stop, start ≤ stop → SalaryExact start stop)
      ∧ ¬ SalaryExact (days 6 + hours 19) (days 6 + hours 19)
      ∧ ¬ SalaryExact (days 30 + hours 10) (days 31 + hours 5) := by
  have evening : ¬ SalaryExact (days 6 + hours 19) (days 6 + hours 19) := by
    have found : firstSalaryWindowDay (days 6 + hours 19) (days 6 + hours 19)
        = .ok (some (days 6 + hours 19)) := by
      decide
    rw [salaryExact_iff_of_some found]
    decide
  have morning : ¬ SalaryExact (days 30 + hours 10) (days 31 + hours 5) := by
    have absent : firstSalaryWindowDay (days 30 + hours 10) (days 31 + hours 5) = .ok none := by
      decide
    rw [salaryExact_iff_of_none absent]
    exact fun none => none (days 31) (by decide) (by decide) (by decide)
  exact ⟨fun always => evening (always _ _ le_rfl), evening, morning⟩

end RecoveryAgent.StateMachine
