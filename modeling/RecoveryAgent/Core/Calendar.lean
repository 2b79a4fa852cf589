import RecoveryAgent.Core.TimeText

/-! The day of the month, from one day to the next.
Days of the month count up and start again at 1, at the end of a month of 28 to 31 days.
-/

namespace RecoveryAgent

/-- `date.day` of a day number. -/
def dayOfMonth (day : Int) : Nat := (civilDate day).2.2

namespace Calendar

/-- The day of its year, from March on, of a day of an era. -/
def dayOfYear (doe : Nat) : Nat :=
  let yoe := (doe - doe / 1460 + doe / 36524 - doe / 146096) / 365
  doe - (365 * yoe + yoe / 4 - yoe / 100)

/-- The day of its month of a day of a year. -/
def dayOfMonthAt (doy : Nat) : Nat := doy - (153 * ((5 * doy + 2) / 153) + 2) / 5 + 1

theorem dayOfMonth_eq (day : Int)
    : dayOfMonth day = dayOfMonthAt (dayOfYear ((day + 719468) % 146097).toNat) :=
  rfl

/-- In a year, the day of the month counts up and starts again. -/
theorem dayOfMonthAt_next
    : ∀ doy < 366,
        dayOfMonthAt (doy + 1) = dayOfMonthAt doy + 1
        ∨ (dayOfMonthAt (doy + 1) = 1 ∧ 28 ≤ dayOfMonthAt doy) := by
  decide +kernel

theorem dayOfMonthAt_bounds
    : ∀ doy < 366,
        1 ≤ dayOfMonthAt doy ∧ dayOfMonthAt doy ≤ 31 ∧ (364 ≤ doy → 28 ≤ dayOfMonthAt doy) := by
  decide +kernel

theorem dayOfYear_lt {doe : Nat} (era : doe < 146097) : dayOfYear doe < 366 :=
  (yearOfEra_bounds era rfl).2.2

/-- A century has 25 cycles of four years, of which the last is a day short but in the last
century. The day of the year is that of the cycle, less the whole years before it.
-/
theorem dayOfYear_eq {century cycle day : Nat} (centuries : century < 4) (cycles : cycle < 25)
    (days : day < 1461) (short : cycle = 24 → day = 1460 → century = 3)
    : dayOfYear (36524 * century + 1461 * cycle + day) = day - 365 * min (day / 365) 3 := by
  generalize counted : 36524 * century + 1461 * cycle + day = doe
  obtain ⟨year, whole, bound⟩ : ∃ year, year = min (day / 365) 3 ∧ year < 4 :=
    ⟨_, rfl, by omega⟩
  have leapless
      : doe - doe / 1460 + doe / 36524 - doe / 146096
        = 36500 * century + 1460 * cycle + day - (24 * century + cycle + day) / 1460 := by
    have leaps : doe / 1460 = 25 * century + cycle + (24 * century + cycle + day) / 1460 := by
      omega
    by_cases last : doe = 146096
    · omega
    · have hundreds : doe / 36524 = century := by omega
      have ordinary : doe / 146096 = 0 := by omega
      omega
  have yoe
      : (doe - doe / 1460 + doe / 36524 - doe / 146096) / 365
        = 100 * century + 4 * cycle + year := by
    rw [leapless]
    omega
  have fours : (100 * century + 4 * cycle + year) / 4 = 25 * century + cycle := by omega
  have hundreds : (100 * century + 4 * cycle + year) / 100 = century := by omega
  unfold dayOfYear
  dsimp only
  rw [yoe, ← whole, fours, hundreds]
  clear leapless yoe fours hundreds
  omega

/-- Every day of an era is a day of a cycle of a century. -/
theorem exists_cycle {doe : Nat} (era : doe < 146097)
    : ∃ century cycle day,
        doe = 36524 * century + 1461 * cycle + day
        ∧ century < 4 ∧ cycle < 25 ∧ day < 1461
        ∧ (cycle = 24 → day = 1460 → century = 3) := by
  refine ⟨min (doe / 36524) 3, (doe - 36524 * min (doe / 36524) 3) / 1461,
    (doe - 36524 * min (doe / 36524) 3) % 1461, ?_⟩
  generalize same : min (doe / 36524) 3 = century
  omega

/-- In an era, the day of the year counts up and starts again. -/
theorem dayOfYear_next {doe : Nat} (era : doe + 1 < 146097)
    : dayOfYear (doe + 1) = dayOfYear doe + 1
      ∨ (dayOfYear (doe + 1) = 0 ∧ 364 ≤ dayOfYear doe) := by
  obtain ⟨century, cycle, day, rfl, centuries, cycles, days, short⟩ :=
    exists_cycle (Nat.lt_of_succ_lt era)
  rw [dayOfYear_eq centuries cycles days short]
  by_cases centuryEnds : cycle = 24 ∧ day = 1459 ∧ century < 3
  · obtain ⟨rfl, rfl, early⟩ := centuryEnds
    have next := @dayOfYear_eq (century + 1) 0 0 (by omega) (by omega) (by omega) (by omega)
    rw [show 36524 * century + 1461 * 24 + 1459 + 1
      = 36524 * (century + 1) + 1461 * 0 + 0 by omega, next]
    omega
  by_cases cycleEnds : day = 1460
  · have next := @dayOfYear_eq century (cycle + 1) 0 (by omega) (by omega) (by omega) (by omega)
    rw [show 36524 * century + 1461 * cycle + day + 1
      = 36524 * century + 1461 * (cycle + 1) + 0 by omega, next]
    omega
  · have next := @dayOfYear_eq century cycle (day + 1) (by omega) (by omega) (by omega) (by omega)
    rw [Nat.add_assoc _ day, next]
    omega

end Calendar

open Calendar

theorem dayOfMonth_bounds (day : Int) : 1 ≤ dayOfMonth day ∧ dayOfMonth day ≤ 31 := by
  have era : ((day + 719468) % 146097).toNat < 146097 := by omega
  rw [dayOfMonth_eq]
  exact (dayOfMonthAt_bounds _ (dayOfYear_lt era)).imp_right And.left

/-- The next day is the next of its month, or the first after a month of 28 days or more. -/
theorem dayOfMonth_next (day : Int)
    : dayOfMonth (day + 1) = dayOfMonth day + 1
      ∨ (dayOfMonth (day + 1) = 1 ∧ 28 ≤ dayOfMonth day) := by
  rw [dayOfMonth_eq, dayOfMonth_eq]
  by_cases eraEnds : (day + 719468) % 146097 = 146096
  · have next : (day + 1 + 719468) % 146097 = 0 := by omega
    rw [eraEnds, next]
    exact .inr (by decide)
  · obtain ⟨doe, here⟩ : ∃ doe, doe = ((day + 719468) % 146097).toNat := ⟨_, rfl⟩
    have next : ((day + 1 + 719468) % 146097).toNat = doe + 1 := by omega
    have era : doe + 1 < 146097 := by omega
    have year := dayOfYear_lt (Nat.lt_of_succ_lt era)
    rw [← here, next]
    rcases dayOfYear_next era with later | ⟨started, ended⟩
    · rw [later]
      exact dayOfMonthAt_next _ year
    · rw [started]
      exact .inr ⟨rfl, (dayOfMonthAt_bounds _ year).2.2 ended⟩

/-- Until the next month begins, the days of the month count up, by induction over them. -/
theorem dayOfMonth_add (day : Int) (ahead : Nat)
    (within : ∀ k < ahead, dayOfMonth (day + 1 + (k : Nat)) ≠ 1)
    : dayOfMonth (day + ahead) = dayOfMonth day + ahead := by
  induction ahead with
  | zero => simp
  | succ ahead ih =>
      have counted := ih fun k earlier => within k (Nat.lt_succ_of_lt earlier)
      have unstarted := within ahead (Nat.lt_succ_self ahead)
      rw [add_right_comm] at unstarted
      have next := (dayOfMonth_next (day + ahead)).resolve_right fun started =>
        unstarted started.1
      rw [Nat.cast_succ, ← add_assoc, next, counted]
      rfl

/-- Every day is followed by a first: a month has at most 31 days. -/
theorem exists_first (day : Int) : ∃ ahead : Nat, dayOfMonth (day + 1 + ahead) = 1 := by
  by_contra never
  have counted := dayOfMonth_add day 31 fun k _ first => never ⟨k, first⟩
  have first := (dayOfMonth_bounds day).1
  have last := (dayOfMonth_bounds (day + (31 : Nat))).2
  omega

/-- The first day after the given one that begins a month. -/
def nextFirst (day : Int) : Int := day + 1 + Nat.find (exists_first day)

theorem lt_nextFirst (day : Int) : day < nextFirst day := by
  unfold nextFirst
  omega

theorem dayOfMonth_nextFirst (day : Int) : dayOfMonth (nextFirst day) = 1 :=
  Nat.find_spec (exists_first day)

/-- The days up to the next first are of one month. -/
theorem dayOfMonth_of_lt_nextFirst {day later : Int} (after : day ≤ later)
    (before : later < nextFirst day)
    : dayOfMonth later = dayOfMonth day + (later - day).toNat := by
  have counted := dayOfMonth_add day (later - day).toNat fun k earlier =>
    Nat.find_min (exists_first day) (by unfold nextFirst at before; omega)
  rwa [Int.toNat_of_nonneg (by omega), add_sub_cancel] at counted

end RecoveryAgent
