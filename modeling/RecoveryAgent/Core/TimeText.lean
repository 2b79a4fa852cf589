import RecoveryAgent.Core.Time
import RecoveryAgent.Lib.Delimited

/-! The texts of instants are read back.
No two instants have the same `isoformat`, so a record that is compared as text keeps its
instants.
-/

namespace RecoveryAgent

/-- The years of an era begin where their leap days put them, and are at most 366 days long. -/
theorem yearOfEra_bounds {doe yoe : Nat} (era : doe < 146097)
    (year : yoe = (doe - doe / 1460 + doe / 36524 - doe / 146096) / 365)
    : yoe < 400 ∧ 365 * yoe + yoe / 4 - yoe / 100 ≤ doe
      ∧ doe - (365 * yoe + yoe / 4 - yoe / 100) < 366 := by
  have century : doe / 36524 = 0 ∨ doe / 36524 = 1 ∨ doe / 36524 = 2 ∨ doe / 36524 = 3
      ∨ doe = 146096 := by omega
  have ordinary : doe ≠ 146096 → doe / 146096 = 0 := by omega
  rcases century with c | c | c | c | rfl
  · have whole : yoe / 100 = 0 := by omega
    rw [c, ordinary (by omega)] at year
    omega
  · have whole : yoe / 100 = 1 := by omega
    rw [c, ordinary (by omega)] at year
    omega
  · have whole : yoe / 100 = 2 := by omega
    rw [c, ordinary (by omega)] at year
    omega
  · have whole : yoe / 100 = 3 := by omega
    rw [c, ordinary (by omega)] at year
    omega
  · omega

/-- A date tells the day it is the date of. -/
theorem civilDate_day (day : Int)
    : ∃ (era : Int) (yoe mp : Nat),
        yoe < 400 ∧ mp < 12
        ∧ (civilDate day).2.1 = (if mp < 10 then mp + 3 else mp - 9)
        ∧ (civilDate day).1 = yoe + era * 400 + (if (civilDate day).2.1 ≤ 2 then 1 else 0)
        ∧ day + 719468
          = era * 146097 + (365 * yoe + yoe / 4 - yoe / 100 : Nat)
            + ((153 * mp + 2) / 5 : Nat) + (civilDate day).2.2 - 1 := by
  obtain ⟨doe, hdoe⟩ : ∃ doe, doe = ((day + 719468) % 146097).toNat := ⟨_, rfl⟩
  obtain ⟨yoe, hyoe⟩ : ∃ yoe, yoe = (doe - doe / 1460 + doe / 36524 - doe / 146096) / 365 :=
    ⟨_, rfl⟩
  obtain ⟨doy, hdoy⟩ : ∃ doy, doy = doe - (365 * yoe + yoe / 4 - yoe / 100) := ⟨_, rfl⟩
  obtain ⟨years, begun, length⟩ := yearOfEra_bounds (by omega) hyoe
  refine ⟨(day + 719468) / 146097, yoe, (5 * doy + 2) / 153, years, by omega, ?_⟩
  have month : (153 * ((5 * doy + 2) / 153) + 2) / 5 ≤ doy := by omega
  simp only [civilDate, ← hdoe, ← hyoe, ← hdoy, true_and]
  generalize (153 * ((5 * doy + 2) / 153) + 2) / 5 = before at month ⊢
  clear hyoe years length
  generalize 365 * yoe + yoe / 4 - yoe / 100 = first at *
  omega

theorem civilDate_injective : Function.Injective civilDate := by
  intro day day' same
  obtain ⟨era, yoe, mp, years, months, month, year, counted⟩ := civilDate_day day
  obtain ⟨era', yoe', mp', years', months', month', year', counted'⟩ := civilDate_day day'
  rw [same] at month year counted
  have mp_eq : mp = mp' := by
    rw [month] at month'
    split at month' <;> split at month' <;> omega
  have year_eq : yoe = yoe' ∧ era = era' := by
    rw [year] at year'
    omega
  obtain ⟨rfl, rfl⟩ := year_eq
  subst mp_eq
  omega

theorem padded_toList (width n : Nat)
    : (padded width n).toList
      = List.replicate (width - (toString n).length) '0' ++ Nat.toDigits 10 n := by
  simp [padded, String.toList_append]

theorem isDigit_of_mem_padded {width n : Nat} {c : Char}
    (member : c ∈ (padded width n).toList)
    : c.isDigit = true := by
  rw [padded_toList] at member
  rcases List.mem_append.mp member with zero | digit
  · rw [List.eq_of_mem_replicate zero]
    decide
  · exact Nat.isDigit_of_mem_toDigits (by decide) (by decide) digit

/-- Padding does not change the number that the digits are of. -/
theorem padded_injective (width : Nat) : Function.Injective (padded width) := by
  intro n m same
  have value (n : Nat) : Nat.ofDigitChars 10 (padded width n).toList 0 = n := by
    rw [padded_toList, Nat.ofDigitChars_append, Nat.ofDigitChars_replicate_zero, Nat.mul_zero,
      Nat.ofDigitChars_ten_toDigits]
  rw [← value n, same, value m]

/-- A padded number ends at the first character that is not a digit. -/
theorem padded_stop {width n m : Nat} {c c' : Char} {s t : List Char}
    (same : (padded width n).toList ++ c :: s = (padded width m).toList ++ c' :: t)
    (stop : c.isDigit = false := by decide) (stop' : c'.isDigit = false := by decide)
    : n = m ∧ c = c' ∧ s = t := by
  obtain ⟨texts, rest⟩ := @append_cons_inj_of_stop _ (fun c => c.isDigit = true) _ _ _ _ _ _
    (fun _ => isDigit_of_mem_padded) (fun _ => isDigit_of_mem_padded) (by simp [stop])
    (by simp [stop']) same
  exact ⟨padded_injective width (String.toList_inj.mp texts), rest⟩

/-- A year ends at the dash behind it. -/
theorem yearText_stop {year year' : Int} {s t : List Char}
    (same : (yearText year).toList ++ '-' :: s = (yearText year').toList ++ '-' :: t)
    : year = year' ∧ s = t := by
  have signed (year : Int)
      : year < 0 ∧ (yearText year).toList = '-' :: (padded 4 year.natAbs).toList
        ∨ 0 ≤ year ∧ (yearText year).toList = (padded 4 year.natAbs).toList := by
    unfold yearText
    by_cases negative : year < 0
    · exact .inl ⟨negative, by simp [negative, String.toList_append]⟩
    · exact .inr ⟨by omega, by simp [negative]⟩
  have unsigned {n m : Nat} {s t : List Char}
      : '-' :: ((padded 4 n).toList ++ '-' :: s) ≠ (padded 4 m).toList ++ '-' :: t := by
    intro same
    cases digits : (padded 4 m).toList with
    | nil =>
        have length := congrArg List.length digits
        rw [padded_toList, List.length_append] at length
        have := @Nat.length_toDigits_pos 10 m
        simp only [List.length_nil] at length
        omega
    | cons first rest =>
        rw [digits] at same
        have digit := @isDigit_of_mem_padded 4 m first (by simp [digits])
        rw [← (List.cons.inj same).1] at digit
        exact absurd digit (by decide)
  rcases signed year with ⟨sign, text⟩ | ⟨sign, text⟩ <;>
    rcases signed year' with ⟨sign', text'⟩ | ⟨sign', text'⟩ <;>
    rw [text, text'] at same
  · obtain ⟨number, _, rest⟩ := padded_stop (List.cons.inj same).2
    exact ⟨by omega, rest⟩
  · exact absurd same unsigned
  · exact absurd same.symm unsigned
  · obtain ⟨number, _, rest⟩ := padded_stop same
    exact ⟨by omega, rest⟩

/-- A time of day is given by its parts. -/
theorem TimeOfDay.ofParts {time time' : TimeOfDay} (hour : time.hour = time'.hour)
    (minute : time.minute = time'.minute) (second : time.second = time'.second)
    (microsecond : time.microsecond = time'.microsecond)
    : time = time' := by
  have micros : time.micros = time'.micros := by
    simp only [TimeOfDay.hour, TimeOfDay.minute, TimeOfDay.second, TimeOfDay.microsecond]
      at hour minute second microsecond
    omega
  cases time
  cases time'
  simpa only [TimeOfDay.mk.injEq] using micros

/-- A time of day with a text behind it that starts with neither a digit nor a dot. -/
theorem str_stop {time time' : TimeOfDay} {c : Char} {s t : List Char}
    (same : time.str.toList ++ c :: s = time'.str.toList ++ c :: t)
    (stop : c.isDigit = false := by decide) (dotless : c ≠ '.' := by decide)
    : time = time' ∧ s = t := by
  have text (time : TimeOfDay) (s : List Char)
      : time.str.toList ++ c :: s
        = (padded 2 time.hour).toList ++ ':' :: ((padded 2 time.minute).toList
          ++ ':' :: ((padded 2 time.second).toList
          ++ if time.microsecond = 0 then c :: s
            else '.' :: ((padded 6 time.microsecond).toList ++ c :: s))) := by
    unfold TimeOfDay.str
    split <;> simp [String.toList_append]
  rw [text, text] at same
  obtain ⟨hour, _, same⟩ := padded_stop same
  obtain ⟨minute, _, same⟩ := padded_stop same
  have rest : time.second = time'.second ∧ time.microsecond = time'.microsecond ∧ s = t := by
    split at same <;> split at same
    · obtain ⟨second, _, rest⟩ := padded_stop same stop stop
      exact ⟨second, by omega, rest⟩
    · exact absurd (padded_stop same stop).2.1 dotless
    · exact absurd (padded_stop same (by decide) stop).2.1.symm dotless
    · obtain ⟨second, _, same⟩ := padded_stop same
      obtain ⟨microsecond, _, rest⟩ := padded_stop same stop stop
      exact ⟨second, microsecond, rest⟩
  obtain ⟨second, microsecond, rest⟩ := rest
  exact ⟨TimeOfDay.ofParts hour minute second microsecond, rest⟩

theorem isoformat_toList (t : Datetime)
    : ∃ time : TimeOfDay,
        (time.micros : Int) = t % 86400000000
        ∧ (isoformat t).toList
          = (yearText (civilDate (t / 86400000000)).1).toList
            ++ '-' :: ((padded 2 (civilDate (t / 86400000000)).2.1).toList
            ++ '-' :: ((padded 2 (civilDate (t / 86400000000)).2.2).toList
            ++ 'T' :: (time.str.toList ++ ['+', '0', '0', ':', '0', '0']))) := by
  refine ⟨⟨(t % 86400000000).toNat, by omega⟩, ?_, ?_⟩
  · exact Int.toNat_of_nonneg (Int.emod_nonneg t (by decide))
  · simp [isoformat, String.toList_append]

/-- The text of an instant tells the instant. -/
theorem isoformat_injective : Function.Injective isoformat := by
  intro t t' same
  obtain ⟨time, micros, text⟩ := isoformat_toList t
  obtain ⟨time', micros', text'⟩ := isoformat_toList t'
  have lists := congrArg String.toList same
  rw [text, text'] at lists
  obtain ⟨year, lists⟩ := yearText_stop lists
  obtain ⟨month, _, lists⟩ := padded_stop lists
  obtain ⟨day, _, lists⟩ := padded_stop lists
  obtain ⟨rfl, _⟩ := str_stop lists
  have days := civilDate_injective (Prod.ext year (Prod.ext month day))
  rw [← Int.mul_ediv_add_emod t 86400000000, ← Int.mul_ediv_add_emod t' 86400000000, days,
    ← micros, ← micros']
end RecoveryAgent
