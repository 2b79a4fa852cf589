import Mathlib.Tactic.Ring

/-! Instants, durations and IST wall-clock times.
Instants are UTC and, as in Python's `datetime`, exact to the microsecond. The calendar of the
library has the years 1 to 9999: `Reaches` tells which sums stay within it.
-/

namespace RecoveryAgent

/-- A duration in microseconds (`datetime.timedelta`). -/
abbrev Timedelta := Int

/-- An instant in microseconds since the Unix epoch, UTC (`datetime.datetime`). -/
abbrev Datetime := Int

/-- `datetime.min`, the first microsecond of the year 1. -/
def firstInstant : Datetime := -62135596800000000

/-- `datetime.max`, the last microsecond of the year 9999. -/
def lastInstant : Datetime := 253402300799999999

/-- The sum of an instant of the calendar and a duration is in the calendar. Only the bound that
the duration leads towards can be passed.
-/
def Reaches (t : Datetime) (delta : Timedelta) : Prop :=
  (delta < 0 → firstInstant ≤ t + delta) ∧ (0 ≤ delta → t + delta ≤ lastInstant)

instance (t : Datetime) (delta : Timedelta) : Decidable (Reaches t delta) :=
  inferInstanceAs (Decidable (_ ∧ _))

theorem reaches_iff {t : Datetime} {delta : Timedelta} (legal : 0 ≤ delta)
    : Reaches t delta ↔ t + delta ≤ lastInstant :=
  ⟨fun reaches => reaches.2 legal,
    fun within => ⟨fun negative => absurd legal (not_le.mpr negative), fun _ => within⟩⟩

def seconds (n : Int) : Timedelta := n * 1000000

def minutes (n : Int) : Timedelta := n * 60000000

def hours (n : Int) : Timedelta := n * 3600000000

def days (n : Int) : Timedelta := n * 86400000000

/-- A wall-clock time without date (`datetime.time`), in microseconds after midnight. -/
structure TimeOfDay where
  micros : Nat
  valid : micros < 86400000000 := by decide
  deriving DecidableEq, Repr

namespace TimeOfDay

def hour (time : TimeOfDay) : Nat := time.micros / 3600000000

def minute (time : TimeOfDay) : Nat := time.micros / 60000000 % 60

def second (time : TimeOfDay) : Nat := time.micros / 1000000 % 60

def microsecond (time : TimeOfDay) : Nat := time.micros % 1000000

/-- `time(hour, minute)` for an hour and a minute in range. -/
def ofHourMinute (hour : Fin 24) (minute : Fin 60) : TimeOfDay where
  micros := hour * 3600000000 + minute * 60000000
  valid := by omega

/-- A time given by hour and minute alone, as the configuration files write them. -/
def WholeMinute (time : TimeOfDay) : Prop := time.micros % 60000000 = 0

theorem ofHourMinute_wholeMinute (hour : Fin 24) (minute : Fin 60)
    : (ofHourMinute hour minute).WholeMinute := by
  simp only [WholeMinute, ofHourMinute]
  omega

/-- A whole-minute time is rebuilt from its hour and minute. -/
theorem WholeMinute.rebuild {time : TimeOfDay} (whole : time.WholeMinute)
    : time.hour * 3600000000 + time.minute * 60000000 = time.micros := by
  have valid := time.valid
  simp only [WholeMinute, hour, minute] at *
  omega

end TimeOfDay

/-- Asia/Kolkata is UTC+05:30 without daylight saving at every instant since 1945. -/
def istOffset : Timedelta := 19800000000

/-- `t.astimezone(IST).time()`. -/
def istTime (t : Datetime) : TimeOfDay where
  micros := ((t + istOffset) % 86400000000).toNat
  valid := by omega

/-- Microseconds since IST midnight. -/
theorem istTime_micros (t : Datetime)
    : ((istTime t).micros : Int) = (t + istOffset) % 86400000000 := by
  simp only [istTime]
  omega

/-- `t.astimezone(IST).replace(hour, minute, second=0, microsecond=0).astimezone(utc)`:
the given wall-clock time on the IST day of `t`.
-/
def replaceIstTime (t : Datetime) (hour minute : Nat) : Datetime :=
  t - (t + istOffset) % 86400000000 + hour * 3600000000 + minute * 60000000

/-- The replaced wall-clock time is reached on the same IST day. -/
theorem replaceIstTime_eq (t : Datetime) (time : TimeOfDay) (whole : time.WholeMinute)
    : replaceIstTime t time.hour time.minute = t - (istTime t).micros + time.micros := by
  have rebuilt := whole.rebuild
  rw [istTime_micros]
  unfold replaceIstTime
  simp only [Datetime] at *
  omega

/-- A number in decimal, padded with zeros on the left. -/
def padded (width n : Nat) : String :=
  String.ofList (List.replicate (width - (toString n).length) '0') ++ toString n

/-- The proleptic Gregorian date (year, month, day) of a day number since 1970-01-01. -/
def civilDate (day : Int) : Int × Nat × Nat :=
  let z := day + 719468
  let era := z / 146097
  let doe := (z % 146097).toNat
  let yoe := (doe - doe / 1460 + doe / 36524 - doe / 146096) / 365
  let doy := doe - (365 * yoe + yoe / 4 - yoe / 100)
  let mp := (5 * doy + 2) / 153
  let d := doy - (153 * mp + 2) / 5 + 1
  let m := if mp < 10 then mp + 3 else mp - 9
  (yoe + era * 400 + (if m ≤ 2 then 1 else 0), m, d)

/-- `str(time)`: seconds always, microseconds only where there are any. -/
def TimeOfDay.str (time : TimeOfDay) : String :=
  padded 2 time.hour ++ ":" ++ padded 2 time.minute ++ ":" ++ padded 2 time.second
    ++ (if time.microsecond = 0 then "" else "." ++ padded 6 time.microsecond)

/-- A year with its sign; the years of the library have four digits and no sign. -/
def yearText (year : Int) : String :=
  (if year < 0 then "-" else "") ++ padded 4 year.natAbs

/-- `t.isoformat()` of a UTC datetime. -/
def isoformat (t : Datetime) : String :=
  let date := civilDate (t / 86400000000)
  let time : TimeOfDay := ⟨(t % 86400000000).toNat, by omega⟩
  yearText date.1 ++ "-" ++ padded 2 date.2.1 ++ "-" ++ padded 2 date.2.2 ++ "T"
    ++ time.str ++ "+00:00"

example : isoformat 1788554284821288 = "2026-09-04T20:38:04.821288+00:00" := by
  decide +kernel

/-- `str(delta)`: the sign is carried by the days alone. -/
def Timedelta.str (delta : Timedelta) : String :=
  let day := delta / 86400000000
  let time : TimeOfDay := ⟨(delta % 86400000000).toNat, by omega⟩
  let clock := toString time.hour ++ ":" ++ padded 2 time.minute ++ ":" ++ padded 2 time.second
    ++ (if time.microsecond = 0 then "" else "." ++ padded 6 time.microsecond)
  if day = 0 then clock
  else toString day ++ (if day = 1 ∨ day = -1 then " day, " else " days, ") ++ clock

end RecoveryAgent
