import RecoveryAgent.Core.Models
import RecoveryAgent.Lib.Unicode

/-! The typed configuration and its readers: rules, clocks, and decline classification
(`app/core/config.py`, `clock.py`, `dnd.py`, `decline_router.py`).
-/

namespace RecoveryAgent

-----------------------------------------------------------------------------------------
-- Configuration
-----------------------------------------------------------------------------------------

/-- One non-peak-execution blackout window, IST wall-clock. -/
structure PeakWindow where
  start : TimeOfDay
  stop : TimeOfDay
  deriving DecidableEq

/-- `window.start <= time < window.end`. -/
def PeakWindow.covers (window : PeakWindow) (time : TimeOfDay) : Prop :=
  window.start.micros ≤ time.micros ∧ time.micros < window.stop.micros

instance (window : PeakWindow) (time : TimeOfDay) : Decidable (window.covers time) :=
  inferInstanceAs (Decidable (_ ∧ _))

/-- The regulatory floor. The AFA ceilings are a dictionary from category to paise. -/
structure NpciRules where
  maxRetries : Int
  noticeLeadTime : Timedelta
  peakWindows : List PeakWindow
  afaFreeCeiling : List (String × Int)
  deriving DecidableEq

/-- The instant lies in one of the configured peak windows, in IST. -/
def NpciRules.inPeak (rules : NpciRules) (t : Datetime) : Prop :=
  ∃ window ∈ rules.peakWindows, window.covers (istTime t)

instance (rules : NpciRules) (t : Datetime) : Decidable (rules.inPeak t) :=
  inferInstanceAs (Decidable (∃ window ∈ rules.peakWindows, window.covers (istTime t)))

/-- The service's own tunable floors. -/
structure SelfImposedPolicy where
  controlObservationWindow : Timedelta
  retrySpacing : List Timedelta
  maxScheduleWindow : Timedelta
  deriving DecidableEq

/-- `retry_spacing[min(i, len - 1)]`; an empty list has no entry to read. -/
def SelfImposedPolicy.spacing? (policy : SelfImposedPolicy) (i : Nat) : Option Timedelta :=
  policy.retrySpacing[min i (policy.retrySpacing.length - 1)]?

theorem SelfImposedPolicy.spacing?_isSome {policy : SelfImposedPolicy}
    (listed : policy.retrySpacing ≠ []) (i : Nat)
    : ∃ required, policy.spacing? i = some required := by
  have positive := List.length_pos_iff.mpr listed
  have bound : min i (policy.retrySpacing.length - 1) < policy.retrySpacing.length := by omega
  exact ⟨_, List.getElem?_eq_getElem bound⟩

/-- Only the two literals are accepted as `decline_rules.default`. -/
inductive DefaultClass where
  | technical | business
  deriving DecidableEq

structure DeclineRules where
  technical : List String
  business : List String
  default : DefaultClass
  deriving DecidableEq

inductive ProfileName where
  | prod | demo
  deriving DecidableEq

/-- `AppConfig`, less the advisory rails, which no modelled function reads. -/
structure AppConfig where
  npciRules : NpciRules
  selfImposed : SelfImposedPolicy
  profileName : ProfileName
  timeScale : Nat
  declineRules : DeclineRules
  deriving DecidableEq

/-- What `load_config` makes true of every configuration it returns: durations are parsed
from digits, so none is negative, and window bounds from hours and minutes.
-/
structure AppConfig.Loaded (config : AppConfig) : Prop where
  leadTime : 0 ≤ config.npciRules.noticeLeadTime
  scheduleWindow : 0 ≤ config.selfImposed.maxScheduleWindow
  spacing : ∀ gap ∈ config.selfImposed.retrySpacing, 0 ≤ gap
  wholeMinutes : ∀ window ∈ config.npciRules.peakWindows, window.stop.WholeMinute

/-- The shipped `config/npci_rules.yaml`, under the given profile. -/
def shippedConfig (profile : ProfileName) : AppConfig where
  npciRules := {
    maxRetries := 3
    noticeLeadTime := hours 24
    peakWindows := [
      ⟨.ofHourMinute 10 0, .ofHourMinute 13 0⟩,
      ⟨.ofHourMinute 17 0, .ofHourMinute 21 30⟩]
    afaFreeCeiling := [
      ("default", 1500000), ("insurance", 10000000), ("mutual_fund", 10000000),
      ("credit_card_bill", 10000000)]
  }
  selfImposed := {
    controlObservationWindow := hours 72
    retrySpacing := [hours 0, hours 72, hours 168]
    maxScheduleWindow := hours 48
  }
  profileName := profile
  timeScale := match profile with
    | .prod => 1
    | .demo => 3600
  declineRules := {
    technical := ["bank_server_down", "network_timeout", "upi_timeout", "issuer_unavailable",
      "payment_authorization_failed"]
    business := ["insufficient_funds", "blocked_account", "invalid_mandate",
      "payment_limit_exceeded", "payment_failed"]
    default := .business
  }

theorem shippedConfig_loaded (profile : ProfileName) : (shippedConfig profile).Loaded where
  leadTime := by cases profile <;> decide
  scheduleWindow := by cases profile <;> decide
  spacing := by cases profile <;> decide
  wholeMinutes := by
    intro window member
    simp only [shippedConfig, List.mem_cons, List.not_mem_nil, or_false] at member
    rcases member with rfl | rfl <;> exact TimeOfDay.ofHourMinute_wholeMinute _ _

-----------------------------------------------------------------------------------------
-- Clocks
-----------------------------------------------------------------------------------------

/-- What one call sees of the injected clock: `now i` is the value its `i`-th reading
returns, counted from 0.
-/
structure Clock where
  now : Nat → Datetime
  resolveDelay : Timedelta → Except PyError Timedelta

/-- `timedelta / int`, rounded to the nearest microsecond, ties to even. -/
def divideAndRound (delta : Timedelta) (divisor : Nat) : Timedelta :=
  let q := delta / divisor
  let r := delta % divisor
  if 2 * r < divisor then q
  else if 2 * r = divisor then (if q % 2 = 0 then q else q + 1)
  else q + 1

/-- `RealClock.resolve_delay`: durations pass through unchanged. -/
def RealClock.resolveDelay (delay : Timedelta) : Except PyError Timedelta :=
  if delay < 0 then .error (.valueError "real_delay must not be negative") else .ok delay

/-- `AcceleratedClock.resolve_delay`: durations are divided by the time scale. -/
def AcceleratedClock.resolveDelay (timeScale : Nat) (delay : Timedelta)
    : Except PyError Timedelta :=
  if delay < 0 then .error (.valueError "real_delay must not be negative")
  else .ok (divideAndRound delay timeScale)

/-- A process's clock: the wall-clock readings it makes, one after the other, how many it
has made, and the offset `advance` has accumulated (none for a `RealClock`).
-/
structure ServiceClock where
  timeScale : Option Nat
  wall : Nat → Datetime
  reads : Nat
  offset : Timedelta

namespace ServiceClock

/-- The value the `i`-th reading from here on returns. -/
def reading (clock : ServiceClock) (i : Nat) : Datetime :=
  clock.wall (clock.reads + i) + clock.offset

def resolveDelay (clock : ServiceClock) : Timedelta → Except PyError Timedelta :=
  match clock.timeScale with
  | none => RealClock.resolveDelay
  | some scale => AcceleratedClock.resolveDelay scale

/-- The clock as a call sees it. -/
def view (clock : ServiceClock) : Clock := ⟨clock.reading, clock.resolveDelay⟩

/-- The clock after some readings. -/
def skip (clock : ServiceClock) (n : Nat) : ServiceClock :=
  { clock with reads := clock.reads + n }

/-- `Clock.advance`: only the accelerated clock can be moved. -/
def advance (clock : ServiceClock) (delta : Timedelta) : Except PyError ServiceClock :=
  match clock.timeScale with
  | none => .error (.runtimeError
      "RealClock cannot be advanced — it always reflects wall-clock time")
  | some _ => .ok { clock with offset := clock.offset + delta }

@[simp] theorem view_now (clock : ServiceClock) : clock.view.now = clock.reading := rfl

@[simp] theorem reading_skip (clock : ServiceClock) (n i : Nat)
    : (clock.skip n).reading i = clock.reading (n + i) := by
  simp [reading, skip, Nat.add_assoc]

@[simp] theorem skip_skip (clock : ServiceClock) (m n : Nat)
    : (clock.skip m).skip n = clock.skip (m + n) := by
  simp [skip, Nat.add_assoc]

end ServiceClock

/-- `is_dnd_hour`: 21:00 to 09:00 IST. -/
def isDndHour (now : Datetime) : Bool :=
  decide (75600000000 ≤ (istTime now).micros ∨ (istTime now).micros < 32400000000)

-----------------------------------------------------------------------------------------
-- Decline classification
-----------------------------------------------------------------------------------------

/-- `str.isspace` for one character. -/
def isSpace (c : Char) : Bool :=
  c.toNat ∈ [9, 10, 11, 12, 13, 28, 29, 30, 31, 32, 133, 160, 5760, 8232, 8233, 8239, 8287, 12288]
    || (8192 ≤ c.toNat && c.toNat ≤ 8202)

/-- The text between what is blank at both ends. -/
def stripOf (blank : Char → Bool) (chars : List Char) : List Char :=
  ((chars.dropWhile blank).reverse.dropWhile blank).reverse

/-- `str.strip()`. -/
def strip (text : String) : String := String.ofList (stripOf isSpace text.toList)

/-- `str.lower()`. -/
def lower (text : String) : String := String.ofList (Unicode.lower [] text.toList)

/-- `code.strip().lower() if code else ""`; only text has these methods. -/
def normalizeCode (code : Json) : Except PyError String :=
  if code.truthy then
    match code with
    | .str text => .ok (lower (strip text))
    | _ => .error .attributeError
  else .ok ""

/-- `classify_failure`: the error code decides first, then the error reason; unmapped
codes take the configured default.
-/
def classifyFailure (config : AppConfig) (reasonCode errorReason : Json)
    : Except PyError (DeclineClass × Bool) := do
  let code ← normalizeCode reasonCode
  let reason ← normalizeCode errorReason
  let rules := config.declineRules
  let technical := rules.technical.map lower
  let business := rules.business.map lower
  if code ∈ technical then return (.technical, true)
  if code ∈ business then return (.business, false)
  if reason ∈ technical then return (.technical, true)
  if reason ∈ business then return (.business, false)
  return if rules.default = .technical then (.technical, true) else (.business, false)

/-- Text or a value that counts as absent: what `classify_failure` can normalize. -/
def Json.isCode (code : Json) : Prop := ∃ text, normalizeCode code = .ok text

theorem Json.isCode_str (text : String) : (Json.str text).isCode := by
  unfold isCode normalizeCode
  split <;> exact ⟨_, rfl⟩

theorem Json.isCode_null : Json.null.isCode := ⟨"", rfl⟩

/-- Classification only fails on a code that is neither text nor absent. -/
theorem classifyFailure_ok (config : AppConfig) {reasonCode errorReason : Json}
    (code : reasonCode.isCode) (reason : errorReason.isCode)
    : ∃ verdict, classifyFailure config reasonCode errorReason = .ok verdict := by
  obtain ⟨c, hc⟩ := code
  obtain ⟨r, hr⟩ := reason
  simp only [classifyFailure, hc, hr, bind, Except.bind, pure, Except.pure]
  repeat' split
  all_goals exact ⟨_, rfl⟩

end RecoveryAgent
