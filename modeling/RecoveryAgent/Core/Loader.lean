import RecoveryAgent.Core.Builtins
import RecoveryAgent.Core.Eligibility
import RecoveryAgent.Lib.Ends

/-! Loading the configuration (`load_config` of `app/core/config.py`), and what it leaves to the
state machine.
The loader checks the form of every value it reads. Some of what the state machine relies on is
not a matter of form: an entry in a list, a key in a table, a cap that allows an attempt.
-/

namespace RecoveryAgent

-----------------------------------------------------------------------------------------
-- Values
-----------------------------------------------------------------------------------------

/-- A document as `yaml.safe_load` returns it: plain scalars, and mappings with text keys. -/
abbrev Yaml := Json

/-- The digits before a suffix, as `^(\d+)s$` matches them. The text of no other value than
text matches, so `str(value)` is not spelled out.
-/
def countBefore (suffix : Char) (value : Yaml) : Option (List Nat) := do
  let text ← value.text?
  let last :: digits := (strip text).toList.reverse | none
  if last = suffix then digits? digits.reverse else none

/-- `parse_duration(str(value))`; a duration has at most 999999999 days. The message spells the
value where it is text.
-/
def parseDuration (value : Yaml) : Except PyError Timedelta :=
  match countBefore 'h' value with
  | none =>
      .error (.valueErrorOf "Unsupported duration format: " value.text? " (expected e.g. '72h')")
  | some digits => do
      let n ← intOf digits
      if n ≤ 23999999999 then .ok (hours n) else .error .overflowError

/-- `parse_time_scale(str(value))`. -/
def parseTimeScale (value : Yaml) : Except PyError Nat :=
  match countBefore 'x' value with
  | none =>
      .error
        (.valueErrorOf "Unsupported time_scale format: " value.text? " (expected e.g. '3600x')")
  | some digits => (intOf digits).map Int.toNat

/-- `[01]\d|2[0-3]`. -/
def hour? (tens ones : Char) : Option (Fin 24) := do
  let digits ← digits? [tens, ones]
  let hour := Unicode.number digits
  if tens ∈ ['0', '1'] ∨ tens = '2' ∧ ones ∈ ['0', '1', '2', '3'] then
    if h : hour < 24 then some ⟨hour, h⟩ else none
  else none

/-- `[0-5]\d`. -/
def minute? (tens ones : Char) : Option (Fin 60) := do
  let digits ← digits? [tens, ones]
  let minute := Unicode.number digits
  if tens ∈ ['0', '1', '2', '3', '4', '5'] then
    if h : minute < 60 then some ⟨minute, h⟩ else none
  else none

/-- `HH:MM` in text, as `^([01]\d|2[0-3]):([0-5]\d)$` matches it. -/
def clockTime? (text : String) : Option TimeOfDay :=
  match (strip text).toList with
  | [h, h', ':', m, m'] => do
      let hour ← hour? h h'
      let minute ← minute? m m'
      return .ofHourMinute hour minute
  | _ => none

/-- `parse_clock_time(str(value))`. -/
def parseClockTime (value : Yaml) : Except PyError TimeOfDay :=
  match value.text?.bind clockTime? with
  | some time => .ok time
  | none =>
      .error
        (.valueErrorOf "Unsupported clock time format: " value.text? " (expected e.g. '10:00')")

-----------------------------------------------------------------------------------------
-- The loader
-----------------------------------------------------------------------------------------

/-- The profile as the command line spells it. -/
def ProfileName.name : ProfileName → String
  | .prod => "prod"
  | .demo => "demo"

/-- `SelfImposedPolicy(...)` with the validation of `__post_init__`. -/
def SelfImposedPolicy.create (controlObservationWindow : Timedelta)
    (retrySpacing : List Timedelta) (maxScheduleWindow : Timedelta)
    : Except PyError SelfImposedPolicy :=
  if ∃ gap ∈ retrySpacing, gap < 0 then .error (.valueError "retry spacing cannot be negative")
  else if ∃ gap ∈ retrySpacing.drop 1, gap < hours 24 then
    .error (.valueError "self-imposed retry spacing below safe floor of 24h")
  else .ok { controlObservationWindow, retrySpacing, maxScheduleWindow }

/-- A configuration as it is loaded. The codes of the decline lists are whatever the document
lists; `classify_failure` lower-cases each of them, which only text allows.
-/
structure LoadedConfig where
  config : AppConfig
  readable : Bool
  deriving DecidableEq

/-- `repr` of a sorted list of plain names. -/
def sortedNames (names : List String) : String :=
  let sorted := names.mergeSort fun first second => decide (first ≤ second)
  "[" ++ ", ".intercalate (sorted.map fun name => "'" ++ name ++ "'") ++ "]"

/-- One entry of `peak_windows`. -/
def loadPeakWindow (value : Yaml) : Except PyError PeakWindow := do
  let start ← parseClockTime (← value.item "start")
  let stop ← parseClockTime (← value.item "end")
  return ⟨start, stop⟩

/-- The `npci_rules` section. -/
def loadNpciRules (document : Yaml) : Except PyError NpciRules := do
  let maxRetries ← pyInt (← document.item "max_retries")
  let noticeLeadTime ← parseDuration (← document.item "notice_lead_time")
  let windows ← (← document.get "peak_windows" (.arr [])).iterate
  let peakWindows ← windows.mapM loadPeakWindow
  let ceilings ← (← document.item "afa_free_ceiling").fields
  let afaFreeCeiling ← ceilings.mapM fun (category, ceiling) => do
    return (category, ← pyInt ceiling)
  return { maxRetries, noticeLeadTime, peakWindows, afaFreeCeiling }

/-- The `self_imposed` section. -/
def loadSelfImposed (document : Yaml) : Except PyError SelfImposedPolicy := do
  let controlObservationWindow
    ← parseDuration (← document.get "control_observation_window" (.str "72h"))
  let gaps ← (← document.get "retry_spacing" (.arr [.str "0h", .str "72h", .str "168h"])).iterate
  let retrySpacing ← gaps.mapM parseDuration
  let maxScheduleWindow ← parseDuration (← document.get "max_schedule_window" (.str "48h"))
  SelfImposedPolicy.create controlObservationWindow retrySpacing maxScheduleWindow

/-- The `decline_rules` section, and whether all its codes are text. -/
def loadDeclineRules (document : Yaml) : Except PyError (DeclineRules × Bool) := do
  let name ← document.get "default" (.str "business")
  let default ← match name.text? with
    | some "technical" => pure DefaultClass.technical
    | some "business" => pure DefaultClass.business
    | other => throw (.valueErrorOf "decline_rules.default must be 'technical' or 'business', got "
        other "")
  let technical ← (← document.get "technical" (.arr [])).iterate
  let business ← (← document.get "business" (.arr [])).iterate
  return ({
      technical := technical.filterMap Json.text?
      business := business.filterMap Json.text?
      default },
    (technical ++ business).all fun code => code.text?.isSome)

/-- `load_config` on the parsed document at a path. The advisory rails are not read. -/
def loadConfig (path : String) (profile : ProfileName) (raw : Yaml)
    : Except PyError LoadedConfig := do
  let missing : PyError :=
    .valueError (path ++ " is missing required top-level keys 'npci_rules'/'profiles'")
  if !raw.truthy then throw missing
  if !(← raw.contains "npci_rules") then throw missing
  if !(← raw.contains "profiles") then throw missing
  let profiles ← raw.item "profiles"
  if !(← profiles.contains profile.name) then
    let names ← profiles.iterate
    throw (.valueError ("Unknown profile '" ++ profile.name ++ "'; expected one of "
      ++ sortedNames (names.filterMap Json.text?)))
  let npciRules ← loadNpciRules (← raw.item "npci_rules")
  let selfImposed ← loadSelfImposed (← raw.get "self_imposed" (.obj []))
  let timeScale ← parseTimeScale (← (← profiles.item profile.name).item "time_scale")
  let declineRaw ← raw.get "decline_rules"
  let (declineRules, readable)
    ← loadDeclineRules (if declineRaw.truthy then declineRaw else .obj [])
  return {
    config := { npciRules, selfImposed, profileName := profile, timeScale, declineRules }
    readable
  }

-----------------------------------------------------------------------------------------
-- What the loader makes sure of
-----------------------------------------------------------------------------------------

/-- Digits spell a natural number. -/
theorem intOf_ends (digits : List Nat) : (intOf digits).Ends (0 ≤ ·) fun _ => True := by
  unfold intOf
  split
  · exact trivial
  · exact Int.natCast_nonneg _

/-- A duration is parsed from digits. -/
theorem parseDuration_ends (value : Yaml)
    : (parseDuration value).Ends (0 ≤ ·) fun _ => True := by
  unfold parseDuration
  split
  · exact trivial
  · next digits _ =>
      refine (intOf_ends digits).bind fun n _ natural => ?_
      split
      · show (0 : Timedelta) ≤ hours n
        simp only [hours, Timedelta]
        omega
      · exact trivial

/-- A wall-clock time is parsed from hours and minutes. -/
theorem parseClockTime_ends (value : Yaml)
    : (parseClockTime value).Ends TimeOfDay.WholeMinute fun _ => True := by
  unfold parseClockTime
  split
  · next time found =>
      obtain ⟨text, _, parsed⟩ := Option.bind_eq_some_iff.mp found
      unfold clockTime? at parsed
      split at parsed
      · simp only [bind, Option.bind_eq_some_iff, pure, Option.some.injEq] at parsed
        obtain ⟨hour, _, minute, _, rfl⟩ := parsed
        exact TimeOfDay.ofHourMinute_wholeMinute hour minute
      · cases parsed
  · exact trivial

/-- Access returns anything or raises anything. -/
theorem ends_anything {α : Type} (result : Except PyError α)
    : result.Ends (fun _ => True) fun _ => True := by
  cases result <;> exact trivial

theorem loadPeakWindow_ends (value : Yaml)
    : (loadPeakWindow value).Ends (fun window => window.stop.WholeMinute) fun _ => True := by
  refine (ends_anything _).bind fun start _ _ => ?_
  refine (ends_anything _).bind fun _ _ _ => ?_
  refine (ends_anything _).bind fun stop _ _ => ?_
  exact (parseClockTime_ends stop).bind fun _ _ whole => whole

/-- The rules that are loaded have no negative lead time and whole-minute windows. -/
theorem loadNpciRules_ends (document : Yaml)
    : (loadNpciRules document).Ends
        (fun rules =>
          0 ≤ rules.noticeLeadTime ∧ ∀ window ∈ rules.peakWindows, window.stop.WholeMinute)
        fun _ => True := by
  refine (ends_anything _).bind fun _ _ _ => ?_
  refine (ends_anything _).bind fun maxRetries _ _ => ?_
  refine (ends_anything _).bind fun lead _ _ => ?_
  refine (parseDuration_ends lead).bind fun noticeLeadTime _ legal => ?_
  refine (ends_anything _).bind fun _ _ _ => ?_
  refine (ends_anything _).bind fun windows _ _ => ?_
  refine (Except.Ends.mapM fun window _ => loadPeakWindow_ends window).bind
    fun peakWindows _ whole => ?_
  refine (ends_anything _).bind fun _ _ _ => ?_
  refine (ends_anything _).bind fun ceilings _ _ => ?_
  exact (ends_anything _).bind fun afaFreeCeiling _ _ => ⟨legal, whole⟩

/-- The policy that is loaded has no negative durations, and a day between later attempts. -/
theorem loadSelfImposed_ends (document : Yaml)
    : (loadSelfImposed document).Ends
        (fun policy =>
          0 ≤ policy.maxScheduleWindow
          ∧ (∀ gap ∈ policy.retrySpacing, 0 ≤ gap)
          ∧ ∀ gap ∈ policy.retrySpacing.drop 1, hours 24 ≤ gap)
        fun _ => True := by
  refine (ends_anything _).bind fun _ _ _ => ?_
  refine (ends_anything _).bind fun controlObservationWindow _ _ => ?_
  refine (ends_anything _).bind fun _ _ _ => ?_
  refine (ends_anything _).bind fun gaps _ _ => ?_
  refine (ends_anything _).bind fun retrySpacing _ _ => ?_
  refine (ends_anything _).bind fun window _ _ => ?_
  refine (parseDuration_ends window).bind fun maxScheduleWindow _ legal => ?_
  unfold SelfImposedPolicy.create
  split
  · exact trivial
  next positive =>
  split
  · exact trivial
  next apart =>
  refine ⟨legal, fun gap member => ?_, fun gap member => ?_⟩
  · exact not_lt.mp fun negative => positive ⟨gap, member, negative⟩
  · exact not_lt.mp fun short => apart ⟨gap, member, short⟩

/-- A test that refuses what fails it ends as what follows it. -/
theorem ends_unless {α : Type} {refused : Bool} {raised : PyError} {rest : Except PyError α}
    {returned : α → Prop} (ends : rest.Ends returned fun _ => True)
    : (if refused then throw raised else rest).Ends returned fun _ => True := by
  split
  · exact trivial
  · exact ends

/-- Whatever document is accepted, its configuration has the form the state machine relies on.
-/
theorem loadConfig_loaded {path : String} {profile : ProfileName} {raw : Yaml}
    {loaded : LoadedConfig} (accepted : loadConfig path profile raw = .ok loaded)
    : loaded.config.Loaded := by
  have ends : (loadConfig path profile raw).Ends (·.config.Loaded) fun _ => True := by
    refine ends_unless ?_
    refine (ends_anything _).bind fun _ _ _ => ends_unless ?_
    refine (ends_anything _).bind fun _ _ _ => ends_unless ?_
    refine (ends_anything _).bind fun profiles _ _ => ?_
    refine (ends_anything _).bind fun known _ _ => ?_
    dsimp only
    split
    · exact (ends_anything _).bind fun _ _ _ => trivial
    refine (ends_anything _).bind fun npci _ _ => ?_
    refine (loadNpciRules_ends npci).bind fun npciRules _ rules => ?_
    refine (ends_anything _).bind fun imposed _ _ => ?_
    refine (loadSelfImposed_ends imposed).bind fun selfImposed _ policy => ?_
    refine (ends_anything _).bind fun _ _ _ => ?_
    refine (ends_anything _).bind fun _ _ _ => ?_
    refine (ends_anything _).bind fun timeScale _ _ => ?_
    refine (ends_anything _).bind fun _ _ _ => ?_
    refine (ends_anything _).bind fun _ _ _ => ?_
    exact ⟨rules.1, policy.1, policy.2.1, rules.2⟩
  exact ends.of_ok accepted

/-- The shipped `config/npci_rules.yaml`, with the given spacing, less the rails. -/
def documentWith (spacing : List Yaml) : Yaml := .obj [
  ("npci_rules", .obj [
    ("max_retries", .int 3),
    ("notice_lead_time", .str "24h"),
    ("peak_windows", .arr [
      .obj [("start", .str "10:00"), ("end", .str "13:00")],
      .obj [("start", .str "17:00"), ("end", .str "21:30")]]),
    ("afa_free_ceiling", .obj [
      ("default", .int 1500000), ("insurance", .int 10000000), ("mutual_fund", .int 10000000),
      ("credit_card_bill", .int 10000000)])]),
  ("self_imposed", .obj [
    ("control_observation_window", .str "72h"),
    ("retry_spacing", .arr spacing),
    ("max_schedule_window", .str "48h")]),
  ("profiles", .obj [
    ("prod", .obj [("time_scale", .str "1x")]),
    ("demo", .obj [("time_scale", .str "3600x")])]),
  ("decline_rules", .obj [
    ("technical", .arr [.str "bank_server_down", .str "network_timeout", .str "upi_timeout",
      .str "issuer_unavailable", .str "payment_authorization_failed"]),
    ("business", .arr [.str "insufficient_funds", .str "blocked_account", .str "invalid_mandate",
      .str "payment_limit_exceeded", .str "payment_failed"]),
    ("default", .str "business")])]

/-- The shipped document loads as the shipped configuration. -/
theorem loadConfig_shipped (profile : ProfileName)
    : loadConfig "config/npci_rules.yaml" profile
        (documentWith [.str "0h", .str "72h", .str "168h"])
      = .ok ⟨shippedConfig profile, true⟩ := by
  cases profile <;> decide +kernel

end RecoveryAgent
