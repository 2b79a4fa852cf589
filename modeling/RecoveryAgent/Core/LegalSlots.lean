import RecoveryAgent.Core.FalseAlarms
import RecoveryAgent.Core.TwoClocks

/-! Which slots the scheduler's three parts answer with.
The push out of a window looks at the first window that covers an instant, and at no other. That
is enough where windows are apart; the candidates are then in order, and they are legal unless
the push of the floor itself leaves the schedule window.
-/

namespace RecoveryAgent.StateMachine

-----------------------------------------------------------------------------------------
-- The push out of a window
-----------------------------------------------------------------------------------------

/-- The first window of the list that covers the instant. -/
def FirstCovering (config : AppConfig) (t : Datetime) (window : PeakWindow) : Prop :=
  config.npciRules.peakWindows.find? (fun window => window.covers (istTime t)) = some window

/-- The instant of a wall-clock time on the IST day of another instant. -/
def onDayOf (t : Datetime) (time : TimeOfDay) : Datetime := t - (istTime t).micros + time.micros

/-- Windows that are apart do not cover one time. -/
theorem WindowsApart.unique {config : AppConfig} (apart : WindowsApart config)
    {first second : PeakWindow} (left : first ∈ config.npciRules.peakWindows)
    (right : second ∈ config.npciRules.peakWindows) {time : TimeOfDay}
    (covers : first.covers time) (covers' : second.covers time)
    : first = second := by
  by_contra different
  obtain ⟨begun, unfinished⟩ := covers
  obtain ⟨begun', unfinished'⟩ := covers'
  rcases List.Pairwise.forall apart left right different with earlier | later <;> omega

section Push

variable {config : AppConfig} (loaded : config.Loaded)

include loaded

/-- An instant goes to the end of the first window that covers it, and stays without one. -/
theorem avoidPeakWindows_cases (t : Datetime)
    : (∃ window ∈ config.npciRules.peakWindows,
        FirstCovering config t window ∧ window.covers (istTime t)
        ∧ avoidPeakWindows t config = onDayOf t window.stop)
      ∨ ¬ config.npciRules.inPeak t ∧ avoidPeakWindows t config = t := by
  unfold avoidPeakWindows
  split
  · next window found =>
      have member := List.mem_of_find?_eq_some found
      have covers : window.covers (istTime t) := by simpa using List.find?_some found
      exact .inl ⟨window, member, found, covers,
        replaceIstTime_eq t window.stop (loaded.wholeMinutes window member)⟩
  · next clear =>
      refine .inr ⟨?_, rfl⟩
      rintro ⟨window, member, covers⟩
      exact List.find?_eq_none.mp clear window member (by simpa using covers)

/-- Where windows are apart, the push keeps the order of instants. -/
theorem avoidPeakWindows_mono (apart : WindowsApart config) {first second : Datetime}
    (ordered : first ≤ second)
    : avoidPeakWindows first config ≤ avoidPeakWindows second config := by
  rcases avoidPeakWindows_cases loaded first with ⟨window, member, _, covers, pushed⟩ | ⟨_, same⟩
  swap
  · rw [same]
    exact le_trans ordered (le_avoidPeakWindows loaded second)
  -- nothing between an instant and the end of its window is pushed any less far
  by_cases passed : onDayOf first window.stop ≤ second
  · rw [pushed]
    exact le_trans passed (le_avoidPeakWindows loaded second)
  have inside : window.covers (istTime second) ∧ onDayOf second window.stop
      = onDayOf first window.stop := by
    have left := istTime_micros first
    have right := istTime_micros second
    have within := window.stop.valid
    obtain ⟨begun, unfinished⟩ := covers
    simp only [onDayOf, PeakWindow.covers, Datetime, Timedelta, istOffset] at *
    omega
  rcases avoidPeakWindows_cases loaded second with ⟨other, listed, _, covers', pushed'⟩ | ⟨clear, _⟩
  · rw [pushed, pushed', apart.unique listed member covers' inside.1, inside.2]
  · exact absurd ⟨window, member, inside.1⟩ clear

end Push

/-- Noon in IST, on the day of the epoch. -/
def istNoon : Datetime := minutes 390

/-- The clock resolves legal delays by a function that keeps their order and takes none from
none.
-/
structure Steady (clock : Clock) (resolved : Timedelta → Timedelta) : Prop where
  answers : ∀ delay, 0 ≤ delay → clock.resolveDelay delay = .ok (resolved delay)
  mono : ∀ first second, first ≤ second → resolved first ≤ resolved second
  zero : resolved 0 = 0

/-- Every clock of the service is steady: the real one, and the accelerated one of a scale it
accepts.
-/
theorem steady_view (clock : ServiceClock)
    (positive : ∀ scale, clock.timeScale = some scale → 1 ≤ scale)
    : ∃ resolved, Steady clock.view resolved := by
  obtain ⟨timeScale, wall, reads, offset⟩ := clock
  cases timeScale with
  | none =>
      refine ⟨id, ?_, fun _ _ ordered => ordered, rfl⟩
      intro delay legal
      exact if_neg (not_lt.mpr legal)
  | some scale =>
      refine ⟨fun delay => divideAndRound delay scale, ?_, ?_, divideAndRound_zero scale⟩
      · intro delay legal
        exact if_neg (not_lt.mpr legal)
      · intro first second ordered
        exact divideAndRound_mono (positive scale rfl) ordered

/-- And it never makes a delay longer. -/
theorem resolves_view (clock : ServiceClock)
    (positive : ∀ scale, clock.timeScale = some scale → 1 ≤ scale)
    : Resolves clock.view := by
  intro delay legal
  have forward := forward_view clock
  obtain ⟨timeScale, wall, reads, offset⟩ := clock
  cases timeScale with
  | none =>
      have answers : RealClock.resolveDelay delay = .ok delay := if_neg (not_lt.mpr legal)
      exact ⟨delay, answers, legal, le_rfl⟩
  | some scale =>
      have answers : AcceleratedClock.resolveDelay scale delay = .ok (divideAndRound delay scale) :=
        if_neg (not_lt.mpr legal)
      exact ⟨_, answers, forward delay _ answers, divideAndRound_le (positive scale rfl) legal⟩

/-- What the candidate slots of a floor are for. -/
structure LegalSlots (config : AppConfig) (floor latest : Datetime) (slots : List Datetime)
    : Prop where
  filled : slots ≠ []
  ordered : slots.Pairwise (· ≤ ·)
  within : ∀ slot ∈ slots, floor ≤ slot ∧ slot ≤ latest
  outside : ∀ slot ∈ slots, ¬ config.npciRules.inPeak slot

section Candidates

variable {config : AppConfig} {clock : Clock} {resolved : Timedelta → Timedelta}
  {floor latest : Datetime}

/-- The slot of an offset: the floor moved on by it, and out of the windows. -/
def slotAt (config : AppConfig) (resolved : Timedelta → Timedelta) (floor : Datetime)
    (offset : Int)
    : Datetime :=
  avoidPeakWindows (floor + resolved (hours offset)) config

theorem slotAt_zero (steady : Steady clock resolved)
    : slotAt config resolved floor 0 = avoidPeakWindows floor config := by
  have none : hours 0 = 0 := by decide
  simp [slotAt, none, steady.zero]

/-- A later offset never has an earlier slot. -/
theorem slotAt_mono (loaded : config.Loaded) (apart : WindowsApart config)
    (steady : Steady clock resolved) {first second : Int} (ordered : first ≤ second)
    : slotAt config resolved floor first ≤ slotAt config resolved floor second := by
  have delays : hours first ≤ hours second := by
    simp only [hours, Timedelta]
    omega
  have later := steady.mono _ _ delays
  exact avoidPeakWindows_mono loaded apart (by linarith)

/-- The offset loop keeps the slots up to the latest instant, by induction over the offsets. -/
theorem candidatesAt_steady (loaded : config.Loaded) (steady : Steady clock resolved)
    {offsets : List Int} (legal : ∀ offset ∈ offsets, 0 ≤ offset) {slots : List Datetime}
    (generated : candidatesAt floor latest config clock offsets = .ok slots)
    : slots = (offsets.map (slotAt config resolved floor)).filter (· ≤ latest) := by
  induction offsets generalizing slots with
  | nil => cases generated; rfl
  | cons offset rest ih =>
      obtain ⟨delay, others, reached, tail, rfl⟩ := candidatesAt_cons_iff.mp generated
      have later := ih (fun offset member => legal offset (by simp [member])) tail
      have here := steady.answers (hours offset) (hours_mono (legal offset (by simp)))
      cases here.symm.trans reached.resolved
      have pushed := le_avoidPeakWindows loaded (floor + resolved (hours offset))
      simp only [later, slotAt, List.map_cons, List.filter_cons]
      by_cases fits : avoidPeakWindows (floor + resolved (hours offset)) config ≤ latest
      · simp [fits, le_trans pushed fits]
      · simp [fits]

/-- The slots of offsets that are in order, kept up to the latest instant, are legal exactly if
the slot of the floor itself is: it is the first of them, and the others are later.
-/
theorem slots_legal_iff (loaded : config.Loaded) (apart : WindowsApart config)
    (steady : Steady clock resolved)
    : let slots := (candidateOffsets.map (slotAt config resolved floor)).filter (· ≤ latest)
      LegalSlots config floor latest
          (if slots.isEmpty then [avoidPeakWindows floor config] else slots)
        ↔ avoidPeakWindows floor config ≤ latest := by
  intro slots
  have first := @slotAt_zero config clock resolved floor steady
  have sorted : candidateOffsets.Pairwise (· ≤ ·) := by decide
  have ordered : (candidateOffsets.map (slotAt config resolved floor)).Pairwise (· ≤ ·) :=
    List.pairwise_map.mpr (sorted.imp fun before => slotAt_mono loaded apart steady before)
  have above : ∀ slot ∈ candidateOffsets.map (slotAt config resolved floor),
      avoidPeakWindows floor config ≤ slot := by
    intro slot member
    obtain ⟨offset, offered, rfl⟩ := List.mem_map.mp member
    rw [← first]
    exact slotAt_mono loaded apart steady (candidateOffsets_nonneg offered)
  by_cases fits : avoidPeakWindows floor config ≤ latest
  · refine iff_of_true ?_ fits
    have kept : avoidPeakWindows floor config ∈ slots := by
      refine List.mem_filter.mpr ⟨?_, by simpa using fits⟩
      exact List.mem_map.mpr ⟨0, by decide, first⟩
    rw [if_neg (by simpa using List.ne_nil_of_mem kept)]
    refine ⟨List.ne_nil_of_mem kept, ordered.filter _, ?_, ?_⟩
    · intro slot member
      obtain ⟨offered, bounded⟩ := List.mem_filter.mp member
      exact ⟨le_trans (le_avoidPeakWindows loaded floor) (above slot offered),
        by simpa using bounded⟩
    · intro slot member
      obtain ⟨offset, _, rfl⟩ := List.mem_map.mp (List.mem_filter.mp member).1
      exact avoidPeakWindows_outside loaded apart _
  · refine iff_of_false ?_ fits
    have dropped : slots = [] := by
      refine List.filter_eq_nil_iff.mpr fun slot member => ?_
      have later := above slot member
      simp only [decide_eq_true_eq]
      exact fun bounded => fits (le_trans later bounded)
    rw [dropped]
    intro legal
    exact fits (legal.within (avoidPeakWindows floor config) (by simp)).2

/-- The candidates are legal exactly if the instants of all offsets are in the calendar and the
slot of the floor itself is not after the latest instant.
-/
theorem generateLegalCandidates_legal (loaded : config.Loaded) (apart : WindowsApart config)
    (steady : Steady clock resolved) (ordered : floor ≤ latest)
    : (∃ slots,
        generateLegalCandidates floor latest config clock = .ok slots
        ∧ LegalSlots config floor latest slots)
      ↔ (∀ offset ∈ candidateOffsets, ∃ delay, OffsetReached clock floor latest offset delay)
        ∧ avoidPeakWindows floor config ≤ latest := by
  by_cases reached
    : ∀ offset ∈ candidateOffsets, ∃ delay, OffsetReached clock floor latest offset delay
  swap
  · refine iff_of_false ?_ fun legal => reached legal.1
    rintro ⟨slots, generated, _⟩
    exact reached (generateLegalCandidates_reached generated)
  obtain ⟨slots, found⟩ := (@candidatesAt_ok_iff config clock floor latest _).mpr reached
  obtain rfl := candidatesAt_steady loaded steady
    (fun offset member => candidateOffsets_nonneg member) found
  have pushed : pushOut floor config = .ok (avoidPeakWindows floor config) := by
    obtain ⟨delay, start⟩ := reached 0 (by decide)
    have none : clock.resolveDelay (hours 0) = .ok 0 := by
      have answer := steady.answers (hours 0) (by decide)
      rwa [show hours 0 = 0 by decide, steady.zero] at answer
    cases none.symm.trans start.resolved
    have converted := start.converted (by rwa [add_zero])
    rw [add_zero] at converted
    exact pushOut_eq_ok.mpr ⟨converted, rfl⟩
  have listed : candidateOffsets = [0, 12, 24, 48, 72] := rfl
  have generated
      : generateLegalCandidates floor latest config clock
        = .ok (if ((candidateOffsets.map (slotAt config resolved floor)).filter
              (· ≤ latest)).isEmpty then [avoidPeakWindows floor config]
            else (candidateOffsets.map (slotAt config resolved floor)).filter (· ≤ latest)) := by
    rw [generateLegalCandidates, ← listed, found]
    simp only [pushed, bind, Except.bind, pure, Except.pure]
    split <;> rfl
  rw [and_iff_right reached, generated]
  refine Iff.trans ?_ (slots_legal_iff loaded apart steady)
  simp

/-- The candidates of a floor are legal exactly if the instants of all offsets are in the calendar
and the window that covers the floor, if any, ends within the schedule window from it.
-/
theorem generateLegalCandidates_legal_iff (loaded : config.Loaded) (apart : WindowsApart config)
    (serviceClock : ServiceClock)
    (positive : ∀ scale, serviceClock.timeScale = some scale → 1 ≤ scale) (floor : Datetime)
    : (∃ slots,
        generateLegalCandidates floor (floor + config.selfImposed.maxScheduleWindow) config
            serviceClock.view
          = .ok slots
        ∧ LegalSlots config floor (floor + config.selfImposed.maxScheduleWindow) slots)
      ↔ (∀ offset ∈ candidateOffsets,
          ∃ delay,
            OffsetReached serviceClock.view floor (floor + config.selfImposed.maxScheduleWindow)
              offset delay)
        ∧ ∀ window ∈ config.npciRules.peakWindows,
            window.covers (istTime floor)
            → (window.stop.micros : Int) - (istTime floor).micros
              ≤ config.selfImposed.maxScheduleWindow := by
  obtain ⟨resolved, steady⟩ := steady_view serviceClock positive
  rw [generateLegalCandidates_legal loaded apart steady
    (le_add_of_nonneg_right loaded.scheduleWindow)]
  refine and_congr_right fun _ => ?_
  rcases avoidPeakWindows_cases loaded floor with
    ⟨window, member, _, covers, pushed⟩ | ⟨clear, same⟩
  · have reaches
        : onDayOf floor window.stop ≤ floor + config.selfImposed.maxScheduleWindow
          ↔ (window.stop.micros : Int) - (istTime floor).micros
            ≤ config.selfImposed.maxScheduleWindow := by
      simp only [onDayOf, Datetime, Timedelta]
      omega
    rw [pushed, reaches]
    constructor
    · intro ends other listed covers'
      rw [apart.unique listed member covers' covers]
      exact ends
    · exact fun ends => ends window member covers
  · have window := loaded.scheduleWindow
    rw [same]
    refine iff_of_true (by linarith) fun window member covers => ?_
    exact absurd ⟨window, member, covers⟩ clear

end Candidates

/-- A demo clock that stands at the epoch. -/
def epochClock : ServiceClock := ⟨some 3600, fun _ => 0, 0, 0⟩

theorem generateLegalCandidates_legal_iff_noon
    : (∃ slots,
        generateLegalCandidates istNoon (istNoon + hours 48) (shippedConfig .demo) epochClock.view
          = .ok slots
        ∧ LegalSlots (shippedConfig .demo) istNoon (istNoon + hours 48) slots)
      ↔ (∀ offset ∈ candidateOffsets,
          ∃ delay, OffsetReached epochClock.view istNoon (istNoon + hours 48) offset delay)
        ∧ ∀ window ∈ (shippedConfig .demo).npciRules.peakWindows,
            window.covers (istTime istNoon)
            → (window.stop.micros : Int) - (istTime istNoon).micros ≤ hours 48 :=
  generateLegalCandidates_legal_iff (shippedConfig_loaded .demo) (shippedConfig_apart .demo)
    epochClock (by rintro _ ⟨⟩; decide) istNoon

/-- The shipped configuration with a schedule window of no length. -/
def promptConfig : AppConfig :=
  { shippedConfig .demo with
    selfImposed := { (shippedConfig .demo).selfImposed with maxScheduleWindow := hours 0 } }

theorem promptConfig_loaded : promptConfig.Loaded where
  leadTime := (shippedConfig_loaded .demo).leadTime
  scheduleWindow := by decide
  spacing := (shippedConfig_loaded .demo).spacing
  wholeMinutes := (shippedConfig_loaded .demo).wholeMinutes

/-- The one candidate of a floor at noon is the end of the window, past the latest instant. -/
theorem generateLegalCandidates_past_latest
    : promptConfig.Loaded ∧ WindowsApart promptConfig
      ∧ ¬ ∃ slots,
          generateLegalCandidates istNoon
              (istNoon + promptConfig.selfImposed.maxScheduleWindow) promptConfig epochClock.view
            = .ok slots
          ∧ LegalSlots promptConfig istNoon
              (istNoon + promptConfig.selfImposed.maxScheduleWindow) slots := by
  refine ⟨promptConfig_loaded, shippedConfig_apart .demo, ?_⟩
  rintro ⟨slots, generated, legal⟩
  have only : generateLegalCandidates istNoon
        (istNoon + promptConfig.selfImposed.maxScheduleWindow) promptConfig epochClock.view
      = .ok [istNoon + hours 1] := by
    decide +kernel
  cases only.symm.trans generated
  exact absurd (legal.within _ (List.mem_singleton_self _)).2 (by decide)

-----------------------------------------------------------------------------------------
-- The floors of the schedule
-----------------------------------------------------------------------------------------

/-- A slot that keeps every floor: it is after the lead time and after the spacing, and in no
window.
-/
structure LegalSlot (config : AppConfig) (now : Datetime) (previous : Option Datetime)
    (spacing : Timedelta) (scheduled : Datetime)
    : Prop where
  notice : now + config.npciRules.noticeLeadTime ≤ scheduled
  spaced : previous.getD now + spacing ≤ scheduled
  outside : ¬ config.npciRules.inPeak scheduled

/-- The scheduler keeps every floor: on a clock that passes durations through, with windows that
are apart, it answers with a legal slot, or raises because the schedule leaves the calendar.
-/
theorem computeScheduledAt_legal {config : AppConfig} (loaded : config.Loaded)
    (apart : WindowsApart config) (listed : config.selfImposed.retrySpacing ≠ []) {clock : Clock}
    (identity : Identity clock) (resolves : Resolves clock) (retriesUsed : Nat)
    (reasonCode : Option String) (previous : Option Datetime) {bandit : Option Suggest}
    (picks : ∀ suggest, bandit = some suggest → Picks suggest)
    : ∃ spacing,
        config.selfImposed.spacing? retriesUsed = some spacing
        ∧ ((∃ scheduled reasoning,
              computeScheduledAt retriesUsed reasonCode config clock previous bandit
                = .ok (scheduled, reasoning)
              ∧ LegalSlot config (clock.now 0) previous spacing scheduled)
          ∨ computeScheduledAt retriesUsed reasonCode config clock previous bandit
                = .error .overflowError
            ∧ ¬ InCalendar config
                (floorAt (clock.now 0) config.npciRules.noticeLeadTime spacing previous)) := by
  obtain ⟨spacing, entry⟩ := config.selfImposed.spacing?_isSome listed retriesUsed
  refine ⟨spacing, entry, ?_⟩
  cases computed : computeScheduledAt retriesUsed reasonCode config clock previous bandit with
  | ok answer =>
      obtain ⟨scheduled, reasoning⟩ := answer
      obtain ⟨spacing', entry', moved⟩ := computeScheduledAt_moved loaded identity computed
      cases entry.symm.trans entry'
      have above := moved.floor loaded
      obtain ⟨t, rfl, _⟩ := moved
      exact .inl ⟨_, reasoning, rfl, {
        notice := le_trans (le_max_left _ _) above
        spaced := le_trans (le_max_right _ _) above
        outside := avoidPeakWindows_outside loaded apart t
      }⟩
  | error raised =>
      have quiet (delay : Timedelta) (legal : 0 ≤ delay)
          : (clock.resolveDelay delay).RaisesOnly (· = .overflowError) := by
        obtain ⟨resolved, answers, _⟩ := resolves delay legal
        rw [answers]
        exact trivial
      have only := @computeScheduledAt_raises (· = .overflowError) rfl config clock loaded
        retriesUsed spacing entry quiet reasonCode previous bandit
        fun suggest given candidates filled => by
          obtain ⟨chosen, member, suggested⟩ := picks suggest given candidates filled
          rw [suggested]
          exact .inl member
      obtain rfl := only.of_error computed
      refine .inr ⟨rfl, fun calendar => ?_⟩
      obtain ⟨scheduled, reasoning, answered, _⟩ := computeScheduledAt_total loaded resolves entry
        reasonCode picks calendar
      cases computed.symm.trans answered

/-- The second retry of a case, by a bandit that picks the first candidate. -/
theorem computeScheduledAt_legal_second
    : ∃ spacing scheduled reasoning,
        (shippedConfig .demo).selfImposed.spacing? 1 = some spacing
        ∧ computeScheduledAt 1 (some "insufficient_funds") (shippedConfig .demo)
            (stoppedClock (hours 12)) (some 0) (some (atPosition 0))
          = .ok (scheduled, reasoning)
        ∧ LegalSlot (shippedConfig .demo) (hours 12) (some 0) spacing scheduled := by
  have picks : ∀ suggest, some (atPosition 0) = some suggest → Picks suggest := by
    rintro _ ⟨⟩ (_ | ⟨first, rest⟩) filled
    · contradiction
    · exact ⟨first, List.mem_cons_self, rfl⟩
  obtain ⟨spacing, entry, outcome⟩ := computeScheduledAt_legal (shippedConfig_loaded .demo)
    (shippedConfig_apart .demo) (by decide) (stoppedClock_identity (hours 12))
    (stoppedClock_resolves _) 1 (some "insufficient_funds") (some 0) picks
  rcases outcome with ⟨scheduled, reasoning, computed, legal⟩ | ⟨raised, _⟩
  · exact ⟨spacing, scheduled, reasoning, entry, computed, legal⟩
  · have answers
        : computeScheduledAt 1 (some "insufficient_funds") (shippedConfig .demo)
            (stoppedClock (hours 12)) (some 0) (some (atPosition 0))
          ≠ .error .overflowError := by
      decide +kernel
    exact absurd raised answers

/-- The scheduler does not always answer: a schedule window of 100000000 hours leads past the
year 9999.
-/
theorem computeScheduledAt_overflows
    : (wideConfig .prod).Loaded ∧ WindowsApart (wideConfig .prod)
      ∧ (wideConfig .prod).selfImposed.retrySpacing ≠ []
      ∧ Identity (stoppedClock 0) ∧ Resolves (stoppedClock 0)
      ∧ ¬ ∃ scheduled reasoning,
          computeScheduledAt 0 none (wideConfig .prod) (stoppedClock 0) none none
            = .ok (scheduled, reasoning) := by
  refine ⟨wideConfig_loaded .prod, shippedConfig_apart .prod, by decide, stoppedClock_identity 0,
    stoppedClock_resolves 0, ?_⟩
  rintro ⟨scheduled, reasoning, answered⟩
  have raised
      : computeScheduledAt 0 none (wideConfig .prod) (stoppedClock 0) none none
        = .error .overflowError := by
    decide +kernel
  cases raised.symm.trans answered

end RecoveryAgent.StateMachine
