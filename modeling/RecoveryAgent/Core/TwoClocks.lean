import RecoveryAgent.Core.RetryCap

/-! The same notice under a real clock and under an accelerated one.
The demo is meant to be the production schedule divided by the time scale. Durations that are
resolved by the clock are, but the schedule window is not, and a bandit picks instants whose
floor was added unscaled.
-/

namespace RecoveryAgent

section Rounding

variable {k : Nat}

/-- The rounded quotient is the quotient or its successor. -/
theorem divideAndRound_cases (delta : Int) (k : Nat)
    : (divideAndRound delta k = delta / (k : Int) ∧ 2 * (delta % (k : Int)) ≤ k)
      ∨ (divideAndRound delta k = delta / (k : Int) + 1 ∧ (k : Int) ≤ 2 * (delta % (k : Int))) := by
  unfold divideAndRound
  simp only [Timedelta]
  split
  · exact .inl ⟨rfl, by omega⟩
  split
  · split
    · exact .inl ⟨rfl, by omega⟩
    · exact .inr ⟨rfl, by omega⟩
  · exact .inr ⟨rfl, by omega⟩

/-- It is within one half of the exact one. -/
theorem divideAndRound_bounds (delta : Int) (positive : 1 ≤ k)
    : 2 * ((k : Int) * divideAndRound delta k) ≤ 2 * delta + k
      ∧ 2 * delta ≤ 2 * ((k : Int) * divideAndRound delta k) + k := by
  have split := Int.mul_ediv_add_emod delta k
  rcases divideAndRound_cases delta k with ⟨rounded, half⟩ | ⟨rounded, half⟩
  · rw [rounded]
    have low := Int.emod_nonneg delta (show (k : Int) ≠ 0 by omega)
    constructor <;> linarith
  · rw [rounded, mul_add]
    have high := Int.emod_lt_of_pos delta (show (0 : Int) < k by omega)
    constructor <;> linarith

/-- Rounding keeps the order. -/
theorem divideAndRound_mono (positive : 1 ≤ k) {first second : Int} (ordered : first ≤ second)
    : divideAndRound first k ≤ divideAndRound second k := by
  have quotients : first / (k : Int) ≤ second / (k : Int) :=
    Int.ediv_le_ediv (by omega) ordered
  by_cases same : first / (k : Int) = second / (k : Int)
  · have remainders : first % (k : Int) ≤ second % (k : Int) := by
      rw [Int.emod_def, Int.emod_def, same]
      linarith
    unfold divideAndRound
    simp only [Timedelta, same]
    repeat' split
    all_goals omega
  · rcases divideAndRound_cases first k with ⟨low, _⟩ | ⟨low, _⟩ <;>
      rcases divideAndRound_cases second k with ⟨high, _⟩ | ⟨high, _⟩ <;>
      simp only [Timedelta] at * <;> omega

/-- A scale of one changes nothing. -/
@[simp] theorem divideAndRound_one (delta : Int) : divideAndRound delta 1 = delta := by
  simp [divideAndRound]

@[simp] theorem divideAndRound_zero (k : Nat) : divideAndRound 0 k = 0 := by
  rcases Nat.eq_zero_or_pos k with rfl | positive
  · simp [divideAndRound]
  · simp [divideAndRound, positive]

/-- Scaling never lengthens a legal duration. -/
theorem divideAndRound_le (positive : 1 ≤ k) {delta : Int} (legal : 0 ≤ delta)
    : divideAndRound delta k ≤ delta := by
  have split := Int.mul_ediv_add_emod delta k
  have low := Int.emod_nonneg delta (show (k : Int) ≠ 0 by omega)
  have quotient : 0 ≤ delta / (k : Int) := Int.ediv_nonneg legal (by omega)
  have scaled : delta / (k : Int) ≤ k * (delta / k) := by nlinarith
  rcases divideAndRound_cases delta k with ⟨rounded, half⟩ | ⟨rounded, half⟩
  · rw [rounded]
    linarith
  · have positive_rest : 1 ≤ delta % (k : Int) := by omega
    rw [rounded]
    linarith

/-- A delay that is added unscaled to an even duration is not scaled with it, unless nothing is
scaled, there is no delay, or it is of one microsecond. Witness: the rounding error of the two
quotients is below what the delay loses by scaling.
-/
theorem divideAndRound_shift {delay offset : Int} (positive : 1 ≤ k) (even : offset % 2 = 0)
    (legal : 0 ≤ delay)
    (same : divideAndRound (delay + offset) k = delay + divideAndRound offset k)
    : k = 1 ∨ delay = 0 ∨ delay = 1 := by
  by_contra other
  simp only [not_or] at other
  obtain ⟨scaled, delayed, long⟩ := other
  have two : (2 : Int) ≤ k := by omega
  have longer : 2 ≤ delay := by omega
  obtain ⟨upper, _⟩ := divideAndRound_bounds (delay + offset) positive
  obtain ⟨_, lower⟩ := divideAndRound_bounds offset positive
  rw [same, mul_add] at upper
  have product : k * delay ≤ delay + k := by linarith
  have bound : (k : Int) = 2 ∧ delay = 2 := by
    constructor <;> nlinarith
  obtain ⟨halved, rfl⟩ := bound
  have halved : k = 2 := by omega
  subst halved
  simp only [divideAndRound, Timedelta] at same
  push_cast at same
  repeat' split at same
  all_goals omega

end Rounding

namespace StateMachine

-----------------------------------------------------------------------------------------
-- The candidate slots
-----------------------------------------------------------------------------------------

/-- An accelerated clock that stands at one instant. -/
def acceleratedClock (k : Nat) (t : Datetime) : Clock :=
  ⟨fun _ => t, AcceleratedClock.resolveDelay k⟩

/-- A real clock is an accelerated one of scale one. -/
theorem stoppedClock_eq (t : Datetime) : stoppedClock t = acceleratedClock 1 t := by
  have same : RealClock.resolveDelay = AcceleratedClock.resolveDelay 1 := by
    funext delay
    simp [RealClock.resolveDelay, AcceleratedClock.resolveDelay]
  simp only [stoppedClock, acceleratedClock, same]

/-- The offsets of `_generate_legal_candidates`, in hours. -/
def candidateOffsets : List Int := [0, 12, 24, 48, 72]

/-- The offsets that a clock of the scale fits into the schedule window. -/
def fitting (k : Nat) (window : Timedelta) : List Int :=
  candidateOffsets.filter fun offset => divideAndRound (hours offset) k ≤ window

/-- The slots `_compute_scheduled_at` chooses from. -/
def candidateSlots (retriesUsed : Nat) (config : AppConfig) (clock : Clock)
    (previous : Option Datetime)
    : Except PyError (List Datetime) := do
  let some spacing := config.selfImposed.spacing? retriesUsed | .error .indexError
  let floor := floorAt (clock.now 0) config.npciRules.noticeLeadTime spacing previous
  generateLegalCandidates floor (floor + config.selfImposed.maxScheduleWindow) config clock

/-- What a downward closed test keeps of an ordered list is where it was. -/
theorem getElem?_of_filter {α : Type} {keep : α → Bool} {items : List α} {i : Nat} {item : α}
    (closed : items.Pairwise fun earlier later => keep later → keep earlier)
    (found : (items.filter keep)[i]? = some item)
    : items[i]? = some item := by
  induction items generalizing i with
  | nil => simp at found
  | cons head tail ih =>
      obtain ⟨first, later⟩ := List.pairwise_cons.mp closed
      by_cases kept : keep head
      · rw [List.filter_cons_of_pos kept] at found
        cases i with
        | zero => exact found
        | succ i => exact ih later found
      · -- nothing after a refused head is kept
        rw [List.filter_cons_of_neg kept] at found
        obtain ⟨member, kept'⟩ := List.mem_filter.mp (List.mem_of_getElem? found)
        exact absurd (first item member kept') kept

section Slots

variable {config : AppConfig} {k : Nat} {now floor : Datetime} {window : Timedelta}

/-- Every offset is one of those tried, and is legal. -/
theorem candidateOffsets_nonneg {offset : Int} (member : offset ∈ candidateOffsets)
    : 0 ≤ offset := by
  simp only [candidateOffsets, List.mem_cons, List.not_mem_nil, or_false] at member
  omega

theorem hours_mono {first second : Int} (ordered : first ≤ second)
    : hours first ≤ hours second := by
  simp only [hours, Timedelta]
  omega

/-- The offsets that fit are tried in the same positions. -/
theorem fitting_getElem? (positive : 1 ≤ k) {p : Nat} {offset : Int}
    (found : (fitting k window)[p]? = some offset)
    : candidateOffsets[p]? = some offset := by
  refine getElem?_of_filter ?_ found
  have ordered : candidateOffsets.Pairwise (· ≤ ·) := by decide
  refine ordered.imp fun {earlier later} before fits => ?_
  have scaled := divideAndRound_mono positive (hours_mono before)
  exact decide_eq_true (le_trans scaled (of_decide_eq_true fits))

/-- What fits unscaled fits scaled. -/
theorem fitting_sublist (positive : 1 ≤ k)
    : (fitting 1 window).Sublist (fitting k window) := by
  have kept : (fitting k window).filter (fun offset => divideAndRound (hours offset) 1 ≤ window)
      = fitting 1 window := by
    rw [fitting, List.filter_filter]
    refine List.filter_congr fun offset member => ?_
    have scaled := divideAndRound_le positive (hours_mono (candidateOffsets_nonneg member))
    simp only [divideAndRound_one, Bool.and_eq_left_iff_imp, decide_eq_true_eq]
    exact fun fits => le_trans scaled fits
  exact kept ▸ List.filter_sublist

/-- As many offsets fit scaled as unscaled exactly when none fits only scaled. -/
theorem fitting_length_iff (positive : 1 ≤ k)
    : (fitting k window).length = (fitting 1 window).length
      ↔ ∀ offset ∈ candidateOffsets,
          divideAndRound (hours offset) k ≤ window → hours offset ≤ window := by
  constructor
  · intro same offset member fits
    have equal := (fitting_sublist positive).eq_of_length same.symm
    have scaled : offset ∈ fitting k window :=
      List.mem_filter.mpr ⟨member, decide_eq_true fits⟩
    rw [← equal] at scaled
    simpa using (List.mem_filter.mp scaled).2
  · intro unscaled
    have equal : fitting k window = fitting 1 window := by
      refine List.filter_congr fun offset member => decide_eq_decide.mpr ?_
      have scaled := divideAndRound_le positive (hours_mono (candidateOffsets_nonneg member))
      rw [divideAndRound_one]
      exact ⟨unscaled offset member, fun fits => le_trans scaled fits⟩
    rw [equal]

/-- Without windows nothing is pushed. -/
theorem avoidPeakWindows_unblocked (unblocked : config.npciRules.peakWindows = [])
    (t : Datetime)
    : avoidPeakWindows t config = t := by
  simp [avoidPeakWindows, unblocked]

theorem acceleratedClock_resolves {delay : Timedelta} (legal : 0 ≤ delay)
    : (acceleratedClock k now).resolveDelay delay = .ok (divideAndRound delay k) :=
  if_neg (not_lt.mpr legal)

/-- The offset loop keeps the offsets that fit, by induction over them. -/
theorem candidatesAt_accelerated (unblocked : config.npciRules.peakWindows = [])
    {offsets : List Int} (legal : ∀ offset ∈ offsets, 0 ≤ offset) {slots : List Datetime}
    (generated
      : candidatesAt floor (floor + window) config (acceleratedClock k now) offsets = .ok slots)
    : slots
      = (offsets.filter fun offset => divideAndRound (hours offset) k ≤ window).map
          fun offset => floor + divideAndRound (hours offset) k := by
  induction offsets generalizing slots with
  | nil => cases generated; rfl
  | cons offset rest ih =>
      obtain ⟨delay, others, reached, tail, rfl⟩ := candidatesAt_cons_iff.mp generated
      have later := ih (fun offset member => legal offset (by simp [member])) tail
      have resolved := @acceleratedClock_resolves k now (hours offset)
        (hours_mono (legal offset (by simp)))
      cases resolved.symm.trans reached.resolved
      simp only [avoidPeakWindows_unblocked unblocked, and_self, add_le_add_iff_left,
        List.filter_cons, later]
      by_cases fits : divideAndRound (hours offset) k ≤ window
      · simp [fits]
      · simp [fits]

/-- The clock of the scale reaches the instants of all offsets. -/
def AllReached (k : Nat) (now floor : Datetime) (window : Timedelta) : Prop :=
  ∀ offset ∈ candidateOffsets,
    ∃ delay, OffsetReached (acceleratedClock k now) floor (floor + window) offset delay

/-- What a real clock reaches, an accelerated one does: of a scale of two or more, all its
offsets are within 60 hours, and the time for IST is left up to the longest of the real ones.
-/
theorem AllReached.accelerate (reached : AllReached 1 now floor window) (positive : 1 ≤ k)
    : AllReached k now floor window := by
  by_cases real : k = 1
  · exact real ▸ reached
  intro offset offered
  have bounds : 0 ≤ offset ∧ offset ≤ 72 := by
    simp only [candidateOffsets, List.mem_cons, List.not_mem_nil, or_false] at offered
    omega
  obtain ⟨longest, last⟩ := reached 72 (by decide)
  have resolved := @acceleratedClock_resolves 1 now (hours 72) (by decide)
  rw [divideAndRound_one] at resolved
  cases resolved.symm.trans last.resolved
  have room := (reaches_iff (show 0 ≤ hours 72 by decide)).mp last.candidate
  have legal : 0 ≤ hours offset := hours_mono bounds.1
  have low : 0 ≤ divideAndRound (hours offset) k := by
    have scaled := @divideAndRound_mono k positive 0 (hours offset) legal
    rwa [divideAndRound_zero] at scaled
  have short : divideAndRound (hours offset) k ≤ hours 60 := by
    have scaled := (divideAndRound_bounds (hours offset) positive).1
    have below : hours offset ≤ hours 72 := hours_mono bounds.2
    have two : (2 : Int) ≤ k := by omega
    simp only [hours, Timedelta] at *
    by_contra longer
    nlinarith
  have room' : hours 60 + istOffset ≤ hours 72 := by decide
  have ahead : 0 ≤ istOffset := by decide
  refine ⟨_, acceleratedClock_resolves legal, (reaches_iff low).mpr ?_, fun _ =>
    (reaches_iff ahead).mpr ?_⟩
  · linarith
  · linarith

/-- The candidates are the floor moved on by the offsets that fit; the floor always fits. -/
theorem generateLegalCandidates_accelerated (unblocked : config.npciRules.peakWindows = [])
    (legal : 0 ≤ window) (reached : AllReached k now floor window)
    : generateLegalCandidates floor (floor + window) config (acceleratedClock k now)
      = .ok ((fitting k window).map fun offset => floor + divideAndRound (hours offset) k) := by
  have first : (0 : Int) ∈ fitting k window :=
    List.mem_filter.mpr ⟨by decide, by simpa [hours] using legal⟩
  have filled : fitting k window ≠ [] := List.ne_nil_of_mem first
  have listed : candidateOffsets = [0, 12, 24, 48, 72] := rfl
  obtain ⟨slots, generated⟩ := (@candidatesAt_ok_iff config _ _ _ _).mpr reached
  have kept := candidatesAt_accelerated unblocked
    (fun offset member => candidateOffsets_nonneg member) generated
  rw [listed] at generated
  simp only [generateLegalCandidates, generated, bind, Except.bind, pure, Except.pure]
  rw [if_neg]
  · rw [kept]
    rfl
  · rw [kept]
    simpa [fitting] using filled

end Slots

-----------------------------------------------------------------------------------------
-- The chosen slot
-----------------------------------------------------------------------------------------

/-- A bandit that picks the candidate at a position of the list it is handed. -/
def atPosition (position : Nat) : Suggest := fun candidates =>
  match candidates[position]? with
  | some candidate => .ok candidate
  | none => .error .indexError

section Slot

variable {config : AppConfig} {k : Nat} {now floor slot : Datetime} {reasonCode : Option String}

/-- Without a bandit the whole delay of a real clock's slot is resolved by an accelerated one. -/
theorem chosen_none_accelerate (loaded : config.Loaded)
    (unblocked : config.npciRules.peakWindows = []) (ahead : now ≤ floor) (positive : 1 ≤ k)
    (chosen
      : Chosen config (acceleratedClock 1 now) reasonCode floor
          (floor + config.selfImposed.maxScheduleWindow) slot none)
    (reached : AllReached k now floor config.selfImposed.maxScheduleWindow)
    : Chosen config (acceleratedClock k now) reasonCode floor
        (floor + config.selfImposed.maxScheduleWindow)
        (now + divideAndRound (slot - now) k) none := by
  cases chosen with
  | @fallback _ target delay generated aimed resolved within moved =>
      have window := loaded.scheduleWindow
      have above := (fallbackTarget_bounds (le_add_of_nonneg_right window) aimed).1
      have legal : 0 ≤ target - now := by linarith
      have real := @acceleratedClock_resolves 1 now (target - now) legal
      rw [divideAndRound_one] at real
      cases real.symm.trans resolved
      rw [avoidPeakWindows_unblocked unblocked] at moved
      have same : slot - now = target - now := by
        rw [moved]
        show now + (target - now) - now = target - now
        ring
      have short := divideAndRound_le positive legal
      have low : 0 ≤ divideAndRound (target - now) k := by
        have scaled := @divideAndRound_mono k positive 0 (target - now) legal
        rwa [divideAndRound_zero] at scaled
      have ist : 0 ≤ istOffset := by decide
      obtain ⟨summed, converted⟩ := within
      have room : now + (target - now) ≤ lastInstant := (reaches_iff legal).mp summed
      have room' : now + (target - now) + istOffset ≤ lastInstant := (reaches_iff ist).mp converted
      rw [same]
      refine .fallback (generateLegalCandidates_accelerated unblocked window reached) aimed
        (acceleratedClock_resolves legal) ⟨(reaches_iff low).mpr ?_, (reaches_iff ist).mpr ?_⟩ ?_
      · exact le_trans (add_le_add_right short now) room
      · exact le_trans (add_le_add_left (add_le_add_right short now) istOffset) room'
      · rw [avoidPeakWindows_unblocked unblocked]
        rfl

/-- With a bandit the offset at its position is resolved, and the floor added as it is. -/
theorem chosen_position_iff (loaded : config.Loaded)
    (unblocked : config.npciRules.peakWindows = []) {position : Nat}
    (reached : AllReached k now floor config.selfImposed.maxScheduleWindow)
    : Chosen config (acceleratedClock k now) reasonCode floor
          (floor + config.selfImposed.maxScheduleWindow) slot (some (atPosition position))
      ↔ ∃ offset,
          (fitting k config.selfImposed.maxScheduleWindow)[position]? = some offset
          ∧ slot = floor + divideAndRound (hours offset) k := by
  have generated := @generateLegalCandidates_accelerated config k now floor
    config.selfImposed.maxScheduleWindow unblocked loaded.scheduleWindow reached
  constructor
  · intro chosen
    cases chosen with
    | suggested found asked legal =>
        cases generated.symm.trans found
        simp only [atPosition, List.getElem?_map] at asked
        cases listed : (fitting k config.selfImposed.maxScheduleWindow)[position]? with
        | none => rw [listed] at asked; cases asked
        | some offset =>
            rw [listed] at asked
            cases asked
            exact ⟨offset, rfl, rfl⟩
  · rintro ⟨offset, listed, rfl⟩
    refine .suggested generated ?_ (List.mem_map.mpr ⟨offset, List.mem_of_getElem? listed, rfl⟩)
    simp only [atPosition, List.getElem?_map, listed, Option.map_some]

end Slot

-----------------------------------------------------------------------------------------
-- The two-clock rule
-----------------------------------------------------------------------------------------

/-- The schedule under the accelerated clock is the real one divided by the scale: the delay to
the slot is, and there are as many slots to choose from.
-/
structure TwoClockRule (config : AppConfig) (k : Nat) (now : Datetime) (retriesUsed : Nat)
    (previous : Option Datetime) (real accelerated : Datetime)
    : Prop where
  delay : accelerated - now = divideAndRound (real - now) k
  count
    : (candidateSlots retriesUsed config (acceleratedClock k now) previous).map List.length
      = (candidateSlots retriesUsed config (stoppedClock now) previous).map List.length

/-- The schedule scales with the clock: no offset outgrows the window only unscaled, and a
bandit's pick is scaled by one, or has no floor delay to add to it, or one of a microsecond that
the rounding makes up for.
-/
structure Scales (config : AppConfig) (k : Nat) (floorDelay : Timedelta) (position : Option Nat)
    : Prop where
  window
    : ∀ offset ∈ candidateOffsets,
        divideAndRound (hours offset) k ≤ config.selfImposed.maxScheduleWindow
        → hours offset ≤ config.selfImposed.maxScheduleWindow
  pick
    : ∀ p offset,
        position = some p
        → candidateOffsets[p]? = some offset
        → k = 1 ∨ floorDelay = 0
          ∨ floorDelay = 1
            ∧ divideAndRound (1 + hours offset) k = 1 + divideAndRound (hours offset) k

section TwoClocks

variable {config : AppConfig} {k : Nat} {now : Datetime} {reasonCode : Option String}
  {previous : Option Datetime} {position : Option Nat} {case : RecoveryCase}
  {entries : List AuditEntry} {decision : RetryDecision}

/-- The floor is never in the past. -/
theorem le_floorAt (loaded : config.Loaded) {spacing : Timedelta}
    : now ≤ floorAt now config.npciRules.noticeLeadTime spacing previous := by
  have lead := loaded.leadTime
  have above : now + config.npciRules.noticeLeadTime
      ≤ floorAt now config.npciRules.noticeLeadTime spacing previous :=
    le_max_left _ _
  linarith

/-- The numbers of slots agree exactly when no offset fits only scaled. -/
theorem candidateSlots_count_iff (loaded : config.Loaded)
    (unblocked : config.npciRules.peakWindows = []) (positive : 1 ≤ k) {retriesUsed : Nat}
    {spacing : Timedelta} (entry : config.selfImposed.spacing? retriesUsed = some spacing)
    (reached
      : AllReached 1 now (floorAt now config.npciRules.noticeLeadTime spacing previous)
          config.selfImposed.maxScheduleWindow)
    : (candidateSlots retriesUsed config (acceleratedClock k now) previous).map List.length
          = (candidateSlots retriesUsed config (stoppedClock now) previous).map List.length
      ↔ ∀ offset ∈ candidateOffsets,
          divideAndRound (hours offset) k ≤ config.selfImposed.maxScheduleWindow
          → hours offset ≤ config.selfImposed.maxScheduleWindow := by
  have generated (scale : Nat) (accelerates : 1 ≤ scale)
      : candidateSlots retriesUsed config (acceleratedClock scale now) previous
        = .ok ((fitting scale config.selfImposed.maxScheduleWindow).map fun offset =>
            floorAt now config.npciRules.noticeLeadTime spacing previous
              + divideAndRound (hours offset) scale) := by
    rw [candidateSlots, entry]
    exact generateLegalCandidates_accelerated unblocked loaded.scheduleWindow
      (reached.accelerate accelerates)
  rw [stoppedClock_eq, generated k positive, generated 1 le_rfl]
  simp only [Except.map, List.length_map, Except.ok.injEq]
  exact fitting_length_iff positive

/-- The notice that a real clock schedules is scheduled by every accelerated one, and by the
two-clock rule exactly where the schedule scales. Witness: without a bandit the delay to the
target is resolved as a whole; with one, only the offset from the floor is.
-/
theorem twoClocks_iff (loaded : config.Loaded) (unblocked : config.npciRules.peakWindows = [])
    (positive : 1 ≤ k)
    (sent
      : (markNoticeSent case config (stoppedClock now) reasonCode previous
          (position.map atPosition)).result
        = .ok (entries, decision))
    : ∃ spacing entries' decision',
        config.selfImposed.spacing? case.retriesUsed = some spacing
        ∧ (markNoticeSent case config (acceleratedClock k now) reasonCode previous
            (position.map atPosition)).result
          = .ok (entries', decision')
        ∧ (TwoClockRule config k now case.retriesUsed previous decision.scheduledAt
              decision'.scheduledAt
            ↔ Scales config k
              (floorAt now config.npciRules.noticeLeadTime spacing previous - now) position) := by
  have pending := (markNoticeSent_ok case config (stoppedClock now) sent).pending
  have computed := markNoticeSent_computed case config (stoppedClock now) sent
  obtain ⟨spacing, floor, entry, floored, bounds, chosen⟩ :=
    computeScheduledAt_iff.mp ⟨_, computed⟩
  have floored : floor = floorAt now config.npciRules.noticeLeadTime spacing previous := floored
  have ahead : now ≤ floor := floored ▸ le_floorAt loaded
  have chosen : Chosen config (acceleratedClock 1 now) reasonCode floor
      (floor + config.selfImposed.maxScheduleWindow) decision.scheduledAt
      (position.map atPosition) := by
    rw [← stoppedClock_eq]
    exact chosen
  have real : AllReached 1 now floor config.selfImposed.maxScheduleWindow := chosen.reached
  have reached := real.accelerate positive
  have counts := @candidateSlots_count_iff config k now previous loaded unblocked positive
    case.retriesUsed spacing entry (floored ▸ real)
  -- the accelerated schedule, from the slot it chooses
  suffices accelerated : ∃ slot,
      Chosen config (acceleratedClock k now) reasonCode floor
        (floor + config.selfImposed.maxScheduleWindow) slot (position.map atPosition)
      ∧ (slot - now = divideAndRound (decision.scheduledAt - now) k
        ↔ ∀ p offset,
            position = some p
            → candidateOffsets[p]? = some offset
            → k = 1 ∨ floor - now = 0
              ∨ floor - now = 1
                ∧ divideAndRound (1 + hours offset) k = 1 + divideAndRound (hours offset) k) by
    obtain ⟨slot, chosen', delays⟩ := accelerated
    obtain ⟨reasoning, computed'⟩ := (@computeScheduledAt_iff config (acceleratedClock k now)
      case.retriesUsed reasonCode previous (position.map atPosition) slot).mpr
        ⟨spacing, floor, entry, floored, bounds, chosen'⟩
    obtain ⟨entries', decision', sent', rfl⟩ := markNoticeSent_of_computed case config
      (acceleratedClock k now) pending computed'
    refine ⟨spacing, entries', decision', entry, sent', ?_⟩
    rw [← floored]
    constructor
    · rintro ⟨delay, count⟩
      exact ⟨counts.mp count, delays.mp delay⟩
    · rintro ⟨window, pick⟩
      exact ⟨delays.mpr pick, counts.mpr window⟩
  cases position with
  | none =>
      rw [Option.map_none] at chosen ⊢
      refine ⟨_, chosen_none_accelerate loaded unblocked ahead positive chosen reached, ?_⟩
      simp
  | some p =>
      rw [Option.map_some] at chosen ⊢
      obtain ⟨offset, listed, slot⟩ := (chosen_position_iff loaded unblocked real).mp chosen
      have placed := fitting_getElem? (le_refl 1) listed
      -- the same position is there under the accelerated clock, with the same offset
      have bound : p < (fitting k config.selfImposed.maxScheduleWindow).length :=
        lt_of_lt_of_le (List.getElem?_eq_some_iff.mp listed).1
          (fitting_sublist positive).length_le
      have scaled := List.getElem?_eq_getElem bound
      have same : (fitting k config.selfImposed.maxScheduleWindow)[p] = offset :=
        Option.some.inj ((fitting_getElem? positive scaled).symm.trans placed)
      rw [same] at scaled
      refine ⟨_, (chosen_position_iff loaded unblocked reached).mpr ⟨offset, scaled, rfl⟩, ?_⟩
      rw [slot, divideAndRound_one]
      have even : hours offset % 2 = 0 := by
        simp only [hours, Timedelta]
        omega
      have legal : 0 ≤ floor - now := by linarith
      have left : floor + divideAndRound (hours offset) k - now
          = floor - now + divideAndRound (hours offset) k := by ring
      have right : floor + hours offset - now = floor - now + hours offset := by ring
      rw [left, right]
      generalize floor - now = delay at *
      constructor
      · intro equal p' offset' picked listed'
        cases picked
        cases placed.symm.trans listed'
        rcases divideAndRound_shift positive even legal equal.symm with one | none | one
        · exact .inl one
        · exact .inr (.inl none)
        · exact .inr (.inr ⟨one, by rw [← one, equal]⟩)
      · intro scales
        rcases scales p offset rfl placed with rfl | rfl | ⟨rfl, edge⟩
        · simp
        · simp
        · exact edge.symm

end TwoClocks

/-- The shipped demo configuration without its peak windows. -/
def unblockedConfig : AppConfig :=
  { shippedConfig .demo with
    npciRules := { (shippedConfig .demo).npciRules with peakWindows := [] } }

theorem unblockedConfig_loaded : unblockedConfig.Loaded where
  leadTime := (shippedConfig_loaded .demo).leadTime
  scheduleWindow := (shippedConfig_loaded .demo).scheduleWindow
  spacing := (shippedConfig_loaded .demo).spacing
  wholeMinutes := by simp [unblockedConfig]

/-- The retry of a declined case, scheduled by a bandit for the end of the lead time. -/
def pickedDecision : RetryDecision :=
  { firstDecision with
    reasoning := "Retry attempt 1: bandit selected 1970-01-02T00:00:00+00:00 among legal slots "
      ++ "(floor=1970-01-02T00:00:00+00:00, latest=1970-01-04T00:00:00+00:00). "
      ++ "Constraint: notice lead (config v2)."
    reasoning_ne := by decide +kernel }

theorem pickedDecision_sent
    : (markNoticeSent declined.case unblockedConfig (stoppedClock 0) none none
        ((some 0).map atPosition)).result
      = .ok (noticeEntries "pay_2" 0 (hours 24), pickedDecision) := by
  decide +kernel

/-- What decides about that schedule under the demo clock. -/
theorem twoClocks_iff_picked
    : ∃ spacing entries' decision',
        unblockedConfig.selfImposed.spacing? 0 = some spacing
        ∧ (markNoticeSent declined.case unblockedConfig (acceleratedClock 3600 0) none none
            ((some 0).map atPosition)).result
          = .ok (entries', decision')
        ∧ (TwoClockRule unblockedConfig 3600 0 0 none (hours 24) decision'.scheduledAt
            ↔ Scales unblockedConfig 3600
              (floorAt 0 unblockedConfig.npciRules.noticeLeadTime spacing none - 0) (some 0)) :=
  @twoClocks_iff unblockedConfig 3600 0 none none (some 0) declined.case _ pickedDecision
    unblockedConfig_loaded rfl (by decide) pickedDecision_sent

/-- Under the demo clock the bandit's slot is a real day away, not one of 24 seconds. -/
theorem twoClocks_unscaled
    : ∃ entries' decision',
        (markNoticeSent declined.case unblockedConfig (stoppedClock 0) none none
            ((some 0).map atPosition)).result
          = .ok (noticeEntries "pay_2" 0 (hours 24), pickedDecision)
        ∧ (markNoticeSent declined.case unblockedConfig (acceleratedClock 3600 0) none none
            ((some 0).map atPosition)).result
          = .ok (entries', decision')
        ∧ ¬ TwoClockRule unblockedConfig 3600 0 0 none pickedDecision.scheduledAt
            decision'.scheduledAt := by
  have accelerated
      : (markNoticeSent declined.case unblockedConfig (acceleratedClock 3600 0) none none
          ((some 0).map atPosition)).result.map (·.2.scheduledAt)
        = .ok (hours 24) := by
    decide +kernel
  cases sent
    : (markNoticeSent declined.case unblockedConfig (acceleratedClock 3600 0) none none
        ((some 0).map atPosition)).result with
  | error raised => rw [sent] at accelerated; cases accelerated
  | ok done =>
      obtain ⟨entries', decision'⟩ := done
      rw [sent] at accelerated
      have slot : decision'.scheduledAt = hours 24 := Except.ok.inj accelerated
      refine ⟨entries', decision', pickedDecision_sent, rfl, fun rule => ?_⟩
      have delay := rule.delay
      rw [slot] at delay
      exact absurd delay (by decide)

end StateMachine

end RecoveryAgent
