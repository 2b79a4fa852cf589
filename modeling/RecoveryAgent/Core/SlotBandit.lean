import RecoveryAgent.Core.Scheduling
import RecoveryAgent.Lib.FirstMax
import Mathlib.Algebra.Order.Field.Rat
import Mathlib.Tactic.Positivity

/-! What the slot bandit learns from outcomes, and what it makes of it (`bandit.py`).
Outcomes are recorded under slots of delay, while a candidate is looked up under the hour of
its day, so candidates whole days apart share one slot.
-/

namespace RecoveryAgent

/-- The statistics after one more outcome. -/
def SlotStats.record (s : SlotStats) (success : Bool) : SlotStats where
  attempts := s.attempts + 1
  successes := if success then s.successes + 1 else s.successes

namespace RetrySlotBandit

/-- `record_outcome`: an outcome on an unknown slot is ignored. -/
def recordOutcome (bandit : RetrySlotBandit) (slot : String) (success : Bool)
    : RetrySlotBandit :=
  match bandit.stats.lookup slot with
  | none => bandit
  | some _ =>
      { bandit with
        stats := bandit.stats.map fun entry =>
          if entry.1 = slot then (entry.1, entry.2.record success) else entry }

/-- The bandit after a history of outcomes. -/
def recordAll (bandit : RetrySlotBandit) (history : List (String × Bool)) : RetrySlotBandit :=
  history.foldl (fun bandit outcome => bandit.recordOutcome outcome.1 outcome.2) bandit

/-- The share of successes among the outcomes on a slot, one half where there is none. -/
def empiricalRate (history : List (String × Bool)) (slot : String) : Rat :=
  let outcomes := history.filter (·.1 = slot)
  if outcomes = [] then 1 / 2 else outcomes.countP (·.2) / outcomes.length

/-- A change of values under one key is seen under that key only. -/
theorem lookup_map_update (stats : List (String × SlotStats)) (slot key : String)
    (change : SlotStats → SlotStats)
    : (stats.map fun entry =>
        if entry.1 = slot then (entry.1, change entry.2) else entry).lookup key
      = if key = slot then (stats.lookup key).map change else stats.lookup key := by
  induction stats with
  | nil => simp
  | cons entry rest ih =>
      obtain ⟨name, s⟩ := entry
      by_cases here : key = name
      · subst here
        by_cases named : key = slot <;> simp [named]
      · have skip := beq_eq_false_iff_ne.mpr here
        by_cases named : name = slot
        · subst named
          simp [List.lookup_cons, skip, ih]
        · simp [List.lookup_cons, skip, named, ih]

/-- Of the slots, only the recorded one has new statistics. -/
theorem lookup_recordOutcome (bandit : RetrySlotBandit) (slot : String) (success : Bool)
    (key : String)
    : (bandit.recordOutcome slot success).stats.lookup key
      = if key = slot then (bandit.stats.lookup key).map (·.record success)
        else bandit.stats.lookup key := by
  unfold recordOutcome
  split
  · next unknown =>
      split
      · next same => rw [same, unknown]; rfl
      · rfl
  · exact lookup_map_update bandit.stats slot key (·.record success)

/-- The statistics of a known slot count its outcomes, by induction over the history. -/
theorem lookup_recordAll (history : List (String × Bool)) (slot : String)
    {bandit : RetrySlotBandit} {s : SlotStats} (known : bandit.stats.lookup slot = some s)
    : ((bandit.recordAll history).stats.lookup slot)
      = some {
          attempts := s.attempts + (history.filter (·.1 = slot)).length
          successes := s.successes + (history.filter (·.1 = slot)).countP (·.2) } := by
  induction history generalizing bandit s with
  | nil => simpa [recordAll] using known
  | cons outcome rest ih =>
      obtain ⟨name, success⟩ := outcome
      have recorded := lookup_recordOutcome bandit name success slot
      rw [known] at recorded
      by_cases same : slot = name
      · subst same
        rw [if_pos rfl] at recorded
        refine (ih recorded).trans ?_
        cases success <;> simp [SlotStats.record, Nat.add_assoc, Nat.add_comm 1]
      · rw [if_neg same] at recorded
        refine (ih recorded).trans ?_
        simp [Ne.symm same]

/-- The rate of a slot of the bandit is the share of successes among its outcomes. -/
theorem rate_recordAll (slots : List String) {slot : String} (listed : slot ∈ slots)
    (history : List (String × Bool))
    : ((new slots).recordAll history).rate slot = empiricalRate history slot := by
  have known : (new slots).stats.lookup slot = some {} := by
    induction slots with
    | nil => cases listed
    | cons head tail ih =>
        by_cases same : slot = head
        · simp [new, same]
        · have later := ih ((List.mem_cons.mp listed).resolve_left same)
          simpa [new, List.lookup_cons, beq_eq_false_iff_ne.mpr same] using later
  unfold rate empiricalRate
  rw [lookup_recordAll history slot known]
  by_cases none_ : history.filter (·.1 = slot) = []
  · simp [none_]
  · have some_ := List.length_pos_of_ne_nil none_
    simp [none_, some_]

theorem rate_nonneg (bandit : RetrySlotBandit) (slot : String) : 0 ≤ bandit.rate slot := by
  unfold rate
  dsimp only
  split <;> positivity

/-- An exploiting draw takes the first candidate whose hour has the best rate. -/
theorem suggestFrom_exploit (bandit : RetrySlotBandit) (choice : Nat) (first : Datetime)
    (rest : List Datetime)
    : ∃ best,
        bandit.suggestFrom ⟨false, choice⟩ (first :: rest) = .ok best
        ∧ IsFirstMax (fun candidate => bandit.rate (candidateToSlot candidate)) (first :: rest)
            best := by
  obtain ⟨best, found, holds⟩ := @IsFirstMax.foldl Datetime Rat _
    (fun candidate => bandit.rate (candidateToSlot candidate)) [first] first rest (.singleton first)
  refine ⟨best, ?_, holds⟩
  have start : bandit.better (first, -1) first = (first, bandit.rate (candidateToSlot first)) :=
    if_pos (lt_of_lt_of_le (by norm_num) (bandit.rate_nonneg _))
  have scanned : (rest.foldl bandit.better (first, bandit.rate (candidateToSlot first))).1 = best :=
    congrArg Prod.fst found
  have greedy : ((first :: rest).foldl bandit.better (first, -1)).1 = best := by
    rw [List.foldl_cons, start, scanned]
  exact congrArg Except.ok greedy

/-- Whole days later the hour is the same. -/
theorem candidateToSlot_add_days (candidate : Datetime) (days : Int)
    : candidateToSlot (candidate + hours (24 * days)) = candidateToSlot candidate := by
  have same : (candidate + hours (24 * days)) % 86400000000 = candidate % 86400000000 := by
    simp only [hours, Datetime, Timedelta] at *
    omega
  unfold candidateToSlot
  rw [same]

/-- The slots outcomes are recorded on, each with its delay. -/
def delaySlots : List (String × Timedelta) :=
  [("immediate", hours 0), ("24h", hours 24), ("72h", hours 72)]

/-- The bandit of the service after a history of outcomes. -/
def learned (history : List (String × Bool)) : RetrySlotBandit :=
  (new (delaySlots.map (·.1))).recordAll history

/-- The exploiting suggestion is the candidate whose own slot has the best rate, the earliest
on ties.
-/
def LearnsDelays (floor : Datetime) (history : List (String × Bool)) (choice : Nat) : Prop :=
  ∃ best,
    IsFirstMax (fun (slot : String × Timedelta) => (learned history).rate slot.1) delaySlots best
    ∧ (learned history).suggestFrom ⟨false, choice⟩ (delaySlots.map (floor + ·.2))
      = .ok (floor + best.2)

/-- The three candidates fall into one slot, so the first is suggested whatever was learned. -/
theorem suggestFrom_delaySlots (bandit : RetrySlotBandit) (floor : Datetime) (choice : Nat)
    : bandit.suggestFrom ⟨false, choice⟩ (delaySlots.map (floor + ·.2)) = .ok floor := by
  obtain ⟨best, suggested, holds⟩ :=
    bandit.suggestFrom_exploit choice (floor + hours 0) [floor + hours 24, floor + hours 72]
  have distinct : floor + hours 0 ∉ [floor + hours 24, floor + hours 72] := by
    simp [hours]
  have first := (IsFirstMax.head_iff distinct).mpr fun other later => by
    have same : candidateToSlot other = candidateToSlot (floor + hours 0) := by
      have day := candidateToSlot_add_days floor
      simp only [List.mem_cons, List.not_mem_nil, or_false] at later
      rcases later with rfl | rfl
      · exact (day 1).trans (day 0).symm
      · exact (day 3).trans (day 0).symm
    exact le_of_eq (congrArg bandit.rate same)
  have chosen : best = floor := (holds.unique first).trans (add_zero floor)
  exact chosen ▸ suggested

/-- The immediate slot is the first of the best exactly if no later one is better. -/
theorem immediate_isFirstMax_iff (history : List (String × Bool))
    : IsFirstMax (fun (slot : String × Timedelta) => (learned history).rate slot.1) delaySlots
        ("immediate", hours 0)
      ↔ empiricalRate history "24h" ≤ empiricalRate history "immediate"
        ∧ empiricalRate history "72h" ≤ empiricalRate history "immediate" := by
  have rates {slot : String} (listed : slot ∈ delaySlots.map (·.1))
      : (learned history).rate slot = empiricalRate history slot :=
    rate_recordAll (delaySlots.map Prod.fst) listed history
  rw [← @rates "immediate" (by decide), ← @rates "24h" (by decide),
    ← @rates "72h" (by decide)]
  unfold delaySlots
  rw [IsFirstMax.head_iff (by decide)]
  simp

/-- What is suggested is undelayed, so only the immediate slot can be learned. -/
theorem LearnsDelays.immediate {floor : Datetime} {history : List (String × Bool)}
    {choice : Nat} (learns : LearnsDelays floor history choice)
    : IsFirstMax (fun (slot : String × Timedelta) => (learned history).rate slot.1) delaySlots
        ("immediate", hours 0) := by
  obtain ⟨best, first, suggested⟩ := learns
  rw [suggestFrom_delaySlots] at suggested
  have undelayed : best.2 = 0 := left_eq_add.mp (Except.ok.inj suggested)
  have listed : best ∈ delaySlots := by
    obtain ⟨front, back, slots, _⟩ := first
    rw [slots]
    simp
  simp only [delaySlots, List.mem_cons, List.not_mem_nil, or_false] at listed
  rcases listed with rfl | rfl | rfl
  · exact first
  · cases undelayed
  · cases undelayed

/-- The bandit learns from its delays exactly where nothing is to be gained from one: the rate
of the immediate slot is as good as those of the later ones.
-/
theorem learnsDelays_iff (floor : Datetime) (history : List (String × Bool)) (choice : Nat)
    : LearnsDelays floor history choice
      ↔ empiricalRate history "24h" ≤ empiricalRate history "immediate"
        ∧ empiricalRate history "72h" ≤ empiricalRate history "immediate" := by
  rw [← immediate_isFirstMax_iff]
  refine ⟨LearnsDelays.immediate, fun first => ⟨_, first, ?_⟩⟩
  rw [suggestFrom_delaySlots]
  simp [hours]

/-- One success a day later is enough: the floor is suggested all the same. -/
theorem not_learnsDelays
    : ¬ ∀ floor history choice,
        (∀ outcome ∈ history, outcome.1 ∈ delaySlots.map (·.1))
        → LearnsDelays floor history choice := by
  intro claimed
  have learned := (claimed 0 [("24h", true)] 0 (by decide)).immediate
  exact absurd ((immediate_isFirstMax_iff _).mp learned).1 (by decide +kernel)

end RetrySlotBandit

end RecoveryAgent
