import RecoveryAgent.Core.Config
import RecoveryAgent.Lib.Binary64
import RecoveryAgent.Lib.WhileLoop
import Mathlib.Algebra.Order.Field.Rat
import Mathlib.Data.List.Pairwise
import Mathlib.Tactic.Linarith
import Mathlib.Tactic.Positivity
import Mathlib.Tactic.FieldSimp
import Mathlib.Tactic.Ring

/-! The advisory survival curve (`survival.py`).
Its loop steps by a twentieth of the asked span, so it makes no progress on an empty one, nor on
one so short that its twentieth is rounded to zero.
-/

namespace RecoveryAgent

/-- Synthetic recovery times, in hours, by reason code. -/
def syntheticRecoveryTimesHours : List (String × List Nat) :=
  [ ("bank_server_down", [2, 5, 8, 12, 24, 30, 48, 72, 100]),
    ("network_timeout", [1, 3, 6, 10, 24, 36, 50, 72]),
    ("upi_timeout", [2, 4, 7, 12, 24, 40, 60, 80]),
    ("insufficient_funds", [24, 48, 72, 120, 168, 240, 336]),
    ("issuer_unavailable", [1, 2, 4, 8, 24, 48, 72]),
    ("generic", [5, 10, 20, 30, 50, 80, 120]) ]

/-- The times of a reason code, those of "generic" where it has none of its own. -/
def recoveryTimes (reasonCode : String) : List Nat :=
  (syntheticRecoveryTimesHours.lookup reasonCode).getD
    ((syntheticRecoveryTimesHours.lookup "generic").getD [])

/-- The estimate is never a division by zero. -/
theorem recoveryTimes_ne_nil (reasonCode : String) : recoveryTimes reasonCode ≠ [] := by
  have listed : ∀ entry ∈ syntheticRecoveryTimesHours, entry.2 ≠ [] := by decide
  unfold recoveryTimes
  cases found : syntheticRecoveryTimesHours.lookup reasonCode with
  | none => decide
  | some times =>
      obtain ⟨front, rest, split, _⟩ := List.lookup_eq_some_iff.mp found
      exact listed (reasonCode, times) (by simp [split])

/-- `estimate_recovery_probability`: the share of the times that have elapsed. -/
def estimateRecoveryProbability (reasonCode : String) (elapsedHours : Rat) : Rat :=
  let times := recoveryTimes reasonCode
  let recovered := times.countP fun (t : Nat) => (t : Rat) ≤ elapsedHours
  recovered / times.length

theorem estimateRecoveryProbability_mono (reasonCode : String) {elapsed later : Rat}
    (passed : elapsed ≤ later)
    : estimateRecoveryProbability reasonCode elapsed
      ≤ estimateRecoveryProbability reasonCode later := by
  have more
      : (recoveryTimes reasonCode).countP (fun (t : Nat) => (t : Rat) ≤ elapsed)
        ≤ (recoveryTimes reasonCode).countP (fun (t : Nat) => (t : Rat) ≤ later) :=
    List.countP_mono_left fun t _ recovered => by
      simp only [decide_eq_true_eq] at recovered ⊢
      exact recovered.trans passed
  unfold estimateRecoveryProbability
  exact div_le_div_of_nonneg_right (by exact_mod_cast more) (by positivity)

/-- The estimate is a probability. -/
theorem estimateRecoveryProbability_mem (reasonCode : String) (elapsed : Rat)
    : 0 ≤ estimateRecoveryProbability reasonCode elapsed
      ∧ estimateRecoveryProbability reasonCode elapsed ≤ 1 := by
  have total : (0 : Rat) < (recoveryTimes reasonCode).length := by
    exact_mod_cast List.length_pos_of_ne_nil (recoveryTimes_ne_nil reasonCode)
  unfold estimateRecoveryProbability
  refine ⟨by positivity, (div_le_one total).mpr ?_⟩
  exact_mod_cast List.countP_le_length

/-- `round(hours, 1)`, ties to even. -/
def roundTenth (hours : Rat) : Rat := divideAndRound (10 * hours.num) hours.den / 10

structure CurvePoint where
  elapsedHours : Rat
  recoveryProbability : Rat
  deriving DecidableEq

/-- The point of the curve at a time. -/
def curvePoint (reasonCode : String) (elapsed : Rat) : CurvePoint :=
  ⟨roundTenth elapsed, estimateRecoveryProbability reasonCode elapsed⟩

/-- What the loop of `survival_curve` works on. -/
structure Sampling where
  points : List CurvePoint := []
  elapsed : Rat := 0

namespace Sampling

def continues (maxHours : Rat) (sampling : Sampling) : Bool :=
  decide (sampling.elapsed ≤ maxHours)

def body (rounded : Rat → Rat) (reasonCode : String) (step : Rat) (sampling : Sampling)
    : Sampling where
  points := sampling.points ++ [curvePoint reasonCode sampling.elapsed]
  elapsed := rounded (sampling.elapsed + step)

/-- After `n` rounds in exact arithmetic, the points at the first `n` multiples of the step. -/
theorem iterate_body (reasonCode : String) (step : Rat) (n : Nat)
    : (body id reasonCode step)^[n] {}
      = { points := (List.range n).map fun (k : Nat) => curvePoint reasonCode (k * step)
          elapsed := n * step } := by
  induction n with
  | zero => simp
  | succ n ih =>
      rw [Function.iterate_succ_apply', ih]
      simp only [body, id, List.range_succ, List.map_append, List.map_cons, List.map_nil,
        Sampling.mk.injEq, true_and]
      push_cast
      ring

end Sampling

/-- `survival_curve`, or no result where its loop has not ended within the fuel. The arithmetic
is exact but for what becomes of the step and of the sums: the code's floats are rounded.
-/
def survivalCurve (rounded : Rat → Rat) (fuel : Nat) (reasonCode : String) (maxHours : Rat)
    : Option (List CurvePoint) :=
  (WhileLoop.run (Sampling.continues maxHours)
    (Sampling.body rounded reasonCode (rounded (maxHours / 20))) fuel {}).map (·.points)

/-- What is asked of the curve: the loop of the code ends, and in exact arithmetic it has sampled
the 21 times from 0 to the end of a positive span, with probabilities that never fall.
-/
structure CurveMeets (reasonCode : String) (maxHours : Rat) : Prop where
  ends : ∃ fuel points, survivalCurve Binary64.round fuel reasonCode maxHours = some points
  sampled
    : 0 < maxHours
      → ∃ fuel points,
          survivalCurve id fuel reasonCode maxHours = some points
          ∧ points = (List.range 21).map
              (fun (k : Nat) => curvePoint reasonCode (k * maxHours / 20))
          ∧ points.Pairwise (·.recoveryProbability ≤ ·.recoveryProbability)
          ∧ ∀ point ∈ points, 0 ≤ point.recoveryProbability ∧ point.recoveryProbability ≤ 1

/-- Over a positive span the exact loop ends after 21 rounds. -/
theorem survivalCurve_pos (reasonCode : String) {maxHours : Rat} (positive : 0 < maxHours)
    : survivalCurve id 22 reasonCode maxHours
      = some ((List.range 21).map
          fun (k : Nat) => curvePoint reasonCode (k * maxHours / 20)) := by
  have goes (k : Nat) (bound : k < 21)
      : Sampling.continues maxHours ((Sampling.body id reasonCode (maxHours / 20))^[k] {})
        = true := by
    rw [Sampling.iterate_body]
    have within : (k : Rat) ≤ 20 := by exact_mod_cast Nat.le_of_lt_succ bound
    refine decide_eq_true ?_
    dsimp only
    nlinarith
  have stops
      : Sampling.continues maxHours ((Sampling.body id reasonCode (maxHours / 20))^[21] {})
        = false := by
    rw [Sampling.iterate_body]
    refine decide_eq_false (not_le.mpr ?_)
    push_cast
    linarith
  unfold survivalCurve
  rw [id, WhileLoop.run_iterate goes stops, Sampling.iterate_body, Option.map_some]
  simp only [mul_div_assoc]

/-- Where the step is rounded to zero the loop never ends. -/
theorem survivalCurve_stuck (reasonCode : String) {maxHours : Rat} (natural : 0 ≤ maxHours)
    (stuck : Binary64.round (maxHours / 20) = 0) (fuel : Nat)
    : survivalCurve Binary64.round fuel reasonCode maxHours = none := by
  have still (k : Nat) : ((Sampling.body Binary64.round reasonCode 0)^[k] {}).elapsed = 0 := by
    induction k with
    | zero => rfl
    | succ k ih =>
        rw [Function.iterate_succ_apply', Sampling.body, ih, add_zero, Binary64.round_zero]
  have goes (k : Nat)
      : Sampling.continues maxHours ((Sampling.body Binary64.round reasonCode 0)^[k] {})
        = true :=
    decide_eq_true (by rwa [still])
  unfold survivalCurve
  rw [stuck, WhileLoop.run_eq_none goes]
  rfl

/-- A step that is not rounded to zero is more than a fortieth of the span. -/
theorem lt_step {maxHours : Rat} (natural : 0 ≤ maxHours)
    (moves : Binary64.round (maxHours / 20) ≠ 0)
    : Binary64.least ≤ Binary64.round (maxHours / 20)
      ∧ maxHours < 40 * Binary64.round (maxHours / 20) := by
  have positive := Binary64.least_pos
  have magnitude := Binary64.least_le_round moves
  have span : |maxHours / 20| = maxHours / 20 := abs_of_nonneg (by linarith)
  have close := Binary64.abs_sub_round_le (maxHours / 20)
  rw [span] at close
  generalize Binary64.round (maxHours / 20) = step at *
  rcases close with relative | least
  · obtain ⟨low, high⟩ := abs_le.mp relative
    norm_num at high
    have forward : 0 ≤ step := by linarith
    rw [abs_of_nonneg forward] at magnitude
    exact ⟨magnitude, by linarith⟩
  · obtain ⟨low, high⟩ := abs_le.mp least
    have forward : 0 ≤ step := by
      by_contra backward
      rw [abs_of_neg (not_le.mp backward)] at magnitude
      linarith
    rw [abs_of_nonneg forward] at magnitude
    exact ⟨magnitude, by linarith⟩

/-- A round moves on by at least half a step. -/
theorem half_step_le {maxHours step elapsed : Rat} (least : Binary64.least ≤ step)
    (short : maxHours < 40 * step) (passed : 0 ≤ elapsed) (within : elapsed ≤ maxHours)
    : elapsed + step / 2 ≤ Binary64.round (elapsed + step) := by
  have smallest := Binary64.least_pos
  have sum : |elapsed + step| = elapsed + step := abs_of_nonneg (by linarith)
  rcases Binary64.abs_sub_round_le (elapsed + step) with close | close
  · rw [sum] at close
    have above := (abs_le.mp close).2
    norm_num at above
    linarith
  · have above := (abs_le.mp close).2
    linarith

/-- Where the step is not rounded to zero the loop ends: every round moves on by half a step. -/
theorem survivalCurve_ends (reasonCode : String) {maxHours : Rat} (natural : 0 ≤ maxHours)
    (moves : Binary64.round (maxHours / 20) ≠ 0)
    : ∃ fuel points, survivalCurve Binary64.round fuel reasonCode maxHours = some points := by
  obtain ⟨least, short⟩ := lt_step natural moves
  have positive := Binary64.least_pos
  unfold survivalCurve
  generalize Binary64.round (maxHours / 20) = step at *
  let rounds (sampling : Sampling) : Nat :=
    (⌊(maxHours - sampling.elapsed) / (step / 2)⌋ + 1).toNat
  obtain ⟨final, ended⟩ := @WhileLoop.run_ends _ (Sampling.continues maxHours)
    (Sampling.body Binary64.round reasonCode step) (0 ≤ ·.elapsed) rounds
    (fun sampling passed goes => by
      have within : sampling.elapsed ≤ maxHours := of_decide_eq_true goes
      have moved := half_step_le least short passed within
      refine ⟨by dsimp only [Sampling.body]; linarith, ?_⟩
      dsimp only [rounds, Sampling.body]
      have left : 0 ≤ ⌊(maxHours - sampling.elapsed) / (step / 2)⌋ :=
        Int.floor_nonneg.mpr (div_nonneg (by linarith) (by linarith))
      have fewer
          : ⌊(maxHours - Binary64.round (sampling.elapsed + step)) / (step / 2)⌋
            ≤ ⌊(maxHours - sampling.elapsed) / (step / 2)⌋ - 1 := by
        rw [← Int.floor_sub_one]
        refine Int.floor_mono ?_
        rw [div_sub_one (by linarith), div_le_div_iff_of_pos_right (by linarith)]
        linarith
      omega)
    _ {} le_rfl (Nat.lt_succ_self _)
  exact ⟨_, final.points, by rw [ended]; rfl⟩

/-- The curve is as asked of it exactly where the span is negative or more than ten of the least
positive floats. Witness: ten of them are the longest span whose twentieth is rounded to zero.
-/
theorem survivalCurve_meets_iff (reasonCode : String) (maxHours : Rat)
    : CurveMeets reasonCode maxHours ↔ maxHours < 0 ∨ 10 * Binary64.least < maxHours := by
  have positive := Binary64.least_pos
  have stuck (natural : 0 ≤ maxHours)
      : Binary64.round (maxHours / 20) = 0 ↔ maxHours ≤ 10 * Binary64.least := by
    rw [Binary64.round_eq_zero_iff, abs_of_nonneg (by linarith)]
    constructor <;> intro small <;> linarith
  constructor
  · rintro ⟨⟨fuel, points, ended⟩, _⟩
    by_contra short
    obtain ⟨natural, short⟩ := not_or.mp short
    rw [survivalCurve_stuck reasonCode (not_lt.mp natural)
      ((stuck (not_lt.mp natural)).mpr (not_lt.mp short))] at ended
    cases ended
  · intro long
    have sampled (forward : 0 < maxHours) := survivalCurve_pos reasonCode forward
    refine ⟨?_, fun forward => ⟨22, _, sampled forward, rfl, ?_, ?_⟩⟩
    · rcases long with negative | long
      · have stops : Sampling.continues maxHours {} = false :=
          decide_eq_false (not_le.mpr negative)
        refine ⟨1, [], ?_⟩
        unfold survivalCurve
        rw [WhileLoop.run_iterate (n := 0) (by simp) stops]
        rfl
      · have natural : 0 ≤ maxHours := by linarith
        exact survivalCurve_ends reasonCode natural fun zero =>
          absurd ((stuck natural).mp zero) (not_le.mpr long)
    · rw [List.pairwise_map]
      refine List.pairwise_lt_range.imp fun {k l} earlier => ?_
      have later : (k : Rat) ≤ l := by exact_mod_cast earlier.le
      refine estimateRecoveryProbability_mono reasonCode ?_
      have scaled := mul_le_mul_of_nonneg_right later forward.le
      linarith
    · rintro point listed
      obtain ⟨k, _, rfl⟩ := List.mem_map.mp listed
      exact estimateRecoveryProbability_mem reasonCode _

/-- The loop does not end for every span that is not negative. -/
theorem not_survivalCurve_meets
    : ¬ ∀ (reasonCode : String) (maxHours : Rat),
        0 ≤ maxHours → CurveMeets reasonCode maxHours := by
  intro claimed
  obtain ⟨fuel, points, ended⟩ := (claimed "upi_timeout" 0 le_rfl).ends
  rw [survivalCurve_stuck "upi_timeout" le_rfl (by simp)] at ended
  cases ended

example
    : (survivalCurve Binary64.round 22 "upi_timeout" 72).map (fun points => points.take 3)
      = some [⟨0, 0⟩, ⟨18 / 5, 1 / 8⟩, ⟨36 / 5, 3 / 8⟩] := by
  decide +kernel

end RecoveryAgent
