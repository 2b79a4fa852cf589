import Mathlib.Algebra.Order.Field.Power
import Mathlib.Data.Int.Log
import Mathlib.Data.Rat.Floor
import Mathlib.Tactic.FieldSimp
import Mathlib.Tactic.Linarith
import Mathlib.Tactic.Positivity

/-! Rounding to binary64, as exact rational arithmetic.
A finite number of the format is an integer multiple of a power of two whose exponent is never
below -1074. Numbers past the format's range are left in place of an infinity.
-/

namespace Binary64

-----------------------------------------------------------------------------------------
-- The nearest integer
-----------------------------------------------------------------------------------------

/-- The nearest integer, ties to even. -/
def nearest (q : Rat) : Int :=
  let rest := q - ⌊q⌋
  if rest < 1 / 2 then ⌊q⌋
  else if rest = 1 / 2 ∧ ⌊q⌋ % 2 = 0 then ⌊q⌋
  else ⌊q⌋ + 1

theorem abs_sub_nearest (q : Rat) : |q - nearest q| ≤ 1 / 2 := by
  have below := Int.floor_le q
  have above := Int.lt_floor_add_one q
  unfold nearest
  dsimp only
  rw [abs_le]
  split
  · constructor <;> linarith
  split
  · constructor <;> linarith
  · push_cast
    constructor <;> linarith

/-- A number at most a half away from zero is rounded to zero. -/
theorem nearest_eq_zero_iff {q : Rat} : nearest q = 0 ↔ |q| ≤ 1 / 2 := by
  constructor
  · intro zero
    have close := abs_sub_nearest q
    rwa [zero, Int.cast_zero, sub_zero] at close
  · intro small
    obtain ⟨low, high⟩ := abs_le.mp small
    have below := Int.floor_le q
    have above := Int.lt_floor_add_one q
    unfold nearest
    dsimp only
    rcases lt_or_ge q 0 with negative | natural
    · have floor : ⌊q⌋ = -1 := by
        rw [Int.floor_eq_iff]
        push_cast
        constructor <;> linarith
      rw [floor, Int.cast_neg, Int.cast_one, if_neg (by linarith), if_neg (by simp)]
      rfl
    · have floor : ⌊q⌋ = 0 := by
        rw [Int.floor_eq_iff]
        push_cast
        constructor <;> linarith
      rw [floor, Int.cast_zero]
      split
      · rfl
      next large => rw [if_pos ⟨by linarith, rfl⟩]

-----------------------------------------------------------------------------------------
-- Rounding
-----------------------------------------------------------------------------------------

/-- The distance of the numbers of the format around a number. -/
def quantum (q : Rat) : Rat := 2 ^ max (Int.log 2 |q| - 52) (-1074)

/-- The nearest number of the format. -/
def round (q : Rat) : Rat := nearest (q / quantum q) * quantum q

/-- The least positive number of the format. -/
def least : Rat := 2 ^ (-1074 : Int)

theorem least_pos : 0 < least := by
  unfold least
  positivity

theorem least_le_quantum (q : Rat) : least ≤ quantum q :=
  zpow_le_zpow_right₀ (by norm_num) (le_max_right _ _)

theorem quantum_pos (q : Rat) : 0 < quantum q := least_pos.trans_le (least_le_quantum q)

/-- Numbers of 53 digits in base 2, or multiples of the least one. -/
theorem quantum_le {q : Rat} (nonzero : q ≠ 0) : quantum q ≤ |q| / 2 ^ 52 ∨ quantum q = least := by
  unfold quantum
  rcases le_total (Int.log 2 |q| - 52) (-1074) with small | large
  · exact .inr (by rw [max_eq_right small]; rfl)
  left
  rw [max_eq_left large, zpow_sub₀ (by norm_num)]
  have leading := Int.zpow_log_le_self (b := 2) (by norm_num) (abs_pos.mpr nonzero)
  push_cast at leading
  have divided := div_le_div_of_nonneg_right leading (show (0 : Rat) ≤ 2 ^ 52 by positivity)
  exact_mod_cast divided

theorem abs_sub_round (q : Rat) : |q - round q| ≤ quantum q / 2 := by
  have positive := quantum_pos q
  have scaled : q - round q = (q / quantum q - nearest (q / quantum q)) * quantum q := by
    unfold round
    field_simp
  rw [scaled, abs_mul, abs_of_pos positive]
  have close := abs_sub_nearest (q / quantum q)
  nlinarith

@[simp] theorem round_zero : round 0 = 0 := by
  have zero : nearest 0 = 0 := nearest_eq_zero_iff.mpr (by norm_num)
  unfold round
  rw [zero_div, zero, Int.cast_zero, zero_mul]

/-- Only numbers at most half the least one are rounded to zero. -/
theorem round_eq_zero_iff {q : Rat} : round q = 0 ↔ |q| ≤ least / 2 := by
  rcases eq_or_ne q 0 with rfl | nonzero
  · exact iff_of_true round_zero (by rw [abs_zero]; linarith [least_pos])
  have positive := quantum_pos q
  have scaled : round q = 0 ↔ |q| ≤ quantum q / 2 := by
    unfold round
    rw [mul_eq_zero, or_iff_left positive.ne', Int.cast_eq_zero, nearest_eq_zero_iff, abs_div,
      abs_of_pos positive, div_le_iff₀ positive]
    constructor <;> intro small <;> linarith
  rw [scaled]
  constructor
  · intro small
    rcases quantum_le nonzero with relative | same
    · have bounded : |q| ≤ |q| / 2 ^ 52 / 2 := by linarith
      have zero : |q| ≤ 0 := by
        norm_num at bounded
        linarith
      linarith [least_pos]
    · rwa [same] at small
  · intro small
    linarith [least_le_quantum q]

/-- What is not rounded to zero is at least the least number. -/
theorem least_le_round {q : Rat} (nonzero : round q ≠ 0) : least ≤ |round q| := by
  have positive := quantum_pos q
  unfold round at nonzero ⊢
  rw [abs_mul, abs_of_pos positive]
  have integer : (1 : Rat) ≤ |(nearest (q / quantum q) : Rat)| := by
    have whole : nearest (q / quantum q) ≠ 0 := by
      intro zero
      rw [zero] at nonzero
      simp at nonzero
    exact_mod_cast Int.one_le_abs whole
  nlinarith [least_le_quantum q]

/-- The error is relative, or at most half the least number. -/
theorem abs_sub_round_le (q : Rat) : |q - round q| ≤ |q| / 2 ^ 53 ∨ |q - round q| ≤ least / 2 := by
  rcases eq_or_ne q 0 with rfl | nonzero
  · simp
  have close := abs_sub_round q
  rcases quantum_le nonzero with relative | same
  · left
    norm_num at relative ⊢
    linarith
  · right
    rwa [same] at close

-----------------------------------------------------------------------------------------
-- Decimal digits
-----------------------------------------------------------------------------------------

/-- The multiples of a power of ten next to a number that are rounded to the same number. -/
def spellings (q : Rat) (exponent : Nat) : List Int :=
  let power : Int := 10 ^ exponent
  [⌊q / power⌋ * power, ⌈q / power⌉ * power].filter fun n => round n = round q

/-- The nearest of the integers next to a number. -/
def nearer (q : Rat) : List Int → Option Int
  | [] => none
  | [below] => some below
  | below :: above :: _ => some (if q - below ≤ above - q then below else above)

/-- The integer that the fewest decimal digits spell which are read as the number. -/
def shortest (q : Rat) : Int :=
  ((List.range 309).reverse.findSome? fun exponent => nearer q (spellings q exponent)).getD ⌊q⌋

example : round (1 / 10) = 3602879701896397 / 36028797018963968 := by decide +kernel

example : shortest (round (10 ^ 23)) = 10 ^ 23 := by decide +kernel

end Binary64
