import Mathlib.Order.Lattice
import Mathlib.Data.List.Basic

/-! The first of the best elements of a list, and the greedy scan that finds it. -/

universe u v

variable {α : Type u} {β : Type v} [LinearOrder β] {score : α → β}

/-- The element beats all before it, and none after it is better. -/
def IsFirstMax (score : α → β) (items : List α) (best : α) : Prop :=
  ∃ front back,
    items = front ++ best :: back
    ∧ (∀ other ∈ front, score other < score best)
    ∧ ∀ other ∈ back, score other ≤ score best

namespace IsFirstMax

theorem singleton (item : α) : IsFirstMax score [item] item := ⟨[], [], rfl, by simp, by simp⟩

/-- The head is the first of the best exactly if nothing after it is better. -/
theorem head_iff {first : α} {rest : List α} (distinct : first ∉ rest)
    : IsFirstMax score (first :: rest) first ↔ ∀ other ∈ rest, score other ≤ score first := by
  constructor
  · rintro ⟨front, back, split, _, atMost⟩
    cases front with
    | nil =>
        obtain ⟨_, rfl⟩ := List.cons.inj split
        exact atMost
    | cons head front =>
        obtain ⟨_, rfl⟩ := List.cons.inj split
        exact absurd (by simp) distinct
  · exact fun atMost => ⟨[], rest, rfl, by simp, atMost⟩

variable {items : List α} {best item : α}

/-- A strictly better element at the end takes over. -/
theorem displaced (holds : IsFirstMax score items best) (better : score best < score item)
    : IsFirstMax score (items ++ [item]) item := by
  obtain ⟨front, back, rfl, below, atMost⟩ := holds
  refine ⟨front ++ best :: back, [], rfl, fun other listed => ?_, by simp⟩
  rcases List.mem_append.mp listed with early | late
  · exact lt_trans (below other early) better
  · rcases List.mem_cons.mp late with rfl | late
    · exact better
    · exact lt_of_le_of_lt (atMost other late) better

/-- An element at the end that is not better changes nothing. -/
theorem kept (holds : IsFirstMax score items best) (better : ¬ score best < score item)
    : IsFirstMax score (items ++ [item]) best := by
  obtain ⟨front, back, rfl, below, atMost⟩ := holds
  refine ⟨front, back ++ [item], by simp, below, fun other listed => ?_⟩
  rcases List.mem_append.mp listed with early | late
  · exact atMost other early
  · rw [List.mem_singleton.mp late]
    exact not_lt.mp better

/-- The scan carries the best element with its score, by induction over what is left. -/
theorem foldl {rest : List α} (holds : IsFirstMax score items best)
    : ∃ found,
        rest.foldl
            (fun (best : α × β) item => if best.2 < score item then (item, score item) else best)
            (best, score best)
          = (found, score found)
        ∧ IsFirstMax score (items ++ rest) found := by
  induction rest generalizing items best with
  | nil => exact ⟨best, rfl, by simpa using holds⟩
  | cons item rest ih =>
      rw [List.foldl_cons, List.append_cons]
      by_cases better : score best < score item
      · rw [if_pos better]
        exact ih (holds.displaced better)
      · rw [if_neg better]
        exact ih (holds.kept better)

/-- There is one first of the best. Witness: of two, the later beats the earlier, which is no
worse.
-/
theorem unique {other : α} (first : IsFirstMax score items best)
    (second : IsFirstMax score items other)
    : best = other := by
  obtain ⟨front, back, rfl, below, atMost⟩ := first
  obtain ⟨front', back', same, below', atMost'⟩ := second
  rcases List.append_eq_append_iff.mp same with ⟨mid, rfl, tails⟩ | ⟨mid, rfl, tails⟩
  · cases mid with
    | nil => exact (List.cons.inj tails).1
    | cons head mid =>
        obtain ⟨rfl, rfl⟩ := List.cons.inj tails
        exact absurd (below' best (by simp)) (not_lt.mpr (atMost other (by simp)))
  · cases mid with
    | nil => exact (List.cons.inj tails).1.symm
    | cons head mid =>
        obtain ⟨rfl, rfl⟩ := List.cons.inj tails
        exact absurd (below other (by simp)) (not_lt.mpr (atMost' best (by simp)))

end IsFirstMax
