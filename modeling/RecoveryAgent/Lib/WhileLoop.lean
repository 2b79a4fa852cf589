import Mathlib.Logic.Function.Iterate

/-! A loop that may not end, run with fuel.
How it ends depends on its iterates only: the first that fails the condition, if there is one.
-/

universe u

namespace WhileLoop

variable {σ : Type u} (continues : σ → Bool) (body : σ → σ)

/-- `while continues: body`, given up with no fuel left. -/
def run : Nat → σ → Option σ
  | 0, _ => none
  | fuel + 1, state => if continues state then run fuel (body state) else some state

variable {continues body}

/-- A loop that runs through its iterates up to one that fails the condition returns it. -/
theorem run_iterate {n : Nat} {state : σ} (goes : ∀ k < n, continues (body^[k] state) = true)
    (stops : continues (body^[n] state) = false)
    : run continues body (n + 1) state = some (body^[n] state) := by
  induction n generalizing state with
  | zero =>
      unfold run
      rw [if_neg (by simpa using stops)]
      rfl
  | succ n ih =>
      have first : continues state = true := goes 0 n.succ_pos
      unfold run
      rw [if_pos first, ih (fun k bound => goes (k + 1) (by omega)) stops]
      rfl

/-- A loop whose condition holds of every iterate never ends. -/
theorem run_eq_none {state : σ} (goes : ∀ k, continues (body^[k] state) = true) (fuel : Nat)
    : run continues body fuel state = none := by
  induction fuel generalizing state with
  | zero => rfl
  | succ fuel ih =>
      have first : continues state = true := goes 0
      unfold run
      rw [if_pos first]
      exact ih fun k => goes (k + 1)

/-- A loop that keeps an invariant, and under it lets a measure fall, ends. -/
theorem run_ends {inside : σ → Prop} {measure : σ → Nat}
    (step
      : ∀ state, inside state → continues state = true
        → inside (body state) ∧ measure (body state) < measure state)
    {fuel : Nat} {state : σ} (started : inside state) (enough : measure state < fuel)
    : ∃ final, run continues body fuel state = some final := by
  induction fuel generalizing state with
  | zero => exact absurd enough (Nat.not_lt_zero _)
  | succ fuel ih =>
      unfold run
      split
      · next goes =>
          obtain ⟨kept, falls⟩ := step state started goes
          exact ih kept (by omega)
      · exact ⟨state, rfl⟩

end WhileLoop
