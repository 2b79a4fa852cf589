import Mathlib.Logic.Basic

/-! Computations on a state that may raise, and that keep what they did to the state before.
The rules follow the shape of a computation: two starts that no first step tells apart, and
states that no step leaves.
-/

universe u v w

/-- A computation that changes a state and returns a value or raises. -/
def Attempt (σ : Type u) (ε : Type v) (α : Type w) := σ → Except ε α × σ

namespace Attempt

variable {σ : Type u} {ε : Type v} {α β : Type w}

instance : Monad (Attempt σ ε) where
  pure value := fun state => (.ok value, state)
  bind first next := fun state =>
    match first state with
    | (.ok value, state) => next value state
    | (.error failure, state) => (.error failure, state)

/-- The handler goes on where the body raised, with what the body did to the state. -/
def rescue (body : Attempt σ ε α) (handler : ε → Attempt σ ε α) : Attempt σ ε α := fun state =>
  match body state with
  | (.ok value, state) => (.ok value, state)
  | (.error failure, state) => handler failure state

instance : MonadExcept ε (Attempt σ ε) where
  throw failure := fun state => (.error failure, state)
  tryCatch := rescue

@[simp] theorem pure_apply (value : α) (state : σ)
    : (pure value : Attempt σ ε α) state = (.ok value, state) := rfl

@[simp] theorem throw_apply (failure : ε) (state : σ)
    : (throw failure : Attempt σ ε α) state = (.error failure, state) := rfl

/-- A sequence goes on where its first part returns. -/
theorem bind_ok {first : Attempt σ ε α} {next : α → Attempt σ ε β} {value : α}
    {state state' : σ} (returned : first state = (.ok value, state'))
    : (first >>= next) state = next value state' := by
  change (match first state with
    | (.ok value, state) => next value state
    | (.error failure, state) => (.error failure, state)) = _
  rw [returned]

/-- A sequence ends where its first part raises. -/
theorem bind_error {first : Attempt σ ε α} {next : α → Attempt σ ε β} {failure : ε}
    {state state' : σ} (raised : first state = (.error failure, state'))
    : (first >>= next) state = (.error failure, state') := by
  change (match first state with
    | (.ok value, state) => next value state
    | (.error failure, state) => (.error failure, state)) = _
  rw [raised]

/-- A guarded computation that returns is not touched. -/
theorem rescue_ok {body : Attempt σ ε α} {handler : ε → Attempt σ ε α} {value : α}
    {state state' : σ} (returned : body state = (.ok value, state'))
    : body.rescue handler state = (.ok value, state') := by
  unfold rescue
  rw [returned]

theorem rescue_error {body : Attempt σ ε α} {handler : ε → Attempt σ ε α} {failure : ε}
    {state state' : σ} (raised : body state = (.error failure, state'))
    : body.rescue handler state = handler failure state' := by
  unfold rescue
  rw [raised]

/-- The computation does the same from both states. -/
def Blind (attempt : Attempt σ ε α) (state state' : σ) : Prop := attempt state = attempt state'

variable {state state' : σ}

/-- What the first part does not tell apart, the sequence does not. -/
theorem Blind.bind {first : Attempt σ ε α} (blind : first.Blind state state')
    (next : α → Attempt σ ε β)
    : (first >>= next).Blind state state' := by
  unfold Blind at blind ⊢
  cases outcome : first state' with
  | mk result ended =>
      rw [outcome] at blind
      cases result with
      | ok value => rw [bind_ok blind, bind_ok outcome]
      | error failure => rw [bind_error blind, bind_error outcome]

theorem Blind.rescue {body : Attempt σ ε α} (blind : body.Blind state state')
    (handler : ε → Attempt σ ε α)
    : (body.rescue handler).Blind state state' := by
  unfold Blind at blind ⊢
  cases outcome : body state' with
  | mk result ended =>
      rw [outcome] at blind
      cases result with
      | ok value => rw [rescue_ok blind, rescue_ok outcome]
      | error failure => rw [rescue_error blind, rescue_error outcome]

/-- From the state the computation raises an error of the kind and ends in a state of the
kind.
-/
def Stuck (attempt : Attempt σ ε α) (state : σ) (raised : ε → Prop) (ended : σ → Prop) : Prop :=
  ∃ failure state', attempt state = (.error failure, state') ∧ raised failure ∧ ended state'

variable {raised : ε → Prop} {ended : σ → Prop}

/-- A sequence whose first part is stuck is stuck. -/
theorem Stuck.bind {first : Attempt σ ε α} (stuck : first.Stuck state raised ended)
    (next : α → Attempt σ ε β)
    : (first >>= next).Stuck state raised ended := by
  obtain ⟨failure, state', outcome, kind, kept⟩ := stuck
  exact ⟨failure, state', bind_error outcome, kind, kept⟩

/-- A handler that passes the errors of the kind on does not help. -/
theorem Stuck.rescue {body : Attempt σ ε α} (stuck : body.Stuck state raised ended)
    {handler : ε → Attempt σ ε α}
    (passed : ∀ failure, raised failure → handler failure = throw failure)
    : (body.rescue handler).Stuck state raised ended := by
  obtain ⟨failure, state', outcome, kind, kept⟩ := stuck
  refine ⟨failure, state', ?_, kind, kept⟩
  rw [rescue_error outcome, passed failure kind]
  rfl

end Attempt
