import Mathlib.Data.List.Basic

/-! Runs of a deterministic system, and the induction over them.
A condition on the steps of a run may look at the state each step is taken in.
-/

universe u v

namespace Run

variable {σ : Type u} {ε : Type v} {step : σ → ε → σ}

/-- Every step the run takes from the start meets the condition. -/
def Along (step : σ → ε → σ) (start : σ) (events : List ε) (condition : σ → ε → Prop) : Prop :=
  ∀ before event after,
    events = before ++ event :: after → condition (before.foldl step start) event

/-- A run of no steps meets every condition. -/
theorem along_nil {start : σ} {condition : σ → ε → Prop} : Along step start [] condition := by
  intro before event after split
  simp at split

/-- A run meets a condition when its first step does and the rest of it does. -/
theorem along_cons {start : σ} {event : ε} {rest : List ε} {condition : σ → ε → Prop}
    : Along step start (event :: rest) condition
      ↔ condition start event ∧ Along step (step start event) rest condition := by
  constructor
  · intro along
    refine ⟨along [] event rest rfl, fun before later after split => ?_⟩
    exact along (event :: before) later after (by rw [split]; rfl)
  · rintro ⟨first, along⟩ before later after split
    cases before with
    | nil =>
        cases split
        exact first
    | cons head before =>
        cases split
        exact along before later after rfl

instance decidableAlong {condition : σ → ε → Prop}
    [∀ state event, Decidable (condition state event)]
    : (start : σ) → (events : List ε) → Decidable (Along step start events condition)
  | _, [] => isTrue along_nil
  | start, event :: rest =>
      have : Decidable (Along step (step start event) rest condition) := decidableAlong _ rest
      decidable_of_iff (condition start event ∧ Along step (step start event) rest condition)
        along_cons.symm

/-- A run meets a condition when both its parts do, by induction over the first. -/
theorem along_append {start : σ} {first rest : List ε} {condition : σ → ε → Prop}
    : Along step start (first ++ rest) condition
      ↔ Along step start first condition
        ∧ Along step (first.foldl step start) rest condition := by
  induction first generalizing start with
  | nil =>
      exact ⟨fun along => ⟨along_nil, along⟩, And.right⟩
  | cons event first ih =>
      rw [List.cons_append, along_cons, along_cons, ih, and_assoc]
      rfl

/-- A condition that the events meet in every state is met along every run. -/
theorem along_of_forall {start : σ} {events : List ε} {condition : σ → ε → Prop}
    (met : ∀ event ∈ events, ∀ state, condition state event)
    : Along step start events condition := by
  rintro before event after rfl
  exact met event (by simp) _

theorem Along.mono {start : σ} {events : List ε} {condition condition' : σ → ε → Prop}
    (along : Along step start events condition)
    (implies : ∀ state event, condition state event → condition' state event)
    : Along step start events condition' :=
  fun before event after split => implies _ _ (along before event after split)

/-- What every step keeps whose condition is met holds wherever a run of such steps ends.
Witness: induction over the events.
-/
theorem Along.keeps {start : σ} {events : List ε} {condition : σ → ε → Prop}
    (along : Along step start events condition) {inv : σ → Prop} (holds : inv start)
    (keeps : ∀ state event, inv state → condition state event → inv (step state event))
    : inv (events.foldl step start) := by
  induction events generalizing start with
  | nil => exact holds
  | cons event rest ih =>
      obtain ⟨first, later⟩ := along_cons.mp along
      exact ih later (keeps start event holds first)

/-- What an invariant and the condition on a step imply of the step holds along the run.
Witness: induction over the events.
-/
theorem Along.implies {start : σ} {events : List ε} {condition post : σ → ε → Prop}
    (along : Along step start events condition) {inv : σ → Prop} (holds : inv start)
    (serves
      : ∀ state event,
          inv state → condition state event → post state event ∧ inv (step state event))
    : Along step start events post := by
  induction events generalizing start with
  | nil => exact along_nil
  | cons event rest ih =>
      obtain ⟨first, later⟩ := along_cons.mp along
      obtain ⟨served, kept⟩ := serves start event holds first
      exact along_cons.mpr ⟨served, ih later kept⟩

/-- A run is cut at any of its steps. -/
theorem Along.take {start : σ} {before after : List ε} {condition : σ → ε → Prop}
    (along : Along step start (before ++ after) condition)
    : Along step start before condition := by
  intro front event back split
  exact along front event (back ++ after) (by rw [split]; simp)

/-- What every step keeps holds after every run. -/
theorem keeps {start : σ} {inv : σ → Prop} (holds : inv start)
    (keeps : ∀ state event, inv state → inv (step state event)) (events : List ε)
    : inv (events.foldl step start) :=
  have along : Along step start events fun _ _ => True := fun _ _ _ _ => trivial
  along.keeps holds fun state event kept _ => keeps state event kept

end Run
