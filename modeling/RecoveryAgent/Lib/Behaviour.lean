import Mathlib.Order.Defs.PartialOrder
import RecoveryAgent.Lib.Run

/-! Behaviours of a specification, and the runs of a system that are among them.
A specification allows steps at instants, and between them nothing changes. A system whose every
step is read as one step of the specification, or as none, behaves as the specification does.
-/

universe u v w x

/-- A specification: the states it starts in, and the steps it takes at an instant. -/
structure Specification (τ : Type u) (σ : Type v) where
  init : σ → Prop
  next : τ → σ → σ → Prop

namespace Specification

variable {τ : Type u} {σ : Type v} {spec : Specification τ σ}

/-- A step, or a stuttering one. -/
def Steps (spec : Specification τ σ) (now : τ) (before after : σ) : Prop :=
  spec.next now before after ∨ after = before

/-- From the state on, each instant comes with the state that a step at it leads to. -/
inductive Behaves (spec : Specification τ σ) : σ → List (τ × σ) → Prop where
  | nil (state : σ) : Behaves spec state []
  | cons {state later : σ} {now : τ} {rest : List (τ × σ)} (steps : spec.Steps now state later)
      (behaves : Behaves spec later rest)
    : Behaves spec state ((now, later) :: rest)

/-- What steps keep as time passes holds all along a behaviour, by induction over it. -/
theorem Behaves.invariant [Preorder τ] {inv : τ → σ → Prop} {state : σ} {trace : List (τ × σ)}
    (behaves : spec.Behaves state trace) {start : τ} (holds : inv start state)
    (forward : (start :: trace.map (·.1)).Pairwise (· ≤ ·))
    (keeps
      : ∀ now later before after,
          now ≤ later → inv now before → spec.Steps later before after → inv later after)
    : ∀ moment ∈ trace, inv moment.1 moment.2 := by
  induction behaves generalizing start with
  | nil => simp
  | cons steps behaves ih =>
      obtain ⟨after, forward⟩ := List.pairwise_cons.mp forward
      have here := keeps start _ _ _ (after _ (by simp)) holds steps
      exact List.forall_mem_cons.mpr ⟨here, ih here forward⟩

section Trace

variable {ξ : Type w} {ε : Type x} {step : ξ → ε → ξ} {instant : ε → τ} {reading : ξ → σ}

/-- A run of a system as the specification reads it. -/
def trace (step : ξ → ε → ξ) (instant : ε → τ) (reading : ξ → σ) : ξ → List ε → List (τ × σ)
  | _, [] => []
  | state, event :: rest =>
      (instant event, reading (step state event))
        :: trace step instant reading (step state event) rest

theorem trace_instants (state : ξ) (events : List ε)
    : (trace step instant reading state events).map (·.1) = events.map instant := by
  induction events generalizing state with
  | nil => rfl
  | cons event rest ih =>
      simp only [trace, List.map_cons, ih]

/-- A system refines a specification when its steps are read as steps of it, under an invariant
that passes from one instant to the next. Witness: induction over the events.
-/
theorem behaves_trace [Preorder τ] (reading : ξ → σ) {inv : τ → ξ → Prop}
    {condition : ξ → ε → Prop} {start : τ} {state : ξ} {events : List ε} (holds : inv start state)
    (along : Run.Along step state events condition)
    (forward : (start :: events.map instant).Pairwise (· ≤ ·))
    (serves
      : ∀ now state event,
          inv now state
          → now ≤ instant event
          → condition state event
          → spec.Steps (instant event) (reading state) (reading (step state event))
            ∧ inv (instant event) (step state event))
    : spec.Behaves (reading state) (trace step instant reading state events) := by
  induction events generalizing start state with
  | nil => exact .nil _
  | cons event rest ih =>
      obtain ⟨met, along⟩ := Run.along_cons.mp along
      obtain ⟨after, forward⟩ := List.pairwise_cons.mp forward
      obtain ⟨steps, kept⟩ := serves start state event holds (after _ (by simp)) met
      exact .cons steps (ih kept along forward)

end Trace

end Specification
