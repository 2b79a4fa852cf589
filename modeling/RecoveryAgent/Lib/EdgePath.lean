import Mathlib.Data.List.Basic

/-! Paths of labelled edges, given by the two ends of an edge.
A log of moves is a path when every move starts where the one before it ended.
-/

universe u v

/-- The edges lead from the first state to the last, one after the other. -/
inductive EdgePath {σ : Type u} {ε : Type v} (source target : ε → σ) : σ → List ε → σ → Prop where
  | nil (state : σ) : EdgePath source target state [] state
  | cons (edge : ε) {rest : List ε} {final : σ}
      (later : EdgePath source target (target edge) rest final)
    : EdgePath source target (source edge) (edge :: rest) final

namespace EdgePath

variable {σ : Type u} {ε : Type v} {source target : ε → σ} {first middle last : σ}
  {left right : List ε}

/-- A path of one edge. -/
theorem single (edge : ε) : EdgePath source target (source edge) [edge] (target edge) :=
  .cons edge (.nil _)

/-- Without edges nothing moves. -/
theorem eq_of_nil (path : EdgePath source target first [] last) : first = last := by
  cases path
  rfl

/-- Behind its first edge a path starts at the target of that edge. -/
theorem tail {edge : ε} (path : EdgePath source target first (edge :: left) last)
    : EdgePath source target (target edge) left last := by
  cases path with
  | cons _ later => exact later

/-- Paths that meet compose, by induction over the first. -/
theorem append (before : EdgePath source target first left middle)
    (after : EdgePath source target middle right last)
    : EdgePath source target first (left ++ right) last := by
  induction before with
  | nil => exact after
  | cons edge later ih => exact .cons edge (ih after)

/-- The edges determine where a path ends, by induction over them. -/
theorem unique {last' : σ} (path : EdgePath source target first left last)
    (path' : EdgePath source target first left last')
    : last = last' := by
  induction path with
  | nil => exact path'.eq_of_nil
  | cons edge later ih => exact ih path'.tail

/-- The edges of a path stay in a set of states that no edge leaves, once it starts there. -/
theorem stays {inside : σ → Prop} (path : EdgePath source target first left last)
    (started : inside first)
    (kept : ∀ edge ∈ left, inside (source edge) → inside (target edge))
    : inside last ∧ ∀ edge ∈ left, inside (target edge) := by
  induction path with
  | nil => exact ⟨started, by simp⟩
  | cons edge later ih =>
      have here := kept edge (by simp) started
      have rest := ih here fun edge member => kept edge (List.mem_cons_of_mem _ member)
      exact ⟨rest.1, List.forall_mem_cons.mpr ⟨here, rest.2⟩⟩

/-- Where an edge of the path has entered such a set, the path ends in it. Witness:
induction over the path up to that edge.
-/
theorem ends {inside : σ → Prop} (path : EdgePath source target first left last)
    (kept : ∀ edge ∈ left, inside (source edge) → inside (target edge))
    (entered : ∃ edge ∈ left, inside (target edge))
    : inside last := by
  induction path with
  | nil => simp at entered
  | cons edge later ih =>
      have laterKept := (List.forall_mem_cons.mp kept).2
      obtain ⟨found, member, reached⟩ := entered
      rcases List.mem_cons.mp member with rfl | member
      · exact (later.stays reached laterKept).1
      · exact ih laterKept ⟨found, member, reached⟩

end EdgePath
