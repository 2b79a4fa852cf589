import Mathlib.Data.List.Basic

/-! How a computation that may raise can end.
The predicate bounds values and errors at once; the rules follow the shape of the computation.
-/

universe u

namespace Except

variable {ε α β : Type u}

/-- The computation returns a value of the one kind, or raises an error of the other. -/
def Ends (returned : α → Prop) (raised : ε → Prop) : Except ε α → Prop
  | .ok value => returned value
  | .error failure => raised failure

variable {returned : α → Prop} {raised : ε → Prop} {result : Except ε α}

theorem Ends.of_ok {value : α} (ends : result.Ends returned raised) (ok : result = .ok value)
    : returned value := by
  subst ok
  exact ends

theorem Ends.of_error {failure : ε} (ends : result.Ends returned raised)
    (failed : result = .error failure)
    : raised failure := by
  subst failed
  exact ends

/-- Bounds on every outcome bound the end. -/
theorem ends_of_forall (values : ∀ value, result = .ok value → returned value)
    (errors : ∀ failure, result = .error failure → raised failure)
    : result.Ends returned raised := by
  cases result with
  | ok value => exact values value rfl
  | error failure => exact errors failure rfl

/-- Wider bounds hold as well. -/
theorem Ends.mono {returned' : α → Prop} {raised' : ε → Prop}
    (ends : result.Ends returned raised) (values : ∀ value, returned value → returned' value)
    (errors : ∀ failure, raised failure → raised' failure)
    : result.Ends returned' raised' := by
  cases result with
  | ok value => exact values value ends
  | error failure => exact errors failure ends

/-- A sequence ends as its second part does, after the values the first part may return. -/
theorem Ends.bind {next : α → Except ε β} {returned' : β → Prop}
    (ends : result.Ends returned raised)
    (rest : ∀ value, result = .ok value → returned value → (next value).Ends returned' raised)
    : (result >>= next).Ends returned' raised := by
  cases result with
  | ok value => exact rest value rfl ends
  | error failure => exact ends

theorem Ends.map {change : α → β} {returned' : β → Prop} (ends : result.Ends returned raised)
    (values : ∀ value, returned value → returned' (change value))
    : (result.map change).Ends returned' raised := by
  cases result with
  | ok value => exact values value ends
  | error failure => exact ends

/-- What a sequence returns is of the kind when the second part's value is, whatever is raised. -/
theorem bind_returns {next : α → Except ε β} {returned' : β → Prop}
    (rest : ∀ value, result = .ok value → (next value).Ends returned' fun _ => True)
    : (result >>= next).Ends returned' fun _ => True := by
  cases result with
  | ok value => exact rest value rfl
  | error failure => exact trivial

/-- A loop returns a list of what its body returns, by induction over the items. -/
theorem Ends.mapM {body : β → Except ε α} {items : List β}
    (ends : ∀ item ∈ items, (body item).Ends returned raised)
    : (items.mapM body).Ends (fun values => ∀ value ∈ values, returned value) raised := by
  induction items with
  | nil => exact fun _ member => nomatch member
  | cons item rest ih =>
      rw [List.mapM_cons]
      refine (ends item (by simp)).bind fun value _ first => ?_
      refine (ih fun item member => ends item (by simp [member])).bind fun values _ later => ?_
      exact List.forall_mem_cons.mpr ⟨first, later⟩

/-- Whatever the computation returns, it raises errors of the one kind only. -/
def RaisesOnly (raised : ε → Prop) (result : Except ε α) : Prop :=
  result.Ends (fun _ => True) raised

/-- A sequence raises what its parts raise, the second part where it is reached. -/
theorem raisesOnly_bind {next : α → Except ε β}
    : RaisesOnly raised (result >>= next)
      ↔ RaisesOnly raised result
        ∧ ∀ value, result = .ok value → RaisesOnly raised (next value) := by
  cases result with
  | ok value =>
      constructor
      · intro rest
        refine ⟨trivial, fun value' same => ?_⟩
        cases same
        exact rest
      · exact fun both => both.2 value rfl
  | error failure => exact ⟨fun only => ⟨only, nofun⟩, fun both => both.1⟩

end Except
