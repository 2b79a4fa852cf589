import Mathlib.Algebra.Order.Group.Defs
import Mathlib.Data.List.Basic

/-! Occurrences within a window that ends now.
A window that only moves forward needs nothing of what an earlier position left out.
-/

universe u

namespace SlidingWindow

variable {τ : Type u} [AddCommGroup τ] [LinearOrder τ]

/-- The times no older than the window at `now`. -/
def recent (window now : τ) (times : List τ) : List τ := times.filter (now - window ≤ ·)

theorem recent_append (window now : τ) (first rest : List τ)
    : recent window now (first ++ rest) = recent window now first ++ recent window now rest :=
  List.filter_append ..

/-- What was pruned earlier is outside the window now. -/
theorem recent_recent [IsOrderedAddMonoid τ] {window earlier now : τ}
    (forward : earlier ≤ now) (times : List τ)
    : recent window now (recent window earlier times) = recent window now times := by
  unfold recent
  rw [List.filter_filter]
  refine List.filter_congr fun time _ => ?_
  have moved : earlier - window ≤ now - window := sub_le_sub_right forward window
  simp only [← Bool.decide_and]
  exact decide_eq_decide.mpr ⟨And.left, fun inside => ⟨inside, moved.trans inside⟩⟩

end SlidingWindow
