import Mathlib.Data.List.Basic

/-! Encodings whose end can be told from what is read.
Delimited encodings compose: concatenations of them are read back from the left, and their
text determines every part.
-/

universe u v w

/-- Whatever follows the encoding of a value, the value and the rest can be read back. -/
def Delimited {α : Type u} {γ : Type v} (encode : α → List γ) : Prop :=
  ∀ ⦃a b : α⦄ ⦃s t : List γ⦄, encode a ++ s = encode b ++ t → a = b ∧ s = t

/-- Two lists are split alike at the first element that is not of the given kind. -/
theorem append_cons_inj_of_stop {γ : Type v} {kind : γ → Prop} {l l' r r' : List γ} {x y : γ}
    (all : ∀ c ∈ l, kind c) (all' : ∀ c ∈ l', kind c) (stop : ¬kind x) (stop' : ¬kind y)
    (same : l ++ x :: r = l' ++ y :: r')
    : l = l' ∧ x = y ∧ r = r' := by
  induction l generalizing l' with
  | nil =>
      cases l' with
      | nil =>
          obtain ⟨rfl, rfl⟩ := List.cons.inj same
          exact ⟨rfl, rfl, rfl⟩
      | cons head tail =>
          obtain ⟨rfl, _⟩ := List.cons.inj same
          exact absurd (all' x (by simp)) stop
  | cons head tail ih =>
      cases l' with
      | nil =>
          obtain ⟨rfl, _⟩ := List.cons.inj same
          exact absurd (all head (by simp)) stop'
      | cons head' tail' =>
          obtain ⟨rfl, rest⟩ := List.cons.inj same
          obtain ⟨rfl, later⟩ := ih (fun c member => all c (List.mem_cons_of_mem _ member))
            (fun c member => all' c (List.mem_cons_of_mem _ member)) rest
          exact ⟨rfl, later⟩

namespace Delimited

variable {α : Type u} {β : Type w} {γ : Type v} {encode : α → List γ}

/-- An encoding with a reader is delimited. -/
theorem of_reader {read : List γ → Option (α × List γ)}
    (reads : ∀ a s, read (encode a ++ s) = some (a, s))
    : Delimited encode := by
  intro a b s t same
  have read_both := (reads a s).symm.trans ((congrArg read same).trans (reads b t))
  exact Prod.mk.inj (Option.some.inj read_both)

theorem injective (delimited : Delimited encode) : Function.Injective encode := by
  intro a b same
  have padded : encode a ++ [] = encode b ++ [] := by rw [same]
  exact (delimited padded).1

/-- A fixed text in front of the encoding is skipped. -/
theorem after (delimited : Delimited encode) (text : List γ) {a b : α} {s t : List γ}
    (same : text ++ (encode a ++ s) = text ++ (encode b ++ t))
    : a = b ∧ s = t :=
  delimited (List.append_cancel_left same)

/-- An injective encoding that avoids an element is delimited once closed by it. -/
theorem closed {kind : γ → Prop} {close : γ} (injective : Function.Injective encode)
    (all : ∀ a, ∀ c ∈ encode a, kind c) (stop : ¬kind close)
    : Delimited fun a => encode a ++ [close] := by
  intro a b s t same
  simp only [List.append_assoc, List.singleton_append] at same
  obtain ⟨texts, _, rest⟩ := append_cons_inj_of_stop (all a) (all b) stop stop same
  exact ⟨injective texts, rest⟩

/-- The elements of a list, one behind the other, up to a mark that no element starts with.
Witness: induction over the first list.
-/
theorem list (delimited : Delimited encode) {close : γ}
    (marked : ∀ a s t, encode a ++ s ≠ close :: t)
    : Delimited fun items : List α => items.flatMap encode ++ [close] := by
  intro items
  induction items with
  | nil =>
      intro items' s t same
      cases items' with
      | nil => exact ⟨rfl, by simpa using same⟩
      | cons head tail =>
          simp only [List.flatMap_nil, List.nil_append, List.flatMap_cons, List.append_assoc,
            List.singleton_append] at same
          exact absurd same.symm (marked head _ _)
  | cons head tail ih =>
      intro items' s t same
      cases items' with
      | nil =>
          simp only [List.flatMap_nil, List.nil_append, List.flatMap_cons, List.append_assoc,
            List.singleton_append] at same
          exact absurd same (marked head _ _)
      | cons head' tail' =>
          simp only [List.flatMap_cons, List.append_assoc] at same
          obtain ⟨rfl, rest⟩ := delimited same
          obtain ⟨rfl, after⟩ := ih (by simpa only [List.append_assoc] using rest)
          exact ⟨rfl, after⟩

/-- An optional value, with a fixed text where there is none. -/
theorem option (delimited : Delimited encode) {absent : List γ}
    (marked : ∀ a s t, encode a ++ s ≠ absent ++ t)
    : Delimited fun value : Option α => (value.map encode).getD absent := by
  intro a b s t same
  cases a with
  | none =>
      cases b with
      | none => exact ⟨rfl, List.append_cancel_left same⟩
      | some b => exact absurd same.symm (marked b t s)
  | some a =>
      cases b with
      | none => exact absurd same (marked a s t)
      | some b =>
          obtain ⟨rfl, rest⟩ := delimited same
          exact ⟨rfl, rest⟩

end Delimited
