import Mathlib.Data.List.Basic
import Mathlib.Data.List.Induction

/-! Chains of records that each carry the hash of the record before.
The hash is a parameter: what a chain binds depends on what equal hashes are known to say
about the records of the chains at hand.
-/

universe u v

/-- What a record carries: the hash it is linked behind, its own hash as stored, and the hash
that its contents give.
-/
structure HashChain (ε : Type u) (η : Type v) where
  previous : ε → Option η
  stored : ε → Option η
  computed : ε → η

namespace HashChain

variable {ε : Type u} {η : Type v} (chain : HashChain ε η)

/-- Every record is linked behind the one before and stores the hash of its contents. -/
def Accepts : Option η → List ε → Prop
  | _, [] => True
  | link, record :: rest =>
      chain.previous record = link
      ∧ chain.stored record = some (chain.computed record)
      ∧ Accepts (chain.stored record) rest

/-- The hash a further record is linked behind. -/
def lastHash (link : Option η) (records : List ε) : Option η :=
  (records.getLast?.map chain.stored).getD link

@[simp] theorem lastHash_nil (link : Option η) : chain.lastHash link [] = link := rfl

@[simp] theorem lastHash_concat (link : Option η) (records : List ε) (record : ε)
    : chain.lastHash link (records ++ [record]) = chain.stored record := by
  simp [lastHash]

theorem lastHash_cons (link : Option η) (record : ε) (rest : List ε)
    : chain.lastHash link (record :: rest) = chain.lastHash (chain.stored record) rest := by
  unfold lastHash
  cases rest with
  | nil => rfl
  | cons next rest =>
      rw [List.getLast?_cons_cons]
      cases last : (next :: rest).getLast? with
      | none => simp at last
      | some value => rfl

/-- A chain is extended by a record linked behind its last one, by induction over the chain. -/
theorem accepts_concat {link : Option η} {records : List ε} {record : ε}
    : chain.Accepts link (records ++ [record])
      ↔ chain.Accepts link records
        ∧ chain.previous record = chain.lastHash link records
        ∧ chain.stored record = some (chain.computed record) := by
  induction records generalizing link with
  | nil => simp [Accepts]
  | cons head rest ih =>
      rw [List.cons_append, Accepts, Accepts, ih, lastHash_cons]
      constructor
      · rintro ⟨previous, stored, accepted, linked⟩
        exact ⟨⟨previous, stored, accepted⟩, linked⟩
      · rintro ⟨⟨previous, stored, accepted⟩, linked⟩
        exact ⟨previous, stored, accepted, linked⟩

variable {chain}

/-- An accepted chain stores a hash with its last record. -/
theorem Accepts.lastHash_ne {link : Option η} {records : List ε} {record : ε}
    (accepted : chain.Accepts link (records ++ [record]))
    : chain.lastHash link (records ++ [record]) ≠ none := by
  rw [lastHash_concat, ((chain.accepts_concat).mp accepted).2.2]
  exact Option.some_ne_none _

/-- Two chains from the start that end in the same hash are the same chain, where equal
hashes bind their records. Witness: induction over the first chain from its end.
-/
theorem Accepts.eq_of_lastHash {first second : List ε}
    (accepted : chain.Accepts none first) (accepted' : chain.Accepts none second)
    (binds
      : ∀ a ∈ first, ∀ b ∈ second,
          chain.stored a = some (chain.computed a) → chain.stored b = some (chain.computed b)
          → chain.computed a = chain.computed b → a = b)
    (same : chain.lastHash none first = chain.lastHash none second)
    : first = second := by
  induction first using List.reverseRecOn generalizing second with
  | nil =>
      cases second using List.reverseRecOn with
      | nil => rfl
      | append_singleton front last => exact absurd same.symm accepted'.lastHash_ne
  | append_singleton front last ih =>
      cases second using List.reverseRecOn with
      | nil => exact absurd same accepted.lastHash_ne
      | append_singleton front' last' =>
          obtain ⟨chained, previous, stored⟩ := chain.accepts_concat.mp accepted
          obtain ⟨chained', previous', stored'⟩ := chain.accepts_concat.mp accepted'
          have hashes : chain.computed last = chain.computed last' := by
            rw [lastHash_concat, lastHash_concat, stored, stored'] at same
            exact Option.some.inj same
          have lasts : last = last' :=
            binds last (by simp) last' (by simp) stored stored' hashes
          have links : chain.lastHash none front = chain.lastHash none front' := by
            rw [← previous, ← previous', lasts]
          have fronts : front = front' :=
            ih chained chained'
              (fun a member b member' =>
                binds a (List.mem_append_left _ member) b (List.mem_append_left _ member'))
              links
          rw [fronts, lasts]

end HashChain
