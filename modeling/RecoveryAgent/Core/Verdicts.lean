import RecoveryAgent.Core.FalseAlarms

/-! The verdicts of the compliance verifier: which rules it reports on, and what the reported
spacing and blackout results mean. A notice that waits for its execution, after another notice
had one, leaves the lead time rule without a result.
-/

namespace RecoveryAgent.Verifier

open StateMachine

-----------------------------------------------------------------------------------------
-- The end of the notice loop
-----------------------------------------------------------------------------------------

/-- A notice of the trail is followed by entries with the property. -/
def NoticedThen (property : List AuditEntry → Prop) (entries : List AuditEntry) : Prop :=
  ∃ before notice after,
    entries = before ++ notice :: after ∧ notice.toState = .noticeSent ∧ property after

/-- Entries without an execution. -/
def Idle (entries : List AuditEntry) : Prop := ∀ entry ∈ entries, entry.toState ≠ .retryExecuted

theorem NoticedThen.cons {property : List AuditEntry → Prop} {entry : AuditEntry}
    {rest : List AuditEntry}
    : NoticedThen property (entry :: rest)
      ↔ (entry.toState = .noticeSent ∧ property rest) ∨ NoticedThen property rest := by
  constructor
  · rintro ⟨before, notice, after, split, noticed, holds⟩
    cases before with
    | nil =>
        cases split
        exact .inl ⟨noticed, holds⟩
    | cons head tail =>
        cases split
        exact .inr ⟨tail, notice, after, rfl, noticed, holds⟩
  · rintro (⟨noticed, holds⟩ | ⟨before, notice, after, split, noticed, holds⟩)
    · exact ⟨[], entry, rest, rfl, noticed, holds⟩
    · exact ⟨entry :: before, notice, after, by rw [split, List.cons_append], noticed, holds⟩

end RecoveryAgent.Verifier
