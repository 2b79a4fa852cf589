import Mathlib.Data.List.Basic

/-! Programs as trees of requests to their environment.
A program either has a result or issues one request and continues with the reply. The
same tree is read three ways: executed at once against a state, followed request by
request (a crash is a prefix), or interleaved with other programs.
-/

universe u

/-- A program over requests `Op` whose replies have the types `Res`. -/
inductive Program (Op : Type u) (Res : Op → Type u) (α : Type u) where
  | pure (value : α) : Program Op Res α
  | request (op : Op) (next : Res op → Program Op Res α) : Program Op Res α

namespace Program

variable {Op : Type u} {Res : Op → Type u} {α β γ σ : Type u}

/-- Runs the first program and hands its result to the second. -/
def bind (program : Program Op Res α) (next : α → Program Op Res β) : Program Op Res β :=
  match program with
  | .pure value => next value
  | .request op rest => .request op (fun reply => (rest reply).bind next)

/-- The program that issues one request and returns the reply. -/
def ask (op : Op) : Program Op Res (Res op) := .request op .pure

instance : Monad (Program Op Res) where
  pure := .pure
  bind := bind

@[simp] theorem pure_bind' (value : α) (next : α → Program Op Res β)
    : (Program.pure value : Program Op Res α) >>= next = next value := rfl

@[simp] theorem request_bind (op : Op) (rest : Res op → Program Op Res α)
    (next : α → Program Op Res β)
    : Program.request op rest >>= next = .request op (fun reply => rest reply >>= next) := rfl

/-- The program has come to its result. -/
def Ended : Program Op Res α → Prop
  | .pure _ => True
  | .request _ _ => False

instance (program : Program Op Res α) : Decidable program.Ended :=
  match program with
  | .pure _ => isTrue trivial
  | .request _ _ => isFalse id

-----------------------------------------------------------------------------------------
-- Execution without interference
-----------------------------------------------------------------------------------------

/-- Executes a program at once: every request is answered by `sem` in the current state. -/
def execute (sem : (op : Op) → σ → Res op × σ) : Program Op Res α → σ → α × σ
  | .pure value, state => (value, state)
  | .request op next, state =>
      let answered := sem op state
      execute sem (next answered.1) answered.2

section Execute

variable {sem : (op : Op) → σ → Res op × σ}

@[simp] theorem execute_pure (value : α) (state : σ)
    : execute sem (Pure.pure value : Program Op Res α) state = (value, state) := rfl

@[simp] theorem execute_ask (op : Op) (state : σ)
    : execute sem (ask op : Program Op Res (Res op)) state = sem op state := rfl

/-- Execution of a sequence threads the state, by induction over the first program. -/
@[simp] theorem execute_bind (program : Program Op Res α) (next : α → Program Op Res β)
    (state : σ)
    : execute sem (program >>= next) state
      = execute sem (next (execute sem program state).1) (execute sem program state).2 := by
  induction program generalizing state with
  | pure value => rfl
  | request op rest ih => exact ih _ _

end Execute

-----------------------------------------------------------------------------------------
-- Crashes
-----------------------------------------------------------------------------------------

/-- The request the program comes to after so many others, and the state it would be
answered in.
-/
def requestAt (sem : (op : Op) → σ → Res op × σ) : Nat → Program Op Res α → σ → Option (Op × σ)
  | _, .pure _, _ => none
  | 0, .request op _, state => some (op, state)
  | n + 1, .request op next, state => requestAt sem n (next (sem op state).1) (sem op state).2

/-- The program, executed at once, can stop before the request and leave the state. -/
def Stops (sem : (op : Op) → σ → Res op × σ) (program : Program Op Res α) (start : σ) (op : Op)
    (state : σ) : Prop :=
  ∃ n, requestAt sem n program start = some (op, state)

section Stops

variable {sem : (op : Op) → σ → Res op × σ} {start state : σ} {op : Op}

@[simp] theorem stops_pure {value : α}
    : ¬ Stops sem (Pure.pure value : Program Op Res α) start op state := by
  rintro ⟨n, reached⟩
  cases n <;> cases reached

/-- A program stops before its first request, or later on. -/
theorem stops_request {first : Op} {next : Res first → Program Op Res α}
    : Stops sem (.request first next) start op state
      ↔ op = first ∧ state = start
        ∨ Stops sem (next (sem first start).1) (sem first start).2 op state := by
  constructor
  · rintro ⟨n, reached⟩
    cases n with
    | zero =>
        cases reached
        exact .inl ⟨rfl, rfl⟩
    | succ n => exact .inr ⟨n, reached⟩
  · rintro (⟨rfl, rfl⟩ | ⟨n, reached⟩)
    · exact ⟨0, rfl⟩
    · exact ⟨n + 1, reached⟩

/-- A sequence stops in its first part, or after it. Witness: induction over the first. -/
theorem stops_bind {program : Program Op Res α} {next : α → Program Op Res β}
    : Stops sem (program >>= next) start op state
      ↔ Stops sem program start op state
        ∨ Stops sem (next (execute sem program start).1) (execute sem program start).2
          op state := by
  induction program generalizing start with
  | pure value =>
      have never : ¬ Stops sem (Program.pure value : Program Op Res α) start op state := stops_pure
      simp only [never, false_or]
      exact Iff.rfl
  | request first rest ih =>
      rw [request_bind, stops_request, stops_request, ih, or_assoc]
      exact Iff.rfl

end Stops

-----------------------------------------------------------------------------------------
-- Typestates
-----------------------------------------------------------------------------------------

/-- What a program may do, phase by phase: the requests it may issue, the replies the
environment is relied on to give, and how a reply moves the phase.
-/
structure Typestate (Op : Type u) (Res : Op → Type u) (Φ : Type u) where
  allowed : Φ → Op → Prop
  reply : Φ → (op : Op) → Res op → Prop
  next : Φ → (op : Op) → Res op → Φ

variable {Φ : Type u}

/-- Along every path of relied-on replies the program stays within the typestate, and ends
with a result and in a phase that go together.
-/
def Follows (A : Typestate Op Res Φ) (post : α → Φ → Prop) : Φ → Program Op Res α → Prop
  | φ, .pure value => post value φ
  | φ, .request op next =>
      A.allowed φ op
      ∧ ∀ reply, A.reply φ op reply → Follows A post (A.next φ op reply) (next reply)

section Follows

variable {A : Typestate Op Res Φ} {φ : Φ}

@[simp] theorem follows_request {post : α → Φ → Prop} {op : Op}
    {next : Res op → Program Op Res α}
    : Follows A post φ (.request op next)
      ↔ A.allowed φ op
        ∧ ∀ reply, A.reply φ op reply → Follows A post (A.next φ op reply) (next reply) :=
  Iff.rfl

/-- A sequence follows a typestate when its first part does, ending so that the continuation
does. Witness: induction over the first program.
-/
theorem Follows.bind {mid : α → Φ → Prop} {post : β → Φ → Prop} {program : Program Op Res α}
    {next : α → Program Op Res β} (first : Follows A mid φ program)
    (rest : ∀ value ψ, mid value ψ → Follows A post ψ (next value))
    : Follows A post φ (program >>= next) := by
  induction program generalizing φ with
  | pure value => exact rest value φ first
  | request op more ih =>
      exact ⟨first.1, fun reply relied => ih reply (first.2 reply relied)⟩

/-- A program that has ended has a result and is in a phase that go together. -/
theorem Follows.ended {post : α → Φ → Prop} {program : Program Op Res α}
    (follows : Follows A post φ program) (ended : program.Ended)
    : ∃ value, post value φ := by
  cases program with
  | pure value => exact ⟨value, follows⟩
  | request op next => exact ended.elim

theorem Follows.mono {post post' : α → Φ → Prop} {program : Program Op Res α}
    (follows : Follows A post φ program) (implies : ∀ value ψ, post value ψ → post' value ψ)
    : Follows A post' φ program := by
  induction program generalizing φ with
  | pure value => exact implies value φ follows
  | request op more ih =>
      exact ⟨follows.1, fun reply relied => ih reply (follows.2 reply relied)⟩

/-- Executed against an environment that keeps an invariant of phases and states, and gives
the replies that are relied on, a program ends in a phase with its result. Witness:
induction over the request tree.
-/
theorem Follows.execute {sem : (op : Op) → σ → Res op × σ} {inv : Φ → σ → Prop}
    {post : α → Φ → Prop} {program : Program Op Res α} (follows : Follows A post φ program)
    (serves
      : ∀ φ op state,
          A.allowed φ op
          → inv φ state
          → A.reply φ op (sem op state).1
            ∧ inv (A.next φ op (sem op state).1) (sem op state).2)
    {state : σ} (holds : inv φ state)
    : ∃ ψ,
        post (execute sem program state).1 ψ ∧ inv ψ (execute sem program state).2 := by
  induction program generalizing φ state with
  | pure value => exact ⟨φ, follows, holds⟩
  | request op more ih =>
      obtain ⟨relied, kept⟩ := serves φ op state follows.1 holds
      exact ih _ (follows.2 _ relied) kept

/-- What two typestates demand at once. -/
def Typestate.both {Ψ : Type u} (A : Typestate Op Res Φ) (B : Typestate Op Res Ψ)
    : Typestate Op Res (Φ × Ψ) where
  allowed phases op := A.allowed phases.1 op ∧ B.allowed phases.2 op
  reply phases op reply := A.reply phases.1 op reply ∧ B.reply phases.2 op reply
  next phases op reply := (A.next phases.1 op reply, B.next phases.2 op reply)

/-- A program that follows two typestates follows both at once, by induction over it. -/
theorem Follows.both {Ψ : Type u} {B : Typestate Op Res Ψ} {ψ : Ψ} {post : α → Φ → Prop}
    {post' : α → Ψ → Prop} {program : Program Op Res α} (first : Follows A post φ program)
    (second : Follows B post' ψ program)
    : Follows (A.both B) (fun value phases => post value phases.1 ∧ post' value phases.2) (φ, ψ)
        program := by
  induction program generalizing φ ψ with
  | pure value => exact ⟨first, second⟩
  | request op more ih =>
      refine ⟨⟨first.1, second.1⟩, fun reply relied => ?_⟩
      exact ih reply (first.2 reply relied.1) (second.2 reply relied.2)

end Follows

/-- The typestate with one phase: a set of permitted requests. -/
def permits (ok : Op → Prop) : Typestate Op Res PUnit where
  allowed := fun _ op => ok op
  reply := fun _ _ _ => True
  next := fun _ _ _ => ⟨⟩

/-- A program all of whose requests, whatever the replies, are permitted. -/
def Uses (ok : Op → Prop) (program : Program Op Res α) : Prop :=
  Follows (permits ok) (fun _ _ => True) ⟨⟩ program

@[simp] theorem uses_pure (ok : Op → Prop) (value : α)
    : Uses ok (Pure.pure value : Program Op Res α) := trivial

@[simp] theorem uses_request {ok : Op → Prop} {op : Op} {next : Res op → Program Op Res α}
    : Uses ok (.request op next) ↔ ok op ∧ ∀ reply, Uses ok (next reply) := by
  simp [Uses, Follows, permits]

theorem Uses.bind {ok : Op → Prop} {program : Program Op Res α}
    {next : α → Program Op Res β}
    (first : Uses ok program) (rest : ∀ value, Uses ok (next value))
    : Uses ok (program >>= next) :=
  Follows.bind first fun value _ _ => rest value

theorem Uses.mono {ok ok' : Op → Prop} {program : Program Op Res α}
    (uses : Uses ok program) (implies : ∀ op, ok op → ok' op)
    : Uses ok' program := by
  induction program with
  | pure value => exact uses_pure _ value
  | request op more ih =>
      have parts := uses_request.mp uses
      exact uses_request.mpr ⟨implies op parts.1, fun reply => ih reply (parts.2 reply)⟩

/-- Requests that a typestate allows in every phase follow it. Witness: induction over the
request tree.
-/
theorem Uses.follows {ok : Op → Prop} {A : Typestate Op Res Φ} {program : Program Op Res α}
    (uses : Uses ok program) (allowed : ∀ φ op, ok op → A.allowed φ op) (φ : Φ)
    : Follows A (fun _ _ => True) φ program := by
  induction program generalizing φ with
  | pure value => trivial
  | request op more ih =>
      have parts := uses_request.mp uses
      exact ⟨allowed φ op parts.1, fun reply _ => ih reply (parts.2 reply) _⟩

/-- Requests that leave the phase as it is are followed in that phase. Witness: induction over the
request tree.
-/
theorem Uses.stays {ok : Op → Prop} {A : Typestate Op Res Φ} {program : Program Op Res α} {φ : Φ}
    (uses : Uses ok program) (allowed : ∀ op, ok op → A.allowed φ op)
    (still : ∀ op reply, ok op → A.next φ op reply = φ)
    : Follows A (fun _ ψ => ψ = φ) φ program := by
  induction program with
  | pure value => rfl
  | request op more ih =>
      obtain ⟨permitted, later⟩ := uses_request.mp uses
      refine ⟨allowed op permitted, fun reply _ => ?_⟩
      rw [still op reply permitted]
      exact ih reply (later reply)

/-- A state property kept by every permitted request is kept by the whole execution.
Witness: induction over the request tree.
-/
theorem Uses.execute_keeps {ok : Op → Prop} {sem : (op : Op) → σ → Res op × σ}
    {inv : σ → Prop} {program : Program Op Res α} (uses : Uses ok program)
    (keeps : ∀ op state, ok op → inv state → inv (sem op state).2)
    (state : σ) (holds : inv state)
    : inv (execute sem program state).2 := by
  induction program generalizing state with
  | pure value => exact holds
  | request op more ih =>
      have parts := uses_request.mp uses
      exact ih _ (parts.2 _) _ (keeps op state parts.1 holds)

/-- A program can only stop before a permitted request. Witness: induction over the request
tree.
-/
theorem Uses.stops {ok : Op → Prop} {sem : (op : Op) → σ → Res op × σ}
    {program : Program Op Res α} (uses : Uses ok program) {start state : σ} {op : Op}
    (stops : Stops sem program start op state)
    : ok op := by
  induction program generalizing start with
  | pure value => exact absurd stops stops_pure
  | request first rest ih =>
      obtain ⟨permitted, later⟩ := uses_request.mp uses
      rcases stops_request.mp stops with ⟨rfl, _⟩ | stops
      · exact permitted
      · exact ih _ (later _) stops

/-- A state property kept by every request is kept by every execution. -/
theorem execute_keeps {sem : (op : Op) → σ → Res op × σ} {inv : σ → Prop}
    (keeps : ∀ op state, inv state → inv (sem op state).2) (program : Program Op Res α)
    (state : σ) (holds : inv state)
    : inv (execute sem program state).2 := by
  induction program generalizing state with
  | pure value => exact holds
  | request op more ih => exact ih _ _ (keeps op state holds)

end Program
