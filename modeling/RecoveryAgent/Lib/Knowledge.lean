import Mathlib.Data.Set.Basic
import RecoveryAgent.Lib.Pool

/-! Programs that act on what their earlier replies have told them.
A reply establishes facts, and a request is permitted on the facts that are known. Where facts
survive what other programs do, and permitted requests keep an invariant, every interleaving
of such programs keeps it, programs that start later included.
-/

universe u

/-- What replies tell, given what is known already, and what may be asked for on what is known. -/
structure Knowledge (Op : Type u) (Res : Op → Type u) (Fact : Type u) where
  learned : Set Fact → (op : Op) → Res op → Set Fact
  permitted : Set Fact → Op → Prop

namespace Knowledge

variable {Op : Type u} {Res : Op → Type u} {Fact α β ω σ : Type u}

/-- The typestate whose phases are the facts that are known; it relies on no reply. -/
def typestate (knowledge : Knowledge Op Res Fact) : Program.Typestate Op Res (Set Fact) where
  allowed := knowledge.permitted
  reply := fun _ _ _ => True
  next := fun known op reply => known ∪ knowledge.learned known op reply

/-- From what is known on, the program asks for nothing that is not permitted, and it ends with
a result that fits what it then knows.
-/
def Acts (knowledge : Knowledge Op Res Fact) (post : α → Set Fact → Prop) (known : Set Fact)
    (program : Program Op Res α)
    : Prop :=
  Program.Follows knowledge.typestate (fun value later => known ⊆ later ∧ post value later) known
    program

section Acts

variable {knowledge : Knowledge Op Res Fact} {known : Set Fact}

theorem acts_pure {post : α → Set Fact → Prop} {value : α} (ends : post value known)
    : knowledge.Acts post known (.pure value) :=
  ⟨Set.Subset.refl known, ends⟩

/-- One permitted request, and what follows its reply. -/
theorem acts_request {post : α → Set Fact → Prop} {op : Op} {next : Res op → Program Op Res α}
    (permitted : knowledge.permitted known op)
    (rest
      : ∀ reply, knowledge.Acts post (known ∪ knowledge.learned known op reply) (next reply))
    : knowledge.Acts post known (.request op next) := by
  refine Program.follows_request.mpr ⟨permitted, fun reply _ => ?_⟩
  exact (rest reply).mono fun value later ends =>
    ⟨Set.subset_union_left.trans ends.1, ends.2⟩

/-- What is known after the first part of a sequence is known in the rest of it. -/
theorem Acts.bind {mid : α → Set Fact → Prop} {post : β → Set Fact → Prop}
    {program : Program Op Res α} {next : α → Program Op Res β}
    (first : knowledge.Acts mid known program)
    (rest
      : ∀ value later, known ⊆ later → mid value later → knowledge.Acts post later (next value))
    : knowledge.Acts post known (program >>= next) :=
  Program.Follows.bind first fun value later ends =>
    (rest value later ends.1 ends.2).mono fun _ _ last => ⟨ends.1.trans last.1, last.2⟩

theorem Acts.mono {post post' : α → Set Fact → Prop} {program : Program Op Res α}
    (acts : knowledge.Acts post known program)
    (implies : ∀ value later, known ⊆ later → post value later → post' value later)
    : knowledge.Acts post' known program :=
  Program.Follows.mono acts fun value later ends => ⟨ends.1, implies value later ends.1 ends.2⟩

end Acts

/-- How facts are read in a state, and the invariants that permitted requests keep: of the state,
and of what a thread keeps to itself. What they do to the state is a growth, and facts survive
growth.
-/
structure Meaning (knowledge : Knowledge Op Res Fact) (sem : Pool.Semantics Op Res ω σ) where
  inv : σ → Prop
  fit : ω → Prop
  grows : σ → σ → Prop
  holds : ω → σ → Fact → Prop
  refl : ∀ shared, grows shared shared
  trans : ∀ shared later last, grows shared later → grows later last → grows shared last
  stable
    : ∀ own shared later fact, grows shared later → holds own shared fact → holds own later fact
  serves
    : ∀ known op own shared,
        inv shared
        → fit own
        → (∀ fact ∈ known, holds own shared fact)
        → knowledge.permitted known op
        → inv (sem op (own, shared)).2.2
          ∧ fit (sem op (own, shared)).2.1
          ∧ grows shared (sem op (own, shared)).2.2
          ∧ ∀ fact ∈ known ∪ knowledge.learned known op (sem op (own, shared)).1,
              holds (sem op (own, shared)).2.1 (sem op (own, shared)).2.2 fact

namespace Meaning

variable {knowledge : Knowledge Op Res Fact} {sem : Pool.Semantics Op Res ω σ}

/-- A program that goes on from facts that hold. -/
def Grounded (meaning : knowledge.Meaning sem) (own : ω) (shared : σ)
    (program : Program Op Res α)
    : Prop :=
  meaning.fit own
  ∧ ∃ known,
      (∀ fact ∈ known, meaning.holds own shared fact)
      ∧ Program.Follows knowledge.typestate (fun _ _ => True) known program

/-- The invariant holds, and every thread goes on from facts that hold. -/
structure Upheld (meaning : knowledge.Meaning sem) (pool : Pool Op Res α ω σ) : Prop where
  inv : meaning.inv pool.shared
  threads
    : ∀ thread ∈ pool.threads, meaning.Grounded thread.own pool.shared thread.program

variable {meaning : knowledge.Meaning sem} {pool : Pool Op Res α ω σ}

/-- A program that acts on facts that hold is grounded in them. -/
theorem grounded_of_acts {own : ω} {shared : σ} {known : Set Fact} {post : α → Set Fact → Prop}
    {program : Program Op Res α} (fit : meaning.fit own)
    (facts : ∀ fact ∈ known, meaning.holds own shared fact)
    (acts : knowledge.Acts post known program)
    : meaning.Grounded own shared program :=
  ⟨fit, known, facts, Program.Follows.mono acts fun _ _ _ => trivial⟩

/-- Growth leaves a program grounded. -/
theorem Grounded.grows {own : ω} {shared later : σ} {program : Program Op Res α}
    (grounded : meaning.Grounded own shared program) (grows : meaning.grows shared later)
    : meaning.Grounded own later program := by
  obtain ⟨fit, known, facts, acts⟩ := grounded
  refine ⟨fit, known, fun fact member => ?_, acts⟩
  exact meaning.stable own shared later fact grows (facts fact member)

/-- A step of any thread is a growth, and upholds everything. -/
theorem Upheld.step (upheld : meaning.Upheld pool) (i : Nat)
    : meaning.Upheld (pool.step sem i) ∧ meaning.grows pool.shared (pool.step sem i).shared := by
  rcases pool.step_cases sem i with same | ⟨own, op, next, found, stepped⟩
  · rw [same]
    exact ⟨upheld, meaning.refl _⟩
  obtain ⟨fit, known, facts, acts⟩ := upheld.threads _ (List.mem_of_getElem? found)
  obtain ⟨permitted, later⟩ := Program.follows_request.mp acts
  obtain ⟨inv, fit', grows, learned⟩ :=
    meaning.serves known op own pool.shared upheld.inv fit facts permitted
  rw [stepped]
  refine ⟨⟨inv, fun thread member => ?_⟩, grows⟩
  rcases List.mem_or_eq_of_mem_set member with old | rfl
  · exact (upheld.threads thread old).grows grows
  · exact ⟨fit', _, learned, later _ trivial⟩

/-- A grounded program may start at any time. -/
theorem Upheld.start (upheld : meaning.Upheld pool) {own : ω} {program : Program Op Res α}
    (grounded : meaning.Grounded own pool.shared program)
    : meaning.Upheld { pool with threads := pool.threads ++ [⟨own, program⟩] } := by
  refine ⟨upheld.inv, fun thread member => ?_⟩
  rcases List.mem_append.mp member with old | new
  · exact upheld.threads thread old
  · rw [List.mem_singleton.mp new]
    exact grounded

/-- The shared state may grow by itself. -/
theorem Upheld.shift (upheld : meaning.Upheld pool) {later : σ} (inv : meaning.inv later)
    (grows : meaning.grows pool.shared later)
    : meaning.Upheld { pool with shared := later } :=
  ⟨inv, fun thread member => (upheld.threads thread member).grows grows⟩

end Meaning

end Knowledge
