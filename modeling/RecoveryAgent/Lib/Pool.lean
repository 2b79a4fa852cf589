import Mathlib.Order.Defs.Unbundled
import RecoveryAgent.Lib.Program
import RecoveryAgent.Lib.Run

/-! Programs of several workers over one shared state.
Each request is one step, and the steps of different programs interleave freely. A crashed
program is one that is never scheduled again.
-/

universe u

/-- A running program, with the state its worker keeps to itself. -/
structure Thread (Op : Type u) (Res : Op → Type u) (α ω : Type u) where
  own : ω
  program : Program Op Res α

/-- A shared state and the programs that work on it. -/
structure Pool (Op : Type u) (Res : Op → Type u) (α ω σ : Type u) where
  shared : σ
  threads : List (Thread Op Res α ω)

namespace Pool

variable {Op : Type u} {Res : Op → Type u} {α ω σ : Type u}

/-- How a request is answered, from the worker's own state and the shared one. -/
abbrev Semantics (Op : Type u) (Res : Op → Type u) (ω σ : Type u) :=
  (op : Op) → ω × σ → Res op × (ω × σ)

/-- The thread at an index issues its next request; without one nothing happens. -/
def step (sem : Semantics Op Res ω σ) (pool : Pool Op Res α ω σ) (i : Nat)
    : Pool Op Res α ω σ :=
  match pool.threads[i]? with
  | some ⟨own, .request op next⟩ =>
      let answered := sem op (own, pool.shared)
      ⟨answered.2.2, pool.threads.set i ⟨answered.2.1, next answered.1⟩⟩
  | _ => pool

section Step

variable {sem : Semantics Op Res ω σ} {pool : Pool Op Res α ω σ} {i : Nat}

/-- A step is a request of one thread, or changes nothing. -/
theorem step_cases (sem : Semantics Op Res ω σ) (pool : Pool Op Res α ω σ) (i : Nat)
    : pool.step sem i = pool
      ∨ ∃ own op next,
          pool.threads[i]? = some ⟨own, .request op next⟩
          ∧ pool.step sem i
            = ⟨(sem op (own, pool.shared)).2.2,
                pool.threads.set i
                  ⟨(sem op (own, pool.shared)).2.1, next (sem op (own, pool.shared)).1⟩⟩ := by
  unfold step
  split
  · next own op next found => exact .inr ⟨own, op, next, found, rfl⟩
  · exact .inl rfl

/-- No thread is added or removed by a schedule. -/
theorem length_run (sem : Semantics Op Res ω σ) (pool : Pool Op Res α ω σ)
    (schedule : List Nat)
    : (schedule.foldl (step sem) pool).threads.length = pool.threads.length := by
  induction schedule generalizing pool with
  | nil => rfl
  | cons i rest ih =>
      rw [List.foldl_cons, ih]
      rcases pool.step_cases sem i with same | ⟨own, op, next, _, stepped⟩
      · rw [same]
      · rw [stepped, List.length_set]

/-- What every permitted request keeps of the shared state is kept by every step of a pool of
permitted programs, which stay permitted.
-/
theorem step_keeps {ok : Op → Prop} {inv : σ → Prop}
    (keeps
      : ∀ op own shared, ok op → inv shared → inv (sem op (own, shared)).2.2)
    (uses : ∀ thread ∈ pool.threads, Program.Uses ok thread.program) (holds : inv pool.shared)
    (i : Nat)
    : (∀ thread ∈ (pool.step sem i).threads, Program.Uses ok thread.program)
      ∧ inv (pool.step sem i).shared := by
  rcases pool.step_cases sem i with same | ⟨own, op, next, found, stepped⟩
  · rw [same]
    exact ⟨uses, holds⟩
  · have parts := Program.uses_request.mp (uses _ (List.mem_of_getElem? found))
    rw [stepped]
    refine ⟨fun thread member => ?_, keeps op own pool.shared parts.1 holds⟩
    rcases List.mem_or_eq_of_mem_set member with old | rfl
    · exact uses thread old
    · exact parts.2 _

end Step

section Stages

variable {γ : Type u} {inv : σ → γ → Prop} {stage : σ → γ → Nat → Thread Op Res α ω → Prop}
  {sem : Semantics Op Res ω σ}

/-- What is known of every thread of a pool, given a history of the shared state. -/
def Staged (inv : σ → γ → Prop) (stage : σ → γ → Nat → Thread Op Res α ω → Prop)
    (pool : Pool Op Res α ω σ) (history : γ) : Prop :=
  inv pool.shared history
  ∧ ∀ i thread, pool.threads[i]? = some thread → stage pool.shared history i thread

/-- A request that moves its own thread to its next stage, and leaves the other threads at
theirs.
-/
def Advances (sem : Semantics Op Res ω σ) (inv : σ → γ → Prop)
    (stage : σ → γ → Nat → Thread Op Res α ω → Prop) : Prop :=
  ∀ shared history i own op next,
    inv shared history
    → stage shared history i ⟨own, .request op next⟩
    → ∃ history',
        inv (sem op (own, shared)).2.2 history'
        ∧ stage (sem op (own, shared)).2.2 history' i
            ⟨(sem op (own, shared)).2.1, next (sem op (own, shared)).1⟩
        ∧ ∀ j thread, j ≠ i → stage shared history j thread
          → stage (sem op (own, shared)).2.2 history' j thread

/-- A step of any thread keeps every thread at a stage. -/
theorem Staged.step {pool : Pool Op Res α ω σ} {history : γ}
    (staged : Staged inv stage pool history) (advances : Advances sem inv stage) (i : Nat)
    : ∃ history', Staged inv stage (pool.step sem i) history' := by
  rcases pool.step_cases sem i with same | ⟨own, op, next, found, stepped⟩
  · exact ⟨history, same.symm ▸ staged⟩
  · obtain ⟨holds, stages⟩ := staged
    obtain ⟨history', holds', moved, kept⟩ :=
      advances pool.shared history i own op next holds (stages i _ found)
    refine ⟨history', ?_⟩
    rw [stepped]
    refine ⟨holds', fun j thread found' => ?_⟩
    by_cases same : i = j
    · subst same
      rw [List.getElem?_set_self (List.getElem?_eq_some_iff.mp found).1] at found'
      exact Option.some.inj found' ▸ moved
    · rw [List.getElem?_set_ne same] at found'
      exact kept j thread (Ne.symm same) (stages j thread found')

/-- Every schedule keeps every thread at a stage, by induction over its steps. -/
theorem Staged.run {pool : Pool Op Res α ω σ} {history : γ}
    (staged : Staged inv stage pool history) (advances : Advances sem inv stage)
    (schedule : List Nat)
    : ∃ history', Staged inv stage (schedule.foldl (Pool.step sem) pool) history' := by
  induction schedule generalizing pool history with
  | nil => exact ⟨history, staged⟩
  | cons i rest ih =>
      obtain ⟨history', staged'⟩ := staged.step advances i
      exact ih staged'

/-- A thread may start at its first stage, if the others are then at a stage still. -/
theorem Staged.start {stage' : σ → γ → Nat → Thread Op Res α ω → Prop} {pool : Pool Op Res α ω σ}
    {history history' : γ} {thread : Thread Op Res α ω} (staged : Staged inv stage pool history)
    (holds : inv pool.shared history')
    (kept
      : ∀ i thread,
          i < pool.threads.length
          → stage pool.shared history i thread
          → stage' pool.shared history' i thread)
    (begins : stage' pool.shared history' pool.threads.length thread)
    : Staged inv stage' { pool with threads := pool.threads ++ [thread] } history' := by
  refine ⟨holds, fun i found here => ?_⟩
  by_cases old : i < pool.threads.length
  · rw [List.getElem?_append_left old] at here
    exact kept i found old (staged.2 i found here)
  · rw [List.getElem?_append_right (Nat.le_of_not_lt old)] at here
    obtain ⟨bound, rfl⟩ := List.getElem?_eq_some_iff.mp here
    obtain rfl : i = pool.threads.length := by
      simp only [List.length_singleton] at bound
      omega
    simpa using begins

end Stages

-----------------------------------------------------------------------------------------
-- Interference
-----------------------------------------------------------------------------------------

/-- What a thread relies on, and what it guarantees in turn: the states in which its next
request may be answered, given the state its last answer left, and what an answer does.
-/
structure Contract (Op ω σ : Type u) where
  rely : ω → Op → σ → σ → Prop
  guarantee : ω × σ → ω × σ → Prop

/-- Answered as it relies on, every request of the program does what is guaranteed, and the
program ends as described.
-/
def Honours (sem : Semantics Op Res ω σ) (contract : Contract Op ω σ)
    (post : α → ω → σ → Prop)
    : Program Op Res α → ω → σ → Prop
  | .pure value, own, shared => post value own shared
  | .request op next, own, shared =>
      ∀ now,
        contract.rely own op shared now
        → contract.guarantee (own, now) (sem op (own, now)).2
          ∧ Honours sem contract post (next (sem op (own, now)).1) (sem op (own, now)).2.1
              (sem op (own, now)).2.2

section Honours

variable {β : Type u} {sem : Semantics Op Res ω σ} {contract : Contract Op ω σ} {own : ω}
  {shared : σ}

/-- A sequence keeps a contract when its first part does, ending so that the continuation
does. Witness: induction over the first program.
-/
theorem Honours.bind {mid : α → ω → σ → Prop} {post : β → ω → σ → Prop}
    {program : Program Op Res α} {next : α → Program Op Res β}
    (first : Honours sem contract mid program own shared)
    (rest
      : ∀ value own shared,
          mid value own shared → Honours sem contract post (next value) own shared)
    : Honours sem contract post (program >>= next) own shared := by
  induction program generalizing own shared with
  | pure value => exact rest value own shared first
  | request op more ih =>
      intro now relied
      obtain ⟨kept, later⟩ := first now relied
      exact ⟨kept, ih _ later⟩

theorem Honours.mono {post post' : α → ω → σ → Prop} {program : Program Op Res α}
    (honours : Honours sem contract post program own shared)
    (implies : ∀ value own shared, post value own shared → post' value own shared)
    : Honours sem contract post' program own shared := by
  induction program generalizing own shared with
  | pure value => exact implies value own shared honours
  | request op more ih =>
      intro now relied
      obtain ⟨kept, later⟩ := honours now relied
      exact ⟨kept, ih _ later⟩

/-- A program of permitted requests keeps a contract that each of them keeps, and all of them
leave what the first one finds. Witness: induction over the program.
-/
theorem Honours.of_uses {ok : Op → Prop} {inv : ω → σ → Prop} {program : Program Op Res α}
    (uses : Program.Uses ok program)
    (keeps
      : ∀ op own shared now,
          ok op
          → inv own shared
          → contract.rely own op shared now
          → contract.guarantee (own, now) (sem op (own, now)).2
            ∧ inv (sem op (own, now)).2.1 (sem op (own, now)).2.2)
    (holds : inv own shared)
    : Honours sem contract (fun _ => inv) program own shared := by
  induction program generalizing own shared with
  | pure value => exact holds
  | request op more ih =>
      obtain ⟨permitted, later⟩ := Program.uses_request.mp uses
      intro now relied
      obtain ⟨kept, holds'⟩ := keeps op own shared now permitted holds relied
      exact ⟨kept, ih _ (later _) holds'⟩

end Honours

/-- The contract of a thread whose rivals keep to a relation, whatever it asks for. -/
def Contract.among (rely guarantee : σ → σ → Prop) : Contract Op ω σ where
  rely := fun _ _ => rely
  guarantee := fun before after => guarantee before.2 after.2

section Among

variable {sem : Semantics Op Res ω σ} {rely guarantee : Nat → σ → σ → Prop}
  {pool : Pool Op Res α ω σ}

/-- What rivals did before a thread goes on may be counted to what they do next. -/
theorem Honours.stable {rely guarantee : σ → σ → Prop} [IsTrans σ rely]
    {program : Program Op Res α} {own : ω} {shared later : σ}
    (honours : Honours sem (.among rely guarantee) (fun _ _ _ => True) program own shared)
    (moved : rely shared later)
    : Honours sem (.among rely guarantee) (fun _ _ _ => True) program own later := by
  cases program with
  | pure value => trivial
  | request op next => exact fun now relied => honours now (trans_of rely moved relied)

/-- Every thread of a pool keeps its contract from here on. -/
def Honoured (sem : Semantics Op Res ω σ) (rely guarantee : Nat → σ → σ → Prop)
    (pool : Pool Op Res α ω σ) : Prop :=
  ∀ i thread,
    pool.threads[i]? = some thread
    → Honours sem (.among (rely i) (guarantee i)) (fun _ _ _ => True) thread.program thread.own
        pool.shared

/-- Where each guarantee is relied on by all rivals, a step keeps all contracts. -/
theorem Honoured.step [∀ i, IsPreorder σ (rely i)]
    (fits : ∀ i j, i ≠ j → ∀ shared later, guarantee i shared later → rely j shared later)
    (honoured : Honoured sem rely guarantee pool) (i : Nat)
    : Honoured sem rely guarantee (pool.step sem i)
      ∧ (pool.step sem i = pool ∨ guarantee i pool.shared (pool.step sem i).shared) := by
  rcases pool.step_cases sem i with same | ⟨own, op, next, found, stepped⟩
  · exact ⟨same.symm ▸ honoured, .inl same⟩
  obtain ⟨kept, later⟩ := honoured i _ found pool.shared (refl_of (rely i) _)
  rw [stepped]
  refine ⟨fun j thread found' => ?_, .inr kept⟩
  by_cases same : i = j
  · subst same
    rw [List.getElem?_set_self (List.getElem?_eq_some_iff.mp found).1] at found'
    exact Option.some.inj found' ▸ later
  · rw [List.getElem?_set_ne same] at found'
    exact (honoured j thread found').stable (fits i j same _ _ kept)

/-- Whatever every guarantee implies holds between any two states of a run. Witness:
induction over the schedule.
-/
theorem Honoured.run {kept : σ → σ → Prop} [∀ i, IsPreorder σ (rely i)] [IsPreorder σ kept]
    (fits : ∀ i j, i ≠ j → ∀ shared later, guarantee i shared later → rely j shared later)
    (keeps : ∀ i shared later, guarantee i shared later → kept shared later)
    (honoured : Honoured sem rely guarantee pool) (schedule : List Nat)
    : Honoured sem rely guarantee (schedule.foldl (Pool.step sem) pool)
      ∧ kept pool.shared (schedule.foldl (Pool.step sem) pool).shared := by
  induction schedule generalizing pool with
  | nil => exact ⟨honoured, refl_of kept _⟩
  | cons i rest ih =>
      obtain ⟨honoured', moved⟩ := honoured.step fits i
      obtain ⟨last, later⟩ := ih honoured'
      refine ⟨last, trans_of kept ?_ later⟩
      rcases moved with same | moved
      · rw [same]
        exact refl_of kept _
      · exact keeps i _ _ moved

end Among

-----------------------------------------------------------------------------------------
-- Conditions on the steps
-----------------------------------------------------------------------------------------

/-- The contract of a thread that relies on a condition on each of its own steps only. -/
def Contract.whenever (permitted : ω → Op → σ → Prop) (guarantee : ω × σ → ω × σ → Prop)
    : Contract Op ω σ where
  rely := fun own op _ now => permitted own op now
  guarantee := guarantee

section Whenever

variable {sem : Semantics Op Res ω σ} {permitted : ω → Op → σ → Prop}
  {guarantee : ω × σ → ω × σ → Prop} {post : Nat → α → ω → Prop} {pool : Pool Op Res α ω σ}

/-- The next request of the thread, if it has one, meets the condition. -/
def Permits (permitted : ω → Op → σ → Prop) (pool : Pool Op Res α ω σ) (i : Nat) : Prop :=
  ∀ own op next,
    pool.threads[i]? = some ⟨own, .request op next⟩ → permitted own op pool.shared

instance [∀ own op shared, Decidable (permitted own op shared)] (pool : Pool Op Res α ω σ)
    (i : Nat)
    : Decidable (Permits permitted pool i) :=
  match found : pool.threads[i]? with
  | some ⟨own, .request op next⟩ =>
      decidable_of_iff (permitted own op pool.shared) ⟨fun meets own' op' next' same => by
        rw [found] at same
        cases same
        exact meets, fun permits => permits own op next found⟩
  | some ⟨own, .pure value⟩ => isTrue fun _ _ _ same => by
      rw [found] at same
      cases same
  | none => isTrue fun _ _ _ same => by
      rw [found] at same
      cases same

/-- Every thread guarantees the same of its steps, as long as they meet the condition. -/
def Accountable (sem : Semantics Op Res ω σ) (permitted : ω → Op → σ → Prop)
    (guarantee : ω × σ → ω × σ → Prop) (post : Nat → α → ω → Prop) (pool : Pool Op Res α ω σ)
    : Prop :=
  ∀ i thread,
    pool.threads[i]? = some thread
    → Honours sem (.whenever permitted guarantee) (fun value own _ => post i value own)
        thread.program thread.own pool.shared

/-- What the other threads do meanwhile is no concern of such a contract. -/
theorem Honours.anywhere {post : α → ω → Prop} {program : Program Op Res α} {own : ω} {shared : σ}
    (honours
      : Honours sem (.whenever permitted guarantee) (fun value own _ => post value own) program
          own shared)
    (later : σ)
    : Honours sem (.whenever permitted guarantee) (fun value own _ => post value own) program own
        later := by
  cases program with
  | pure value => exact honours
  | request op next => exact honours

/-- A step that meets the condition keeps the guarantee, and replaces one thread by what it
has become.
-/
theorem Accountable.step (accountable : Accountable sem permitted guarantee post pool) {i : Nat}
    (meets : Permits permitted pool i)
    : Accountable sem permitted guarantee post (pool.step sem i)
      ∧ (pool.step sem i = pool
        ∨ ∃ before after,
            pool.threads[i]? = some before
            ∧ (pool.step sem i).threads = pool.threads.set i after
            ∧ guarantee (before.own, pool.shared) (after.own, (pool.step sem i).shared)) := by
  rcases pool.step_cases sem i with same | ⟨own, op, next, found, stepped⟩
  · exact ⟨same.symm ▸ accountable, .inl same⟩
  obtain ⟨kept, later⟩ := accountable i _ found pool.shared (meets own op next found)
  rw [stepped]
  refine ⟨fun j thread found' => ?_, .inr ⟨_, _, found, rfl, kept⟩⟩
  by_cases same : i = j
  · subst same
    rw [List.getElem?_set_self (List.getElem?_eq_some_iff.mp found).1] at found'
    exact Option.some.inj found' ▸ later
  · rw [List.getElem?_set_ne same] at found'
    exact (accountable j thread found').anywhere _

end Whenever

/-- Scheduled alone, a thread runs to its end as if executed at once. Witness: induction over
its program.
-/
theorem exists_schedule (sem : Semantics Op Res ω σ) {pool : Pool Op Res α ω σ} {i : Nat}
    {own : ω} {program : Program Op Res α} (found : pool.threads[i]? = some ⟨own, program⟩)
    : ∃ n,
        (List.replicate n i).foldl (step sem) pool
        = ⟨(Program.execute sem program (own, pool.shared)).2.2,
            pool.threads.set i
              ⟨(Program.execute sem program (own, pool.shared)).2.1,
                .pure (Program.execute sem program (own, pool.shared)).1⟩⟩ := by
  induction program generalizing pool own with
  | pure value =>
      refine ⟨0, ?_⟩
      obtain ⟨bound, same⟩ := List.getElem?_eq_some_iff.mp found
      have kept : pool.threads.set i ⟨own, .pure value⟩ = pool.threads := by
        rw [← same, List.set_getElem_self]
      simp only [List.replicate_zero, List.foldl_nil, Program.execute, kept]
  | request op next ih =>
      let answered := sem op (own, pool.shared)
      let stepped : Pool Op Res α ω σ :=
        ⟨answered.2.2, pool.threads.set i ⟨answered.2.1, next answered.1⟩⟩
      have first : pool.step sem i = stepped := by
        unfold step
        rw [found]
      have bound := (List.getElem?_eq_some_iff.mp found).1
      obtain ⟨n, rest⟩ := @ih answered.1 stepped answered.2.1 (by simp [stepped, bound])
      refine ⟨n + 1, ?_⟩
      rw [List.replicate_succ, List.foldl_cons, first, rest]
      simp only [stepped, List.set_set, Program.execute]
      rfl

-----------------------------------------------------------------------------------------
-- The record of a thread
-----------------------------------------------------------------------------------------

/-- A request and its reply, with the shared state before and after it. -/
structure Exchange (Op : Type u) (Res : Op → Type u) (σ : Type u) where
  op : Op
  reply : Res op
  before : σ
  after : σ

section Record

variable (sem : Semantics Op Res ω σ)

/-- The exchange that a step of the thread is, if the thread has a request. -/
def exchange (pool : Pool Op Res α ω σ) (i : Nat) : Option (Exchange Op Res σ) :=
  match pool.threads[i]? with
  | some ⟨own, .request op _⟩ =>
      let answered := sem op (own, pool.shared)
      some ⟨op, answered.1, pool.shared, answered.2.2⟩
  | _ => none

/-- The exchanges of one thread along a schedule, in their order. -/
def record (i : Nat) : Pool Op Res α ω σ → List Nat → List (Exchange Op Res σ)
  | _, [] => []
  | pool, j :: rest =>
      (if j = i then (pool.exchange sem j).toList else []) ++ record i (pool.step sem j) rest

/-- A step is one exchange, or changes nothing. -/
theorem exchange_cases (pool : Pool Op Res α ω σ) (i : Nat)
    : (pool.exchange sem i = none ∧ pool.step sem i = pool)
      ∨ ∃ own op next,
          pool.threads[i]? = some ⟨own, .request op next⟩
          ∧ let answered := sem op (own, pool.shared)
            pool.exchange sem i = some ⟨op, answered.1, pool.shared, answered.2.2⟩
            ∧ pool.step sem i
              = ⟨answered.2.2, pool.threads.set i ⟨answered.2.1, next answered.1⟩⟩ := by
  unfold exchange step
  split
  · next own op next found => exact .inr ⟨own, op, next, found, rfl, rfl⟩
  · exact .inl ⟨rfl, rfl⟩

/-- An exchange takes its thread from one stage to the next, and the shared state keeps an
invariant.
-/
def Recorded (inv : σ → Prop) (stage : List (Exchange Op Res σ) → Program Op Res α → Prop)
    : Prop :=
  ∀ done own op next shared,
    inv shared
    → stage done (.request op next)
    → let answered := sem op (own, shared)
      inv answered.2.2
      ∧ stage (done ++ [⟨op, answered.1, shared, answered.2.2⟩]) (next answered.1)

variable {sem} {inv : σ → Prop} {stage : List (Exchange Op Res σ) → Program Op Res α → Prop}

/-- What its record tells of a thread holds along every schedule. Witness: induction over the
schedule; a step adds to the record of one thread and leaves the other threads as they are.
-/
theorem Recorded.run (recorded : Recorded sem inv stage) {pool : Pool Op Res α ω σ}
    {done : Nat → List (Exchange Op Res σ)} (holds : inv pool.shared)
    (staged : ∀ i thread, pool.threads[i]? = some thread → stage (done i) thread.program)
    (schedule : List Nat)
    : inv (schedule.foldl (step sem) pool).shared
      ∧ ∀ i thread,
          (schedule.foldl (step sem) pool).threads[i]? = some thread
          → stage (done i ++ record sem i pool schedule) thread.program := by
  induction schedule generalizing pool done with
  | nil =>
      refine ⟨holds, fun i thread found => ?_⟩
      simpa [record] using staged i thread found
  | cons j rest ih =>
      rw [List.foldl_cons]
      rcases pool.exchange_cases sem j with
        ⟨silent, same⟩ | ⟨own, op, next, found, exchanged, stepped⟩
      · simpa [record, silent, same] using ih holds staged
      · obtain ⟨holds', moved⟩ := recorded (done j) own op next pool.shared holds (staged j _ found)
        let made : Exchange Op Res σ :=
          ⟨op, (sem op (own, pool.shared)).1, pool.shared, (sem op (own, pool.shared)).2.2⟩
        let done' (i : Nat) := done i ++ if j = i then [made] else []
        obtain ⟨last, stages⟩ := @ih (pool.step sem j) done' (stepped ▸ holds')
          fun i thread found' => by
            rw [stepped] at found'
            by_cases same : j = i
            · subst same
              rw [List.getElem?_set_self (List.getElem?_eq_some_iff.mp found).1] at found'
              cases found'
              simpa [done'] using moved
            · rw [List.getElem?_set_ne same] at found'
              simpa [done', same] using staged i thread found'
        refine ⟨last, fun i thread found' => ?_⟩
        have listed := stages i thread found'
        by_cases same : j = i
        · subst same
          simpa [record, done', made, exchanged] using listed
        · simpa [record, done', same] using listed

end Record

end Pool
