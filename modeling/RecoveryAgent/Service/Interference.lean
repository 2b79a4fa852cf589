import RecoveryAgent.Service.Issuing
import RecoveryAgent.Service.Workers

/-! Handlers among other workers.
A handler keeps a contract when each of its operations does, wherever the other workers have
left what is shared.
-/

namespace RecoveryAgent

-----------------------------------------------------------------------------------------
-- A worker that is left alone
-----------------------------------------------------------------------------------------

/-- A worker alone does to what is shared what it does in its world, by induction over its
program.
-/
theorem World.execute_shares {α : Type} (deployment : Deployment) (program : Program Op Res α)
    (world : World)
    : Program.execute (World.shares deployment) program (world.toWorker, world.toShared)
      = ((Program.execute (World.answer deployment) program world).1,
          ((Program.execute (World.answer deployment) program world).2.toWorker,
            (Program.execute (World.answer deployment) program world).2.toShared)) := by
  induction program generalizing world with
  | pure value => rfl
  | request op next ih => exact ih _ _

/-- Scheduled alone, a handler runs to its end as if executed at once, and the other threads
stay where they are.
-/
theorem Workers.exists_schedule {α : Type} (deployment : Deployment) {workers : Workers α}
    {i : Nat} {own : Worker} {handler : Handler α}
    (found : workers.threads[i]? = some ⟨own, handler.run⟩)
    : ∃ n,
        ((List.replicate n i).foldl (Pool.step (World.shares deployment)) workers).shared
          = (Handler.exec deployment handler ⟨own, workers.shared⟩).2.toShared
        ∧ ∀ j ≠ i,
            ((List.replicate n i).foldl (Pool.step (World.shares deployment)) workers).threads[j]?
            = workers.threads[j]? := by
  obtain ⟨n, ran⟩ := Pool.exists_schedule (World.shares deployment) found
  refine ⟨n, ?_, fun j other => ?_⟩
  · rw [ran]
    exact congrArg (·.2.2) (World.execute_shares deployment handler.run ⟨own, workers.shared⟩)
  · rw [ran]
    exact List.getElem?_set_ne (Ne.symm other)

namespace Handler

variable {α β ω : Type} {sem : Pool.Semantics Op Res ω Shared}
  {contract : Pool.Contract Op ω Shared} {post : Except Raised α → ω → Shared → Prop} {own : ω}
  {shared : Shared}

/-- The handler keeps the contract from here on, and ends as described. -/
def Honours (sem : Pool.Semantics Op Res ω Shared) (contract : Pool.Contract Op ω Shared)
    (post : Except Raised α → ω → Shared → Prop) (handler : Handler α) (own : ω)
    (shared : Shared)
    : Prop :=
  Pool.Honours sem contract post handler.run own shared

/-- One operation, and what follows its reply. -/
theorem honours_call {op : Op} {next : Res op → Handler α}
    (honours
      : ∀ now,
          contract.rely own op shared now
          → contract.guarantee (own, now) (sem op (own, now)).2
            ∧ Honours sem contract post (next (sem op (own, now)).1)
                (sem op (own, now)).2.1
                (sem op (own, now)).2.2)
    : Honours sem contract post (call op >>= next) own shared := honours

/-- A store call, which ends the handler where it raises. -/
theorem honours_stored {op : Op} {reply : Res op → Except StoreException β}
    {next : β → Handler α}
    (honours
      : ∀ now,
          contract.rely own op shared now
          → contract.guarantee (own, now) (sem op (own, now)).2
            ∧ match reply (sem op (own, now)).1 with
              | .ok value =>
                  Honours sem contract post (next value)
                    (sem op (own, now)).2.1
                    (sem op (own, now)).2.2
              | .error raised =>
                  post (.error (.exception (.store raised)))
                    (sem op (own, now)).2.1
                    (sem op (own, now)).2.2)
    : Honours sem contract post ((do orRaise (reply (← call op))) >>= next) own shared := by
  intro now relied
  obtain ⟨kept, later⟩ := honours now relied
  refine ⟨kept, ?_⟩
  change Pool.Honours _ _ _ (orRaise (reply (sem op (own, now)).1)
    >>= next).run _ _
  cases replied : reply (sem op (own, now)).1 with
  | ok value =>
      rw [replied] at later
      exact later
  | error raised =>
      rw [replied] at later
      exact later

/-- An operation that leaves what is shared alone, by its reply and the worker it leaves. -/
theorem honours_read {op : Op} {next : Res op → Handler α} (reply : Shared → Res op)
    (own' : ω)
    (reads : ∀ now, sem op (own, now) = (reply now, (own', now)))
    (honours
      : ∀ now,
          contract.rely own op shared now
          → contract.guarantee (own, now) (own', now)
            ∧ Honours sem contract post (next (reply now)) own' now)
    : Honours sem contract post (call op >>= next) own shared := by
  refine honours_call fun now relied => ?_
  rw [reads]
  exact honours now relied

/-- A sequence keeps a contract when both parts do; what the first raises ends it. -/
theorem Honours.bind {mid : Except Raised β → ω → Shared → Prop} {first : Handler β}
    {next : β → Handler α} (honours : Honours sem contract mid first own shared)
    (rest
      : ∀ value own shared,
          mid (.ok value) own shared → Honours sem contract post (next value) own shared)
    (stops
      : ∀ raised own shared, mid (.error raised) own shared → post (.error raised) own shared)
    : Honours sem contract post (first >>= next) own shared := by
  unfold Honours
  rw [ExceptT.run_bind]
  refine Pool.Honours.bind honours fun result own shared ends => ?_
  cases result with
  | ok value => exact rest value own shared ends
  | error raised => exact stops raised own shared ends

/-- A check that refuses the request does nothing else. -/
theorem honours_check {c : Prop} [Decidable c] {status : Nat} {message : String}
    {unreached : PUnit → Handler α} {rest : Handler α}
    (refused : c → post (.error (.http status (.text message))) own shared)
    (passed : ¬ c → Honours sem contract post rest own shared)
    : Honours sem contract post (if c then refuse status message >>= unreached else rest)
        own shared := by
  split
  · next holds => exact refused holds
  · next fails => exact passed fails

/-- Other exceptions change nothing else. -/
theorem honours_adapt {f : Raised → Raised} {handler : Handler α}
    (honours
      : Honours sem contract (fun result => post (result.mapError f)) handler own shared)
    : Honours sem contract post (ExceptT.adapt f handler) own shared := by
  unfold Honours ExceptT.adapt
  rw [ExceptT.run_mk]
  refine Pool.Honours.bind honours fun result own shared ends => ?_
  cases result <;> exact ends

/-- Permitted operations keep what each of them keeps. -/
theorem Issues.honours {ok : Op → Prop} {inv : ω → Shared → Prop} {handler : Handler α}
    (issues : Issues ok handler)
    (keeps
      : ∀ op own shared now,
          ok op
          → inv own shared
          → contract.rely own op shared now
          → contract.guarantee (own, now) (sem op (own, now)).2
            ∧ inv (sem op (own, now)).2.1
                (sem op (own, now)).2.2)
    (holds : inv own shared)
    : Honours sem contract (fun _ => inv) handler own shared :=
  Pool.Honours.of_uses issues keeps holds

section Shares

variable {deployment : Deployment} {contract : Pool.Contract Op Worker Shared}
  {post : Except Raised α → Worker → Shared → Prop} {own : Worker}

/-- One reading of the worker's own clock. -/
theorem honours_now {next : Datetime → Handler α}
    (honours
      : ∀ now,
          contract.rely own (.readClock 1) shared now
          → contract.guarantee (own, now) ({ own with clock := own.clock.skip 1 }, now)
            ∧ Honours (World.shares deployment) contract post (next (own.clock.reading 0))
                { own with clock := own.clock.skip 1 } now)
    : Honours (World.shares deployment) contract post (now >>= next) own shared := honours

/-- Without etcd a commit raises, and touches nothing. -/
theorem honours_commitEffect_inMemory (inMemory : deployment.useEtcd = false) {caseId : String}
    {attempt : Nat} {effect : Effect} {next : Except PyError Bool → Handler α}
    (honours
      : ∀ now raised,
          contract.rely own (.commitEffect caseId attempt effect) shared now
          → contract.guarantee (own, now) (own, now)
            ∧ Honours (World.shares deployment) contract post (next (.error raised)) own now)
    : Honours (World.shares deployment) contract post
        (commitEffect caseId attempt effect >>= next) own shared := by
  refine honours_call fun now relied => ?_
  obtain ⟨raised, failed⟩ :=
    commitEffect_inMemory deployment ⟨own, now⟩ inMemory caseId attempt effect
  simp only [World.shares, World.answer, failed]
  exact honours now raised relied

end Shares

-----------------------------------------------------------------------------------------
-- Invariants
-----------------------------------------------------------------------------------------

variable {deployment : Deployment}

/-- As long as the other workers keep an invariant of what is shared, so does the handler. -/
def Keeps (deployment : Deployment) (inv : Shared → Prop) (handler : Handler α) : Prop :=
  ∀ own shared,
    inv shared
    → Honours (World.shares deployment) (.among (fun shared later => inv shared → inv later)
        fun shared later => inv shared → inv later) (fun _ _ => inv) handler own shared

section Keeps

variable {inv : Shared → Prop}

theorem keeps_pure (value : α) : Keeps deployment inv (pure value) := fun _ _ holds => holds

theorem keeps_throw (raised : Raised) : Keeps deployment inv (throw raised : Handler α) :=
  fun _ _ holds => holds

theorem Keeps.bind {first : Handler β} {next : β → Handler α}
    (keeps : Keeps deployment inv first) (rest : ∀ value, Keeps deployment inv (next value))
    : Keeps deployment inv (first >>= next) := fun own shared holds =>
  (keeps own shared holds).bind rest fun _ _ _ kept => kept

/-- One operation that keeps the invariant, and what follows its reply. -/
theorem keeps_call {op : Op} {next : Res op → Handler α}
    (keeps
      : ∀ own now,
          inv now
          → inv (World.shares deployment op (own, now)).2.2
            ∧ Keeps deployment inv (next (World.shares deployment op (own, now)).1))
    : Keeps deployment inv (call op >>= next) := fun own _ holds =>
  honours_call fun now relied =>
    have kept := keeps own now (relied holds)
    ⟨fun _ => kept.1, kept.2 _ _ kept.1⟩

/-- A store call that keeps the invariant. -/
theorem keeps_stored {op : Op} {reply : Res op → Except StoreException β}
    {next : β → Handler α}
    (keeps
      : ∀ own now,
          inv now
          → inv (World.shares deployment op (own, now)).2.2
            ∧ ∀ value,
                reply (World.shares deployment op (own, now)).1 = .ok value
                → Keeps deployment inv (next value))
    : Keeps deployment inv ((do orRaise (reply (← call op))) >>= next) :=
    fun own shared holds => by
  refine honours_stored fun now relied => ?_
  obtain ⟨kept, later⟩ := keeps own now (relied holds)
  refine ⟨fun _ => kept, ?_⟩
  cases replied : reply (World.shares deployment op (own, now)).1 with
  | ok value => exact later value replied _ _ kept
  | error raised => exact kept

theorem keeps_check {c : Prop} [Decidable c] {status : Nat} {message : String}
    {unreached : PUnit → Handler α} {rest : Handler α}
    (passed : ¬ c → Keeps deployment inv rest)
    : Keeps deployment inv (if c then refuse status message >>= unreached else rest) :=
  fun own shared holds => honours_check (fun _ => holds) fun fails => passed fails own shared holds

theorem keeps_swallow {handler : Handler Unit} (keeps : Keeps deployment inv handler)
    : Keeps deployment inv (swallow handler) := fun own shared holds => by
  exact Pool.Honours.bind (keeps own shared holds) fun _ _ _ kept => kept

/-- Operations that keep the invariant one by one. -/
theorem Issues.keeps {ok : Op → Prop} {handler : Handler α} (issues : Issues ok handler)
    (keeps
      : ∀ op own now, ok op → inv now → inv (World.shares deployment op (own, now)).2.2)
    : Keeps deployment inv handler := fun own shared holds => by
  refine issues.honours (fun op own _ now permitted before relied => ?_) holds
  have kept := keeps op own now permitted (relied before)
  exact ⟨fun _ => kept, kept⟩

end Keeps

end Handler

end RecoveryAgent
