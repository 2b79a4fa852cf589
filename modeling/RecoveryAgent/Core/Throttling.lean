import RecoveryAgent.Core.RetryCap

/-! Throttle cycles are invisible: a run with them ends like the run without.
While a case is throttled it is the scheduled case under another state name. Deliveries do not
tell the two apart, except that a success closes both; the release gives the scheduled case back.
-/

namespace RecoveryAgent.StateMachine

-----------------------------------------------------------------------------------------
-- Runs with their decisions
-----------------------------------------------------------------------------------------

/-- A case with its trail and the decisions made or executed so far. -/
structure Progress where
  tracked : Tracked
  decisions : List RetryDecision

namespace Progress

/-- The decision a call makes, or marks as executed. -/
def made (config : AppConfig) (case : RecoveryCase) (clock : Clock)
    : Operation → List RetryDecision
  | .markNoticeSent reasonCode previous bandit =>
      match (StateMachine.markNoticeSent case config clock reasonCode previous bandit).result with
      | .ok (_, decision) => [decision]
      | .error _ => []
  | .markRetryExecuted decision =>
      match StateMachine.markRetryExecuted case decision clock with
      | .ok (_, decision, _) => [decision]
      | .error _ => []
  | .attemptExecution decision commit =>
      match StateMachine.attemptExecution case decision commit clock with
      | .ok ((_, decision, _), true) => [decision]
      | _ => []
  | _ => []

/-- One call extends the history and the decisions. -/
def perform (config : AppConfig) (progress : Progress) (step : Operation × Clock) : Progress where
  tracked := progress.tracked.perform config step
  decisions := progress.decisions ++ made config progress.tracked.case step.2 step.1

def performAll (config : AppConfig) (start : Progress) (steps : List (Operation × Clock))
    : Progress :=
  steps.foldl (perform config) start

/-- The case that calls leave. -/
def leftBy (config : AppConfig) (case : RecoveryCase) (steps : List (Operation × Clock))
    : RecoveryCase :=
  steps.foldl (fun case step => (Tracked.call config case step.2 step.1).1) case

theorem performAll_case (config : AppConfig) (start : Progress) (steps : List (Operation × Clock))
    : (start.performAll config steps).tracked.case = leftBy config start.tracked.case steps := by
  induction steps generalizing start with
  | nil => rfl
  | cons step rest ih => exact ih (start.perform config step)

end Progress

/-- An event that is delivered to the case. -/
def Operation.Delivers : Operation → Prop
  | .paymentFailed _ => True
  | .paymentSucceeded _ => True
  | _ => False

/-- The full run is the plain one with throttle cycles at points where the case is scheduled.
Events may be delivered within a cycle; where they close the case its release may be missing.
-/
inductive Inserted (config : AppConfig)
    : RecoveryCase → List (Operation × Clock) → List (Operation × Clock) → Prop where
  | nil {case : RecoveryCase} : Inserted config case [] []
  | step {case : RecoveryCase} {step : Operation × Clock} {plain full : List (Operation × Clock)}
      (later : Inserted config (Tracked.call config case step.2 step.1).1 plain full)
    : Inserted config case (step :: plain) (step :: full)
  | cycle {case : RecoveryCase} {events plain full : List (Operation × Clock)}
      (applied released : Clock) (scheduled : case.state = .retryScheduled)
      (delivered : ∀ event ∈ events, event.1.Delivers)
      (later : Inserted config (Progress.leftBy config case events) plain full)
    : Inserted config case (events ++ plain)
        ((.applyThrottle, applied) :: (events ++ (.releaseThrottle, released) :: full))
  | unfinished {case : RecoveryCase} {events plain full : List (Operation × Clock)}
      (applied : Clock) (scheduled : case.state = .retryScheduled)
      (delivered : ∀ event ∈ events, event.1.Delivers)
      (closed : (Progress.leftBy config case events).state ≠ .retryScheduled)
      (later : Inserted config (Progress.leftBy config case events) plain full)
    : Inserted config case (events ++ plain) ((.applyThrottle, applied) :: (events ++ full))

-----------------------------------------------------------------------------------------
-- The shadow of a throttled case
-----------------------------------------------------------------------------------------

/-- The second case is the first one throttled, or both were closed by a success. -/
inductive Shadow (plain : RecoveryCase) : RecoveryCase → Prop where
  | throttled (scheduled : plain.state = .retryScheduled)
    : Shadow plain { plain with state := .throttled }
  | closed (recovered : plain.state = .recoveredNaturally) : Shadow plain plain

section Delivery

variable {config : AppConfig} {case : RecoveryCase} {clock : Clock} {operation : Operation}

/-- A delivery to a scheduled case and to its shadow leaves a case and its shadow. -/
theorem call_shadow (delivers : operation.Delivers) (scheduled : case.state = .retryScheduled)
    : Shadow (Tracked.call config case clock operation).1
        (Tracked.call config { case with state := .throttled } clock operation).1 := by
  cases operation with
  | paymentFailed event =>
      simp only [Tracked.call, handlePaymentFailed, handleExistingFailure, scheduled,
        reduceCtorEq, if_false, ne_eq, not_false_eq_true, if_true, Except.map, Tracked.kept]
      exact .throttled scheduled
  | paymentSucceeded event =>
      simp only [Tracked.call, handlePaymentSuccess, scheduled, reduceCtorEq, if_false, ne_eq,
        not_false_eq_true, if_true]
      split
      · exact .throttled scheduled
      split
      · exact .throttled scheduled
      · exact .closed rfl
  | _ => exact absurd delivers id

/-- A closed case stays closed whatever is delivered. -/
theorem call_closed (delivers : operation.Delivers) (closed : case.state = .recoveredNaturally)
    : (Tracked.call config case clock operation).1 = case := by
  cases operation with
  | paymentFailed event =>
      simp [Tracked.call, handlePaymentFailed, handleExistingFailure, closed, Except.map,
        Tracked.kept]
  | paymentSucceeded event =>
      simp only [Tracked.call, handlePaymentSuccess, closed, reduceCtorEq, if_false, ne_eq,
        not_false_eq_true, if_true, awaitsExecution, or_self]
      repeat' split
      all_goals first | rfl | contradiction
  | _ => exact absurd delivers id

/-- A delivery never executes a retry: no entry it returns enters that state from another. -/
theorem call_delivered (delivers : operation.Delivers)
    : Tracked.executions (Tracked.call config case clock operation).2 = 0 := by
  cases operation with
  | paymentFailed event =>
      simp only [Tracked.call, handlePaymentFailed, handleExistingFailure]
      split
      · simp [Tracked.kept, Except.map, AuditEntry.Enters]
      split
      · simp [Tracked.kept, Except.map, AuditEntry.Enters]
      split
      · simp [Tracked.kept, Except.map]
      · split <;> simp [Tracked.kept, Except.map, AuditEntry.Enters]
  | paymentSucceeded event =>
      simp only [Tracked.call, handlePaymentSuccess]
      repeat' split
      all_goals simp [AuditEntry.Enters]
  | _ => exact absurd delivers id

/-- A throttle or its release executes nothing, and makes no decision. -/
theorem call_throttle (throttles : operation = .applyThrottle ∨ operation = .releaseThrottle)
    : Tracked.executions (Tracked.call config case clock operation).2 = 0
      ∧ Progress.made config case clock operation = [] := by
  rcases throttles with rfl | rfl
  · refine ⟨?_, rfl⟩
    simp only [Tracked.call, applyThrottle, trigger]
    split <;> simp [Tracked.kept, AuditEntry.Enters]
  · refine ⟨?_, rfl⟩
    simp only [Tracked.call, releaseThrottle, trigger]
    split <;> simp [Tracked.kept, AuditEntry.Enters]

end Delivery

theorem made_delivered {config : AppConfig} {case : RecoveryCase} {clock : Clock}
    {operation : Operation} (delivers : operation.Delivers)
    : Progress.made config case clock operation = [] := by
  cases operation with
  | paymentFailed event => rfl
  | paymentSucceeded event => rfl
  | _ => exact absurd delivers id

-----------------------------------------------------------------------------------------
-- Two runs that agree
-----------------------------------------------------------------------------------------

/-- Two runs have made the same decisions and executed as often, and their cases are related. -/
structure Agree (related : RecoveryCase → RecoveryCase → Prop) (plain full : Progress) : Prop where
  case : related plain.tracked.case full.tracked.case
  decisions : plain.decisions = full.decisions
  executions
    : Tracked.executions plain.tracked.trail = Tracked.executions full.tracked.trail

section Runs

variable {config : AppConfig} {plain full : Progress}

theorem Agree.refl (progress : Progress) : Agree Eq progress progress := ⟨rfl, rfl, rfl⟩

/-- One more step on both runs. -/
theorem Agree.perform (agree : Agree Eq plain full) (step : Operation × Clock)
    : Agree Eq (plain.perform config step) (full.perform config step) := by
  obtain ⟨case, decisions, executions⟩ := agree
  constructor
  · simp only [Progress.perform, Tracked.perform, case]
  · simp only [Progress.perform, case, decisions]
  · simp only [Progress.perform, Tracked.perform, Tracked.executions_append, case, executions]

/-- A throttle on the full run, while the case is scheduled. -/
theorem Agree.apply (agree : Agree Eq plain full)
    (scheduled : plain.tracked.case.state = .retryScheduled) (clock : Clock)
    : Agree Shadow plain (full.perform config (.applyThrottle, clock)) := by
  obtain ⟨case, decisions, executions⟩ := agree
  obtain ⟨executes, makes⟩ := @call_throttle config full.tracked.case clock .applyThrottle
    (.inl rfl)
  constructor
  · have throttled : (Tracked.call config full.tracked.case clock .applyThrottle).1
        = { plain.tracked.case with state := .throttled } := by
      simp [Tracked.call, applyThrottle, trigger, ← case, scheduled, Tracked.kept]
    simp only [Progress.perform, Tracked.perform, throttled]
    exact .throttled scheduled
  · simp only [Progress.perform, makes, decisions, List.append_nil]
  · simp only [Progress.perform, Tracked.perform, Tracked.executions_append, executes, executions,
      Nat.add_zero]

/-- A delivery on both runs, within a cycle. -/
theorem Agree.deliver (agree : Agree Shadow plain full) {event : Operation × Clock}
    (delivers : event.1.Delivers)
    : Agree Shadow (plain.perform config event) (full.perform config event) := by
  obtain ⟨case, decisions, executions⟩ := agree
  constructor
  · simp only [Progress.perform, Tracked.perform]
    generalize plain.tracked.case = left at case ⊢
    generalize full.tracked.case = right at case ⊢
    cases case with
    | throttled scheduled => exact call_shadow delivers scheduled
    | closed recovered =>
        rw [call_closed delivers recovered]
        exact .closed recovered
  · simp only [Progress.perform, made_delivered delivers, decisions]
  · simp only [Progress.perform, Tracked.perform, Tracked.executions_append,
      call_delivered delivers, executions]

/-- Deliveries on both runs, by induction over them. -/
theorem Agree.deliverAll (agree : Agree Shadow plain full) {events : List (Operation × Clock)}
    (delivered : ∀ event ∈ events, event.1.Delivers)
    : Agree Shadow (plain.performAll config events) (full.performAll config events) := by
  induction events generalizing plain full with
  | nil => exact agree
  | cons event rest ih =>
      obtain ⟨first, later⟩ := List.forall_mem_cons.mp delivered
      exact ih (agree.deliver first) later

/-- A release on the full run ends the cycle; it is refused where a success closed the case. -/
theorem Agree.release (agree : Agree Shadow plain full) (clock : Clock)
    : Agree Eq plain (full.perform config (.releaseThrottle, clock)) := by
  obtain ⟨case, decisions, executions⟩ := agree
  obtain ⟨executes, makes⟩ := @call_throttle config full.tracked.case clock .releaseThrottle
    (.inr rfl)
  constructor
  · simp only [Progress.perform, Tracked.perform]
    generalize plain.tracked.case = left at case ⊢
    generalize full.tracked.case = right at case ⊢
    cases case with
    | throttled scheduled =>
        simp [Tracked.call, releaseThrottle, trigger, Tracked.kept, ← scheduled]
    | closed recovered =>
        simp [Tracked.call, releaseThrottle, trigger, Tracked.kept, recovered]
  · simp only [Progress.perform, makes, decisions, List.append_nil]
  · simp only [Progress.perform, Tracked.perform, Tracked.executions_append, executes, executions,
      Nat.add_zero]

/-- A case that its shadow's cycle closed is its shadow. -/
theorem Agree.closed (agree : Agree Shadow plain full)
    (unscheduled : plain.tracked.case.state ≠ .retryScheduled)
    : Agree Eq plain full := by
  obtain ⟨case, decisions, executions⟩ := agree
  refine ⟨?_, decisions, executions⟩
  generalize plain.tracked.case = left at case unscheduled ⊢
  generalize full.tracked.case = right at case ⊢
  cases case with
  | throttled scheduled => exact absurd scheduled unscheduled
  | closed recovered => rfl

/-- Runs that agree still do so after steps with cycles inserted, by induction over the
insertion.
-/
theorem Agree.inserted {steps steps' : List (Operation × Clock)} (agree : Agree Eq plain full)
    (inserted : Inserted config plain.tracked.case steps steps')
    : Agree Eq (plain.performAll config steps) (full.performAll config steps') := by
  generalize same : plain.tracked.case = case at inserted
  induction inserted generalizing plain full with
  | nil => exact agree
  | @step case step steps steps' _ ih =>
      subst same
      exact ih (agree.perform step) rfl
  | @cycle case events steps steps' applied released scheduled delivered _ ih =>
      subst same
      have throttled := @Agree.apply config _ _ agree scheduled applied
      have within := @Agree.deliverAll config _ _ throttled _ delivered
      have after := @Agree.release config _ _ within released
      have later := ih after (Progress.performAll_case config plain events)
      simpa only [Progress.performAll, List.foldl_append, List.foldl_cons] using later
  | @unfinished case events steps steps' applied scheduled delivered closed _ ih =>
      subst same
      have throttled := @Agree.apply config _ _ agree scheduled applied
      have within := @Agree.deliverAll config _ _ throttled _ delivered
      have left := Progress.performAll_case config plain events
      have after := within.closed (left ▸ closed)
      have later := ih after left
      simpa only [Progress.performAll, List.foldl_append, List.foldl_cons] using later

end Runs

/-- Throttle cycles are invisible: a run with cycles inserted ends with the case record, the
decisions and the number of executions of the run without them.
-/
theorem throttles_invisible {config : AppConfig} {start : Progress}
    {plain full : List (Operation × Clock)}
    (inserted : Inserted config start.tracked.case plain full)
    : let left := start.performAll config plain
      let right := start.performAll config full
      right.tracked.case = left.tracked.case
      ∧ right.decisions = left.decisions
      ∧ right.decisions.map (·.attemptNumber) = left.decisions.map (·.attemptNumber)
      ∧ Tracked.executions right.tracked.trail = Tracked.executions left.tracked.trail := by
  obtain ⟨case, decisions, executions⟩ := (Agree.refl start).inserted inserted
  exact ⟨case.symm, decisions.symm, by rw [decisions], executions.symm⟩

/-- A case that is throttled twice before a success finds it throttled. -/
theorem throttles_invisible_closed
    : let start : Progress := ⟨declined, []⟩
      let left := start.performAll (shippedConfig .prod) [
        (.markNoticeSent none none none, stoppedClock 0),
        (.paymentSucceeded (capture 50000 (by decide)), stoppedClock (hours 3))]
      let right := start.performAll (shippedConfig .prod) [
        (.markNoticeSent none none none, stoppedClock 0),
        (.applyThrottle, stoppedClock (hours 1)),
        (.releaseThrottle, stoppedClock (hours 1)),
        (.applyThrottle, stoppedClock (hours 2)),
        (.paymentSucceeded (capture 50000 (by decide)), stoppedClock (hours 3))]
      right.tracked.case = left.tracked.case
      ∧ right.decisions = left.decisions
      ∧ right.decisions.map (·.attemptNumber) = left.decisions.map (·.attemptNumber)
      ∧ Tracked.executions right.tracked.trail = Tracked.executions left.tracked.trail := by
  refine throttles_invisible
    (.step (@Inserted.cycle _ _ [] _ _ _ _ ?_ (List.forall_mem_nil _) ?_))
  · decide +kernel
  · refine @Inserted.unfinished _ _ [(.paymentSucceeded (capture 50000 (by decide)), _)] _ _ _ ?_
      ?_ ?_ .nil
    · decide +kernel
    · simp [Operation.Delivers]
    · decide +kernel

end RecoveryAgent.StateMachine
