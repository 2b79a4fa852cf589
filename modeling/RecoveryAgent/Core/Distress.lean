import RecoveryAgent.Core.Time
import RecoveryAgent.Lib.SlidingWindow
import Mathlib.Algebra.Order.Group.Int
import Mathlib.Data.List.Induction

/-! The cross-mandate distress signal (`distress.py`): a failure counter per instrument that
prunes its records as it goes, against the whole history of failures.
-/

namespace RecoveryAgent

open SlidingWindow (recent recent_append recent_recent)

/-- Sliding window failure counter per instrument. -/
structure DistressDetector where
  window : Timedelta
  threshold : Int
  failures : String → List Datetime

/-- One failure to record: the instrument, and when it failed. -/
abbrev InstrumentFailure := String × Datetime

namespace DistressDetector

/-- The detector before any failure. -/
def init (window : Timedelta) (threshold : Int) : DistressDetector :=
  ⟨window, threshold, fun _ => []⟩

/-- The detector `main.py` starts with. -/
def new : DistressDetector := init (hours 24) 3

def recordFailure (detector : DistressDetector) (instrumentId : String) (now : Datetime)
    : DistressDetector :=
  let kept := (detector.failures instrumentId ++ [now]).filter (now - detector.window ≤ ·)
  { detector with failures := Function.update detector.failures instrumentId kept }

def failureCount (detector : DistressDetector) (instrumentId : String) (now : Datetime) : Nat :=
  ((detector.failures instrumentId).filter (now - detector.window ≤ ·)).length

def isDistressed (detector : DistressDetector) (instrumentId : String) (now : Datetime)
    : Bool :=
  decide (detector.threshold ≤ detector.failureCount instrumentId now)

/-- The detector after the failures, recorded in their order. -/
def recordAll (detector : DistressDetector) (failures : List InstrumentFailure)
    : DistressDetector :=
  failures.foldl (fun detector failure => detector.recordFailure failure.1 failure.2) detector

/-- When the instrument failed, by the history of every failure. -/
def failedAt (history : List InstrumentFailure) (instrumentId : String) : List Datetime :=
  (history.filter (·.1 = instrumentId)).map Prod.snd

theorem failedAt_append (history later : List InstrumentFailure) (instrumentId : String)
    : failedAt (history ++ later) instrumentId
      = failedAt history instrumentId ++ failedAt later instrumentId := by
  simp [failedAt]

/-- The kept records agree with the history for every query past its last failure. -/
def Covers (detector : DistressDetector) (history : List InstrumentFailure) : Prop :=
  ∀ instrumentId now, (∀ failure ∈ history, failure.2 ≤ now) →
    recent detector.window now (detector.failures instrumentId)
      = recent detector.window now (failedAt history instrumentId)

theorem Covers.init (window : Timedelta) (threshold : Int)
    : (DistressDetector.init window threshold).Covers [] :=
  fun _ _ _ => rfl

/-- Recording a failure no older than the others keeps the agreement: what it prunes is
outside every later window.
-/
theorem Covers.recordFailure {detector : DistressDetector} {history : List InstrumentFailure}
    (covers : detector.Covers history) {instrumentId : String} {now : Datetime}
    (latest : ∀ failure ∈ history, failure.2 ≤ now)
    : (detector.recordFailure instrumentId now).Covers (history ++ [(instrumentId, now)]) := by
  intro other later past
  have forward : now ≤ later := past (instrumentId, now) (by simp)
  have before := covers other later fun failure member => (latest failure member).trans forward
  change recent detector.window later _ = recent detector.window later _
  rw [failedAt_append, recent_append, ← before]
  by_cases same : other = instrumentId
  · subst same
    have kept : (detector.recordFailure other now).failures other
        = recent detector.window now (detector.failures other ++ [now]) := by
      simp [DistressDetector.recordFailure, recent]
    have single : failedAt [(other, now)] other = [now] := by simp [failedAt]
    rw [kept, single]
    exact (recent_recent forward _).trans (recent_append ..)
  · have untouched : (detector.recordFailure instrumentId now).failures other
        = detector.failures other := by
      simp [DistressDetector.recordFailure, same]
    have none : failedAt [(instrumentId, now)] other = [] := by
      simp [failedAt, Ne.symm same]
    rw [untouched, none]
    exact (List.append_nil _).symm

end DistressDetector

end RecoveryAgent
