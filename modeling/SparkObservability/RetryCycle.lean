import Mathlib.Algebra.Order.Ring.Int

/-!
# Retry cycles with a capped exponential wait

The abstract content of a retry policy: how many failures have been absorbed
since the last success is a function of the outcomes alone, and the wait
doubles with that number up to a cap.
-/

namespace SparkObservability

/-- How an attempt ended for the retry policy. -/
inductive AttemptOutcome where
  | acknowledged
  | absorbed
  | rejected
  deriving DecidableEq, Repr

namespace RetryCycle

/-- The number of absorbed failures after one more outcome. -/
def count (failures : Nat) : AttemptOutcome → Nat
  | .acknowledged => 0
  | .absorbed => failures + 1
  | .rejected => failures

/-- The number of failures absorbed since the last acknowledged attempt, or
since the beginning. -/
def absorbedFailures (outcomes : List AttemptOutcome) : Nat :=
  outcomes.foldl count 0

/-- The wait after a number of absorbed failures. -/
def wait (initial cap : Int) (failures : Nat) : Int :=
  min cap (initial * 2 ^ failures)

/-- Doubling and capping a capped wait is the next capped wait. -/
theorem wait_succ (initial cap : Int) (capNonneg : 0 ≤ cap)
    (failures : Nat) :
    min (wait initial cap failures * 2) cap =
      wait initial cap (failures + 1) := by
  have doubled :
      initial * 2 ^ (failures + 1) = initial * 2 ^ failures * 2 := by
    rw [Int.pow_succ, Int.mul_assoc]
  unfold wait
  rw [doubled]
  generalize initial * 2 ^ failures = raw
  omega

theorem wait_pos {initial cap : Int} (initialPos : 0 < initial)
    (capPos : 0 < cap) (failures : Nat) :
    0 < wait initial cap failures := by
  have rawPos : 0 < initial * 2 ^ failures :=
    Int.mul_pos initialPos (Int.pow_pos (by decide))
  unfold wait
  omega

end RetryCycle

end SparkObservability
