import Mathlib.Order.Basic

/-!
# Instants, whole seconds and 32-bit integers

An instant is a number of nanoseconds since the epoch, the resolution of
`java.time.Instant`.  Elapsed times are read in whole seconds, rounded down,
and then narrowed to a signed 32-bit integer, so that a long enough elapsed
time wraps around.
-/

namespace SparkObservability

def nanosPerSecond : Int := 1000000000

theorem nanosPerSecond_pos : 0 < nanosPerSecond := by
  decide

/-- `instant.plus(Duration.ofSeconds(seconds))`. -/
def plusSeconds (instant seconds : Int) : Int :=
  instant + seconds * nanosPerSecond

/-- `Duration.between(start, stop).getSeconds`: the nanosecond part of a
`Duration` is never negative, so the seconds are rounded down. -/
def secondsBetween (start stop : Int) : Int :=
  (stop - start) / nanosPerSecond

/-- The narrowing of a `Long`, or of the exact result of an `Int` operation,
to a signed 32-bit integer. -/
def toInt (value : Int) : Int :=
  value.bmod 4294967296

theorem le_secondsBetween_iff {seconds start stop : Int} :
    seconds ≤ secondsBetween start stop ↔
      plusSeconds start seconds ≤ stop := by
  rw [secondsBetween, Int.le_ediv_iff_mul_le nanosPerSecond_pos,
    plusSeconds]
  omega

theorem secondsBetween_mono {start stop later : Int}
    (ordered : stop ≤ later) :
    secondsBetween start stop ≤ secondsBetween start later :=
  le_secondsBetween_iff.2 <|
    Int.le_trans (le_secondsBetween_iff.1 (Int.le_refl _)) ordered

theorem secondsBetween_plusSeconds (start seconds : Int) :
    secondsBetween start (plusSeconds start seconds) = seconds := by
  have elapsed :
      plusSeconds start seconds - start = seconds * nanosPerSecond := by
    unfold plusSeconds
    omega
  rw [secondsBetween, elapsed,
    Int.mul_ediv_cancel _ (Int.ne_of_gt nanosPerSecond_pos)]

theorem plusSeconds_add (start first second : Int) :
    plusSeconds start (first + second) =
      plusSeconds (plusSeconds start first) second := by
  simp only [plusSeconds, Int.add_mul, Int.add_assoc]

theorem plusSeconds_lt_plusSeconds_iff {start stop seconds : Int} :
    plusSeconds start seconds < plusSeconds stop seconds ↔
      start < stop := by
  unfold plusSeconds
  omega

theorem lt_plusSeconds (instant : Int) {seconds : Int}
    (positive : 0 < seconds) :
    instant < plusSeconds instant seconds := by
  have scaled := Int.mul_pos positive nanosPerSecond_pos
  unfold plusSeconds
  omega

theorem plusSeconds_mono (start : Int) {first second : Int}
    (ordered : first ≤ second) :
    plusSeconds start first ≤ plusSeconds start second := by
  have scaled :=
    Int.mul_le_mul_of_nonneg_right ordered
      (Int.le_of_lt nanosPerSecond_pos)
  unfold plusSeconds
  omega

/-- An elapsed time cut by a delay ends before every instant that the delay
brings past `stop`. -/
theorem plusSeconds_elapsed_sub_lt
    {start stop earlier delay : Int}
    (early : stop < plusSeconds earlier delay) :
    plusSeconds start (secondsBetween start stop - delay) < earlier := by
  have reaches :
      plusSeconds start (secondsBetween start stop) ≤ stop :=
    le_secondsBetween_iff.1 (Int.le_refl _)
  unfold plusSeconds at early reaches ⊢
  rw [Int.sub_mul]
  omega

theorem toInt_of_fits {value : Int}
    (lower : -2147483648 ≤ value) (upper : value < 2147483648) :
    toInt value = value :=
  Int.bmod_eq_of_le lower upper

/-- Narrowing the minuend first does not change a narrowed difference. -/
theorem toInt_toInt_sub (value subtrahend : Int) :
    toInt (toInt value - subtrahend) = toInt (value - subtrahend) :=
  Int.bmod_sub_bmod

end SparkObservability
