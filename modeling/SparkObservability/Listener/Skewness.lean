import SparkObservability.Listener.Callbacks
import SparkObservability.Spread

/-!
# The skewness of a stage

`collectStageCustomMetrics` takes the largest relative distance of a task
from the mean.  Only the extremes matter for it, which gives it a closed
form, two bounds and independence of the order of the tasks.
-/

namespace SparkObservability

open CustomMetricsListener

/-- The aggregates of a column, read off its extremes and its mean. -/
theorem aggregateColumn_of_extremes
    {bytesRead : List Rat} {least greatest : Rat}
    (bottom : IsLeast {x | x ∈ bytesRead} least)
    (top : IsGreatest {x | x ∈ bytesRead} greatest) :
    aggregateColumn bytesRead =
      .ok
        ⟨if greatest - least = 0 then 0
          else relativeSpread least greatest (mean bytesRead), greatest⟩ := by
  obtain ⟨first, rest, rfl⟩ :=
    List.exists_cons_of_ne_nil (List.ne_nil_of_mem top.1)
  have maxShape : rest.foldl max first = greatest :=
    (isGreatest_foldl_max first rest).unique top
  have minShape : rest.foldl min first = least :=
    (isLeast_foldl_min first rest).unique bottom
  have meanShape :
      rest.foldl (· + ·) first / (first :: rest).length =
        mean (first :: rest) := by
    rw [foldl_add_eq_sum, mean]
  let centre := mean (first :: rest)
  let range := if greatest - least = 0 then 1 else greatest - least
  have ordered : least ≤ greatest := bottom.2 top.1
  have rangePos : 0 < range := by
    by_cases constant : greatest - least = 0
    · simp [range, constant]
    · rw [show range = greatest - least from if_neg constant]
      exact lt_of_le_of_ne (sub_nonneg.2 ordered) (Ne.symm constant)
  have distances :
      (rest.map fun x => |x - centre| / range).foldl max
          (|first - centre| / range) =
        max (greatest - centre) (centre - least) / range :=
    (isGreatest_foldl_max _ _).unique
      (isGreatest_distances bottom top rangePos (least_le_mean bottom top)
        (mean_le_greatest bottom top))
  have computed :
      aggregateColumn (first :: rest) =
        .ok
          ⟨(rest.map fun x => |x - centre| / range).foldl max
              (|first - centre| / range), greatest⟩ := by
    have unfolded :
        aggregateColumn (first :: rest) =
          let centre := rest.foldl (· + ·) first / (first :: rest).length
          let greatest := rest.foldl max first
          let range :=
            if greatest - rest.foldl min first = 0 then 1
            else greatest - rest.foldl min first
          .ok
            ⟨(rest.map fun x => |x - centre| / range).foldl max
                (|first - centre| / range), greatest⟩ := rfl
    rw [unfolded, maxShape, minShape, meanShape]
  rw [computed, distances]
  by_cases constant : greatest - least = 0
  · have above := least_le_mean bottom top
    have below := mean_le_greatest bottom top
    have atTop : greatest - centre = 0 := by simp only [centre]; linarith
    have atBottom : centre - least = 0 := by simp only [centre]; linarith
    rw [if_pos constant, atTop, atBottom, max_self, zero_div]
  · rw [if_neg constant, relativeSpread,
      show range = greatest - least from if_neg constant]

theorem exists_extremes {bytesRead : List Rat} (nonempty : bytesRead ≠ []) :
    ∃ least greatest,
      IsLeast {x | x ∈ bytesRead} least ∧
        IsGreatest {x | x ∈ bytesRead} greatest := by
  obtain ⟨first, rest, rfl⟩ := List.exists_cons_of_ne_nil nonempty
  exact ⟨_, _, isLeast_foldl_min first rest, isGreatest_foldl_max first rest⟩

/-- The order of the tasks does not matter. -/
theorem aggregateColumn_perm {bytesRead reordered : List Rat}
    (perm : bytesRead.Perm reordered) :
    aggregateColumn bytesRead = aggregateColumn reordered := by
  by_cases empty : bytesRead = []
  · subst empty
    rw [List.nil_perm.1 perm]
  · obtain ⟨least, greatest, bottom, top⟩ := exists_extremes empty
    have sameElements :
        {x | x ∈ bytesRead} = {x | x ∈ reordered} :=
      Set.ext fun _ => perm.mem_iff
    rw [aggregateColumn_of_extremes bottom top]
    rw [sameElements] at bottom top
    rw [aggregateColumn_of_extremes bottom top, mean_perm perm]

/-! ## Divisions -/

/-- A division that has no result for the divisor zero. -/
def divide (numerator divisor : Rat) : Option Rat :=
  if divisor = 0 then none else some (numerator / divisor)

theorem divide_of_ne_zero
    (numerator : Rat) {divisor : Rat} (nonzero : divisor ≠ 0) :
    divide numerator divisor = some (numerator / divisor) :=
  if_neg nonzero

/-- The computation of `aggregateColumn` with checked divisions. -/
def checkedAggregateColumn (bytesRead : List Rat) :
    Option ColumnAggregates := do
  let length := bytesRead.length
  let avgBytesRead ← divide (← (reduce (· + ·) bytesRead).toOption) length
  let maxBytesRead ← (reduce max bytesRead).toOption
  let minBytesRead ← (reduce min bytesRead).toOption
  let rangeBytesRead :=
    if maxBytesRead - minBytesRead = 0 then 1 else maxBytesRead - minBytesRead
  let distances ←
    bytesRead.mapM fun x => divide |x - avgBytesRead| rangeBytesRead
  let maxRelDistance ← (reduce max distances).toOption
  return ⟨maxRelDistance, maxBytesRead⟩

/-- No division by zero occurs: checking the divisions changes nothing. -/
theorem checkedAggregateColumn_eq (bytesRead : List Rat) :
    checkedAggregateColumn bytesRead =
      (aggregateColumn bytesRead).toOption := by
  cases bytesRead with
  | nil => rfl
  | cons first rest =>
      have lengthNonzero : ((first :: rest).length : Rat) ≠ 0 := by
        rw [Nat.cast_ne_zero]
        exact Nat.succ_ne_zero _
      have rangeNonzero (range : Rat) :
          (if range = 0 then 1 else range) ≠ 0 := by
        split
        next => exact one_ne_zero
        next nonzero => exact nonzero
      have distances (centre range : Rat) (nonzero : range ≠ 0) :
          ((first :: rest).mapM fun x => divide |x - centre| range) =
            some ((first :: rest).map fun x => |x - centre| / range) := by
        have always :
            (fun x => divide |x - centre| range) =
              fun x => pure (|x - centre| / range) := by
          funext x
          exact divide_of_ne_zero _ nonzero
        rw [always, List.mapM_pure]
        rfl
      have unfolded :
          checkedAggregateColumn (first :: rest) =
            (divide (rest.foldl (· + ·) first) (first :: rest).length).bind
              fun centre =>
                let greatest := rest.foldl max first
                let range :=
                  if greatest - rest.foldl min first = 0 then 1
                  else greatest - rest.foldl min first
                ((first :: rest).mapM fun x =>
                    divide |x - centre| range).bind
                  fun distances =>
                    (reduce max distances).toOption.bind
                      fun skewness => some ⟨skewness, greatest⟩ := rfl
      rw [unfolded, divide_of_ne_zero _ lengthNonzero, Option.bind_some]
      simp only [distances _ _ (rangeNonzero _), Option.bind_some]
      rfl

/-! ## The closed form of the two aggregates -/

/-- The skewness and the maximum of a column of byte counts. -/
structure SkewnessOf
    (bytesRead : List Rat) (skewness greatest : Rat) : Prop where
  maximum : IsGreatest {x | x ∈ bytesRead} greatest
  constant : (∀ x ∈ bytesRead, ∀ y ∈ bytesRead, x = y) → skewness = 0
  spread :
    ¬ (∀ x ∈ bytesRead, ∀ y ∈ bytesRead, x = y) →
      ∀ least, IsLeast {x | x ∈ bytesRead} least →
        skewness =
            max (greatest - mean bytesRead) (mean bytesRead - least) /
              (greatest - least) ∧
          1 / 2 ≤ skewness ∧
          skewness ≤ ((bytesRead.length : Rat) - 1) / bytesRead.length
  divisions :
    checkedAggregateColumn bytesRead = some ⟨skewness, greatest⟩

/-- A column is constant exactly when its extremes agree. -/
theorem constant_iff_extremes_eq
    {bytesRead : List Rat} {least greatest : Rat}
    (bottom : IsLeast {x | x ∈ bytesRead} least)
    (top : IsGreatest {x | x ∈ bytesRead} greatest) :
    (∀ x ∈ bytesRead, ∀ y ∈ bytesRead, x = y) ↔ greatest - least = 0 := by
  constructor
  · intro constant
    rw [constant greatest top.1 least bottom.1, sub_self]
  · intro noRange x xMember y yMember
    have xAbove : least ≤ x := bottom.2 xMember
    have xBelow : x ≤ greatest := top.2 xMember
    have yAbove : least ≤ y := bottom.2 yMember
    have yBelow : y ≤ greatest := top.2 yMember
    linarith

theorem skewnessOf_aggregateColumn
    {bytesRead : List Rat} {aggregates : ColumnAggregates}
    (computed : aggregateColumn bytesRead = .ok aggregates) :
    SkewnessOf bytesRead aggregates.maxRelDistance
      aggregates.maxBytesRead := by
  have divisions :
      checkedAggregateColumn bytesRead =
        some ⟨aggregates.maxRelDistance, aggregates.maxBytesRead⟩ := by
    rw [checkedAggregateColumn_eq, computed]
    rfl
  have nonempty : bytesRead ≠ [] := by
    rintro rfl
    cases computed
  obtain ⟨least, greatest, bottom, top⟩ := exists_extremes nonempty
  have constantIff := constant_iff_extremes_eq bottom top
  rw [aggregateColumn_of_extremes bottom top] at computed
  cases computed
  refine ⟨top, ?_, ?_, divisions⟩
  · intro constant
    exact if_pos (constantIff.1 constant)
  · intro notConstant other otherBottom
    have range : greatest - least ≠ 0 := mt constantIff.2 notConstant
    have apart : least < greatest := by
      have ordered : least ≤ greatest := bottom.2 top.1
      exact lt_of_le_of_ne ordered fun same => range (by rw [same, sub_self])
    rw [otherBottom.unique bottom]
    simp only [if_neg range]
    refine ⟨rfl, half_le_relativeSpread apart, ?_⟩
    exact relativeSpread_mean_le bottom top apart

/-- The skewness and the maximum of both columns of a stage with at least one
task, for any order of its tasks. -/
theorem stage_skewness
    (env : ListenerEnvironment) (listener : CustomMetricsListener)
    (someTask : listener.taskMetricsBuffer ≠ []) :
    ∃ metrics,
      listener.collectStageCustomMetrics env = .ok metrics ∧
        SkewnessOf (listener.taskMetricsBuffer.map (·.inputBytesRead))
          metrics.inputBytesReadSkewness metrics.maxInputBytesRead ∧
        SkewnessOf (listener.taskMetricsBuffer.map (·.shuffleBytesRead))
          metrics.shuffleBytesReadSkewness metrics.maxShuffleBytesRead ∧
        ∀ (laterEnv : ListenerEnvironment)
          (other : CustomMetricsListener),
          other.taskMetricsBuffer.Perm listener.taskMetricsBuffer →
            ∃ otherMetrics,
              other.collectStageCustomMetrics laterEnv = .ok otherMetrics ∧
                otherMetrics.inputBytesReadSkewness =
                  metrics.inputBytesReadSkewness ∧
                otherMetrics.maxInputBytesRead = metrics.maxInputBytesRead ∧
                otherMetrics.shuffleBytesReadSkewness =
                  metrics.shuffleBytesReadSkewness ∧
                otherMetrics.maxShuffleBytesRead =
                  metrics.maxShuffleBytesRead := by
  obtain ⟨metrics, collected, fields⟩ := collectStage_of_nonempty env someTask
  refine
    ⟨metrics, collected, skewnessOf_aggregateColumn fields.input,
      skewnessOf_aggregateColumn fields.shuffle, ?_⟩
  intro laterEnv other reordered
  have otherTask : other.taskMetricsBuffer ≠ [] := by
    intro empty
    rw [empty] at reordered
    exact someTask (List.nil_perm.1 reordered)
  obtain ⟨otherMetrics, otherCollected, otherFields⟩ :=
    collectStage_of_nonempty laterEnv otherTask
  have sameInput := otherFields.input
  rw [aggregateColumn_perm (reordered.map _), fields.input] at sameInput
  have sameShuffle := otherFields.shuffle
  rw [aggregateColumn_perm (reordered.map _), fields.shuffle] at sameShuffle
  rw [Except.ok.injEq, ColumnAggregates.mk.injEq] at sameInput sameShuffle
  exact
    ⟨otherMetrics, otherCollected, sameInput.1.symm, sameInput.2.symm,
      sameShuffle.1.symm, sameShuffle.2.symm⟩

/-- Three tasks, two of them without shuffle reads. -/
theorem stage_skewness_three_tasks :
    let listener : CustomMetricsListener :=
      { CustomMetricsListener.create 100 60 0 with
        taskMetricsBuffer :=
          [⟨"app", "app-1", "7", 1, "1.0", 5, 0, 12000⟩,
            ⟨"app", "app-1", "7", 1, "2.0", 9, 4, 13000⟩,
            ⟨"app", "app-1", "7", 1, "3.0", 7, 0, 14000⟩] }
    ∃ metrics,
      listener.collectStageCustomMetrics
          (.running (15 * nanosPerSecond) (.response 200 none)) =
        .ok metrics ∧
      SkewnessOf [5, 9, 7] metrics.inputBytesReadSkewness
        metrics.maxInputBytesRead ∧
      SkewnessOf [0, 4, 0] metrics.shuffleBytesReadSkewness
        metrics.maxShuffleBytesRead := by
  obtain ⟨metrics, collected, input, shuffle, -⟩ :=
    stage_skewness (.running (15 * nanosPerSecond) (.response 200 none))
      { CustomMetricsListener.create 100 60 0 with
        taskMetricsBuffer :=
          [⟨"app", "app-1", "7", 1, "1.0", 5, 0, 12000⟩,
            ⟨"app", "app-1", "7", 1, "2.0", 9, 4, 13000⟩,
            ⟨"app", "app-1", "7", 1, "3.0", 7, 0, 14000⟩] }
      (List.cons_ne_nil _ _)
  exact ⟨metrics, collected, input, shuffle⟩

end SparkObservability
