import Mathlib.Algebra.BigOperators.Group.List.Basic
import Mathlib.Algebra.Order.BigOperators.Group.List
import Mathlib.Algebra.Order.Field.Rat
import Mathlib.Order.Bounds.Basic
import Mathlib.Tactic.FieldSimp
import Mathlib.Tactic.Linarith
import Mathlib.Tactic.Ring

/-!
# The mean and the extremes of a list

Facts about lists of elements of an ordered field: the extremes that a fold
computes, how far the mean lies from them, and the largest relative distance
from the mean.  Nothing here is about a particular program.
-/

namespace SparkObservability

universe u

/-! ## Extremes by folding -/

section Extremes

variable {K : Type u} [LinearOrder K]

theorem isGreatest_foldl_max (first : K) (rest : List K) :
    IsGreatest {x | x ∈ first :: rest} (rest.foldl max first) := by
  induction rest generalizing first with
  | nil => simp [IsGreatest]
  | cons second rest inductionHypothesis =>
      obtain ⟨attained, above⟩ := inductionHypothesis (max first second)
      rw [mem_upperBounds] at above
      refine ⟨?_, ?_⟩
      · rcases List.mem_cons.1 attained with isMax | later
        · change rest.foldl max (max first second) ∈ _
          rw [isMax]
          rcases max_choice first second with isFirst | isSecond
          · simp [isFirst]
          · simp [isSecond]
        · exact List.mem_cons_of_mem _ (List.mem_cons_of_mem _ later)
      · rw [mem_upperBounds]
        intro x member
        have aboveBoth :
            max first second ≤ rest.foldl max (max first second) :=
          above _ (List.Mem.head _)
        rcases List.mem_cons.1 member with rfl | member
        · exact le_trans (le_max_left _ _) aboveBoth
        · rcases List.mem_cons.1 member with rfl | later
          · exact le_trans (le_max_right _ _) aboveBoth
          · exact above x (List.mem_cons_of_mem _ later)

theorem isLeast_foldl_min (first : K) (rest : List K) :
    IsLeast {x | x ∈ first :: rest} (rest.foldl min first) :=
  isGreatest_foldl_max (K := Kᵒᵈ) first rest

end Extremes

/-! ## The mean -/

section Mean

variable {K : Type u} [Field K]

def mean (values : List K) : K :=
  values.sum / values.length

theorem foldl_add_eq_sum (first : K) (rest : List K) :
    rest.foldl (· + ·) first = (first :: rest).sum := by
  rw [List.sum_eq_foldl, List.foldl_cons, zero_add]

theorem mean_perm {values others : List K} (perm : values.Perm others) :
    mean values = mean others := by
  rw [mean, mean, perm.sum_eq, perm.length_eq]

theorem length_erase_cast
    [DecidableEq K] {values : List K} {x : K} (member : x ∈ values) :
    ((values.erase x).length : K) = values.length - 1 := by
  have positive : 1 ≤ values.length := List.length_pos_of_mem member
  rw [List.length_erase_of_mem member, Nat.cast_sub positive, Nat.cast_one]

variable [LinearOrder K] [IsStrictOrderedRing K]
variable {values : List K} {least greatest : K}

theorem length_pos_of_isGreatest
    (top : IsGreatest {x | x ∈ values} greatest) :
    (0 : K) < values.length := by
  have positive : 0 < values.length := List.length_pos_of_mem top.1
  exact_mod_cast positive

/-- One element is the greatest and the others are at least the least. -/
theorem add_least_le_sum
    (bottom : IsLeast {x | x ∈ values} least)
    (top : IsGreatest {x | x ∈ values} greatest) :
    greatest + (values.length - 1) * least ≤ values.sum := by
  have others :
      (values.erase greatest).length • least ≤ (values.erase greatest).sum := by
    apply List.card_nsmul_le_sum
    intro x member
    exact bottom.2 (List.mem_of_mem_erase member)
  rw [nsmul_eq_mul, length_erase_cast top.1] at others
  have split := List.sum_erase top.1
  linarith

/-- One element is the least and the others are at most the greatest. -/
theorem sum_le_add_greatest
    (bottom : IsLeast {x | x ∈ values} least)
    (top : IsGreatest {x | x ∈ values} greatest) :
    values.sum ≤ least + (values.length - 1) * greatest := by
  have others :
      (values.erase least).sum ≤ (values.erase least).length • greatest := by
    apply List.sum_le_card_nsmul
    intro x member
    exact top.2 (List.mem_of_mem_erase member)
  rw [nsmul_eq_mul, length_erase_cast bottom.1] at others
  have split := List.sum_erase bottom.1
  linarith

/-- Of `n` values one is at the other end, so neither extreme is farther
from the mean than `n - 1` shares of the range. -/
theorem greatest_sub_mean_le
    (bottom : IsLeast {x | x ∈ values} least)
    (top : IsGreatest {x | x ∈ values} greatest) :
    greatest - mean values ≤
      (values.length - 1) / values.length * (greatest - least) := by
  have positive := length_pos_of_isGreatest top
  have sums := add_least_le_sum bottom top
  rw [mean, div_mul_eq_mul_div, le_div_iff₀ positive, sub_mul,
    div_mul_cancel₀ _ positive.ne']
  linarith

theorem mean_sub_least_le
    (bottom : IsLeast {x | x ∈ values} least)
    (top : IsGreatest {x | x ∈ values} greatest) :
    mean values - least ≤
      (values.length - 1) / values.length * (greatest - least) := by
  have positive := length_pos_of_isGreatest top
  have sums := sum_le_add_greatest bottom top
  rw [mean, div_mul_eq_mul_div, le_div_iff₀ positive, sub_mul,
    div_mul_cancel₀ _ positive.ne']
  linarith

theorem mean_le_greatest
    (bottom : IsLeast {x | x ∈ values} least)
    (top : IsGreatest {x | x ∈ values} greatest) :
    mean values ≤ greatest := by
  have positive := length_pos_of_isGreatest top
  have ordered : least ≤ greatest := bottom.2 top.1
  have sums := sum_le_add_greatest bottom top
  rw [mean, div_le_iff₀ positive]
  linarith

theorem least_le_mean
    (bottom : IsLeast {x | x ∈ values} least)
    (top : IsGreatest {x | x ∈ values} greatest) :
    least ≤ mean values := by
  have positive := length_pos_of_isGreatest top
  have ordered : least ≤ greatest := bottom.2 top.1
  have sums := add_least_le_sum bottom top
  rw [mean, le_div_iff₀ positive]
  linarith

/-! ## The largest distance from the mean -/

/-- The distance of the farther extreme from a point, relative to the
range. -/
def relativeSpread (least greatest centre : K) : K :=
  max (greatest - centre) (centre - least) / (greatest - least)

/-- Among the distances from a point between the extremes, that of one of
the extremes is the greatest. -/
theorem isGreatest_distances
    (bottom : IsLeast {x | x ∈ values} least)
    (top : IsGreatest {x | x ∈ values} greatest)
    {centre range : K} (rangePos : 0 < range)
    (above : least ≤ centre) (below : centre ≤ greatest) :
    IsGreatest {y | y ∈ values.map fun x => |x - centre| / range}
      (max (greatest - centre) (centre - least) / range) := by
  refine ⟨?_, ?_⟩
  · apply List.mem_map.2
    rcases max_choice (greatest - centre) (centre - least) with
      isTop | isBottom
    · refine ⟨greatest, top.1, ?_⟩
      rw [isTop, abs_of_nonneg (sub_nonneg.2 below)]
    · refine ⟨least, bottom.1, ?_⟩
      rw [isBottom, abs_sub_comm, abs_of_nonneg (sub_nonneg.2 above)]
  · rw [mem_upperBounds]
    intro y member
    obtain ⟨x, inValues, rfl⟩ := List.mem_map.1 member
    have atLeast : least ≤ x := bottom.2 inValues
    have atMost : x ≤ greatest := top.2 inValues
    apply div_le_div_of_nonneg_right _ rangePos.le
    rw [abs_le]
    constructor
    · have bound := le_max_right (greatest - centre) (centre - least)
      linarith
    · have bound := le_max_left (greatest - centre) (centre - least)
      linarith

theorem half_le_relativeSpread
    {centre : K} (apart : least < greatest) :
    1 / 2 ≤ relativeSpread least greatest centre := by
  have rangePos : 0 < greatest - least := sub_pos.2 apart
  have first := le_max_left (greatest - centre) (centre - least)
  have second := le_max_right (greatest - centre) (centre - least)
  rw [relativeSpread, div_le_div_iff₀ two_pos rangePos]
  linarith

theorem relativeSpread_mean_le
    (bottom : IsLeast {x | x ∈ values} least)
    (top : IsGreatest {x | x ∈ values} greatest)
    (apart : least < greatest) :
    relativeSpread least greatest (mean values) ≤
      (values.length - 1) / values.length := by
  have rangePos : 0 < greatest - least := sub_pos.2 apart
  rw [relativeSpread, div_le_iff₀ rangePos]
  apply max_le
  · exact greatest_sub_mean_le bottom top
  · exact mean_sub_least_le bottom top

end Mean

end SparkObservability
