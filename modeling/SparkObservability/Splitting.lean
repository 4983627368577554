import Mathlib.Data.List.Basic

/-!
# Splitting a limited number of times

A limit on the number of splits is no limit on the number of pieces: what is
left after the last split is a piece of its own, with all the separators in
it.
-/

namespace SparkObservability

universe u

namespace Splitting

variable {Item : Type u}

/-- What is left of the pieces after so many splits, joined again. -/
def leftover
    (separator : Item) (limit : Nat) (pieces : List (List Item)) :
    List (List Item) :=
  if limit < pieces.length then
    [[separator].intercalate (pieces.drop limit)]
  else
    []

/-- The limit is a limit on the number of pieces only where it is never
reached. -/
theorem leftover_eq_nil_iff
    (separator : Item) (limit : Nat) (pieces : List (List Item)) :
    leftover separator limit pieces = [] ↔ pieces.length ≤ limit := by
  rw [leftover]
  by_cases more : limit < pieces.length
  · rw [if_pos more]
    exact iff_of_false (List.cons_ne_nil _ _) (Nat.not_le.2 more)
  · rw [if_neg more]
    exact iff_of_true rfl (Nat.le_of_not_lt more)

/-! ## The pieces -/

variable [DecidableEq Item]

/-- The pieces between the separators, of which the first ones only, up to the
limit, are taken for separators. -/
def split (separator : Item) : Nat → List Item → List (List Item)
  | 0, items => [items]
  | _ + 1, [] => [[]]
  | limit + 1, item :: rest =>
      if item = separator then
        [] :: split separator limit rest
      else
        (split separator (limit + 1) rest).modifyHead (List.cons item)

variable {separator : Item}

theorem split_of_not_mem
    {items : List Item} (free : separator ∉ items) (limit : Nat) :
    split separator limit items = [items] := by
  induction items with
  | nil => cases limit <;> rfl
  | cons item rest inductionHypothesis =>
      cases limit with
      | zero => rfl
      | succ limit =>
          rw [List.mem_cons, not_or] at free
          rw [split, if_neg (Ne.symm free.1), inductionHypothesis free.2,
            List.modifyHead_cons]

theorem split_append
    {piece : List Item} (free : separator ∉ piece) (limit : Nat)
    (rest : List Item) :
    split separator (limit + 1) (piece ++ separator :: rest) =
      piece :: split separator limit rest := by
  induction piece with
  | nil => rw [List.nil_append, split, if_pos rfl]
  | cons item piece inductionHypothesis =>
      rw [List.mem_cons, not_or] at free
      rw [List.cons_append, split, if_neg (Ne.symm free.1),
        inductionHypothesis free.2, List.modifyHead_cons]

/-- Joined pieces are split into as many of them as the limit allows and one
more, the leftover. -/
theorem split_intercalate
    {pieces : List (List Item)} (somePiece : pieces ≠ [])
    (free : ∀ piece ∈ pieces, separator ∉ piece) (limit : Nat) :
    split separator limit ([separator].intercalate pieces) =
      pieces.take limit ++ leftover separator limit pieces := by
  induction pieces generalizing limit with
  | nil => exact absurd rfl somePiece
  | cons piece rest inductionHypothesis =>
      rw [List.forall_mem_cons] at free
      cases limit with
      | zero => simp [split, leftover]
      | succ limit =>
          cases rest with
          | nil =>
              simp [split_of_not_mem free.1, leftover]
          | cons next others =>
              have restSplit :=
                inductionHypothesis (List.cons_ne_nil _ _) free.2 limit
              rw [List.intercalate_cons_cons, List.append_assoc,
                List.singleton_append, split_append free.1, restSplit]
              simp [leftover]

end Splitting

end SparkObservability
