import Mathlib.Data.List.Basic
import Mathlib.Data.List.Forall2

/-!
# Streams of items and summaries

A source emits items and, from time to time, a summary of the items that are
pending.  An entry may fail to count for the source: an item that does not
count is not pending, and a summary that does not count leaves the pending
items as they are.  Whatever fails, a summary follows its items in the stream,
and the summaries that count cut the items that count into groups.
-/

namespace SparkObservability

universe u v

/-- An entry of the stream, with whether it counts. -/
inductive DigestEntry (Item : Type u) (Summary : Type v) where
  | item (value : Item) (counts : Bool)
  | summary (total : Summary) (counts : Bool)

variable {Item : Type u} {Summary : Type v}

namespace DigestEntry

def countedItem? : DigestEntry Item Summary → Option Item
  | .item value true => some value
  | .item _ false => none
  | .summary _ _ => none

def countedSummary? : DigestEntry Item Summary → Option Summary
  | .summary total true => some total
  | .summary _ false => none
  | .item _ _ => none

end DigestEntry

/-- The stream of a source and the items that are pending after it. -/
inductive Digest (summarizes : List Item → Summary → Prop) :
    List (DigestEntry Item Summary) → List Item → Prop
  | start : Digest summarizes [] []
  | item {entries : List (DigestEntry Item Summary)} {pending : List Item}
      (digest : Digest summarizes entries pending) (value : Item) :
      Digest summarizes (entries ++ [.item value true]) (pending ++ [value])
  | lostItem {entries : List (DigestEntry Item Summary)}
      {pending : List Item}
      (digest : Digest summarizes entries pending) (value : Item) :
      Digest summarizes (entries ++ [.item value false]) pending
  | summary {entries : List (DigestEntry Item Summary)}
      {pending : List Item} {total : Summary}
      (digest : Digest summarizes entries pending)
      (sums : summarizes pending total) :
      Digest summarizes (entries ++ [.summary total true]) []
  | lostSummary {entries : List (DigestEntry Item Summary)}
      {pending : List Item} {total : Summary}
      (digest : Digest summarizes entries pending)
      (sums : summarizes pending total) :
      Digest summarizes (entries ++ [.summary total false]) pending

namespace Digest

variable {summarizes : List Item → Summary → Prop}
  {entries : List (DigestEntry Item Summary)} {pending : List Item}

/-- The summaries that count cut the items that count into groups; what is
left over is pending. -/
theorem exists_groups (digest : Digest summarizes entries pending) :
    ∃ groups,
      entries.filterMap DigestEntry.countedItem? =
          groups.flatten ++ pending ∧
        List.Forall₂ summarizes groups
          (entries.filterMap DigestEntry.countedSummary?) := by
  induction digest with
  | start => exact ⟨[], rfl, List.Forall₂.nil⟩
  | item _ value inductionHypothesis =>
      obtain ⟨groups, items, sums⟩ := inductionHypothesis
      refine ⟨groups, ?_, ?_⟩
      · simp [items, DigestEntry.countedItem?]
      · simpa [List.filterMap_cons, DigestEntry.countedSummary?] using sums
  | lostItem _ _ inductionHypothesis =>
      obtain ⟨groups, items, sums⟩ := inductionHypothesis
      refine ⟨groups, ?_, ?_⟩
      · simp [items, DigestEntry.countedItem?]
      · simpa [List.filterMap_cons, DigestEntry.countedSummary?] using sums
  | @summary _ pending total _ here inductionHypothesis =>
      obtain ⟨groups, items, sums⟩ := inductionHypothesis
      refine ⟨groups ++ [pending], ?_, ?_⟩
      · simp [items, DigestEntry.countedItem?]
      · rw [List.filterMap_append]
        exact List.rel_append sums (.cons here .nil)
  | lostSummary _ _ inductionHypothesis =>
      obtain ⟨groups, items, sums⟩ := inductionHypothesis
      refine ⟨groups, ?_, ?_⟩
      · simp [items, DigestEntry.countedItem?]
      · simpa [List.filterMap_cons, DigestEntry.countedSummary?] using sums

/-- The pending items are the last ones that count. -/
theorem pending_sublist (digest : Digest summarizes entries pending) :
    pending.Sublist (entries.filterMap DigestEntry.countedItem?) := by
  obtain ⟨groups, items, _⟩ := digest.exists_groups
  rw [items]
  exact List.sublist_append_right _ _

theorem concat_eq_cut {α : Type u} {initial before later : List α}
    {last cut : α}
    (same : initial ++ [last] = before ++ cut :: later) :
    (initial = before ∧ last = cut ∧ later = []) ∨
      ∃ between, initial = before ++ cut :: between := by
  rcases List.eq_nil_or_concat later with rfl | ⟨between, final, rfl⟩
  · obtain ⟨sameInitial, sameLast⟩ := List.append_inj' same rfl
    exact Or.inl ⟨sameInitial, List.singleton_injective sameLast, rfl⟩
  · rw [List.concat_eq_append, ← List.cons_append, ← List.append_assoc] at same
    exact Or.inr ⟨between, (List.append_inj' same rfl).1⟩

/-- Every summary, counting or not, sums up items that count and that the
stream shows before it. -/
theorem sources_of_summary (digest : Digest summarizes entries pending)
    {before later : List (DigestEntry Item Summary)} {total : Summary}
    {counts : Bool}
    (shape : entries = before ++ .summary total counts :: later) :
    ∃ sources,
      sources.Sublist (before.filterMap DigestEntry.countedItem?) ∧
        summarizes sources total := by
  induction digest generalizing later with
  | start => simp at shape
  | item _ _ inductionHypothesis =>
      rcases concat_eq_cut shape with ⟨_, wrong, _⟩ | ⟨between, cut⟩
      · cases wrong
      · exact inductionHypothesis cut
  | lostItem _ _ inductionHypothesis =>
      rcases concat_eq_cut shape with ⟨_, wrong, _⟩ | ⟨between, cut⟩
      · cases wrong
      · exact inductionHypothesis cut
  | summary digest sums inductionHypothesis =>
      rcases concat_eq_cut shape with ⟨rfl, same, _⟩ | ⟨between, cut⟩
      · cases same
        exact ⟨_, digest.pending_sublist, sums⟩
      · exact inductionHypothesis cut
  | lostSummary digest sums inductionHypothesis =>
      rcases concat_eq_cut shape with ⟨rfl, same, _⟩ | ⟨between, cut⟩
      · cases same
        exact ⟨_, digest.pending_sublist, sums⟩
      · exact inductionHypothesis cut

end Digest

end SparkObservability
