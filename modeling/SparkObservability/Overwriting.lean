import Mathlib.Data.List.Basic

/-!
# Loops that overwrite a variable

A loop over items, in groups or not, that reads each of them into the same
variable.  It ends with what is read from the last item, and only if all of
them can be read.
-/

namespace SparkObservability

universe u v

namespace Overwriting

/-- The two loops over groups and their items are one loop over all items. -/
theorem foldlM_flatMap
    {Effect : Type u → Type v} [Monad Effect] [LawfulMonad Effect]
    {Group Item : Type} {State : Type u} (step : State → Item → Effect State)
    (items : Group → List Item) (groups : List Group) (state : State) :
    groups.foldlM (fun state group => (items group).foldlM step state) state =
      (groups.flatMap items).foldlM step state := by
  induction groups generalizing state with
  | nil => rfl
  | cons group rest inductionHypothesis =>
      rw [List.foldlM_cons, List.flatMap_cons, List.foldlM_append]
      simp only [inductionHypothesis]

variable {Item : Type} {Value Error : Type u}

/-- The value of the variable after the loop. -/
def overwrite
    (read : Item → Except Error Value) (first : Value) (items : List Item) :
    Except Error Value :=
  items.foldlM (fun _ item => read item) first

variable {read : Item → Except Error Value} {first last : Value}
  {items : List Item}

theorem overwrite_cons (item : Item) :
    overwrite read first (item :: items) =
      (read item).bind fun value => overwrite read value items :=
  List.foldlM_cons

/-- Nothing but the last item counts, if the others can be read. -/
theorem overwrite_concat (item : Item) :
    overwrite read first (items ++ [item]) =
      (overwrite read first items).bind fun _ => read item := by
  rw [overwrite, List.foldlM_append]
  simp only [List.foldlM_cons, List.foldlM_nil, bind_pure]
  rfl

theorem reads_of_overwrite
    (returns : overwrite read first items = .ok last) :
    ∀ item ∈ items, ∃ value, read item = .ok value := by
  induction items generalizing first with
  | nil => simp
  | cons item rest inductionHypothesis =>
      rw [overwrite_cons] at returns
      cases reading : read item with
      | error error =>
          rw [reading] at returns
          cases returns
      | ok value =>
          rw [reading] at returns
          exact
            List.forall_mem_cons.2
              ⟨⟨value, reading⟩, inductionHypothesis returns⟩

theorem overwrite_of_reads
    (reads : ∀ item ∈ items, ∃ value, read item = .ok value) (first : Value) :
    ∃ last, overwrite read first items = .ok last := by
  induction items generalizing first with
  | nil => exact ⟨first, rfl⟩
  | cons item rest inductionHypothesis =>
      rw [List.forall_mem_cons] at reads
      obtain ⟨⟨value, reading⟩, restReads⟩ := reads
      rw [overwrite_cons, reading]
      exact inductionHypothesis restReads value

theorem exists_read_of_overwrite
    (someItem : items ≠ []) (returns : overwrite read first items = .ok last) :
    ∃ item ∈ items, read item = .ok last := by
  obtain ⟨initial, item, rfl⟩ :=
    (List.eq_nil_or_concat' items).resolve_left someItem
  rw [overwrite_concat] at returns
  cases before : overwrite read first initial with
  | error error =>
      rw [before] at returns
      cases returns
  | ok value =>
      rw [before] at returns
      exact
        ⟨item, List.mem_append_right _ (List.mem_singleton_self _), returns⟩

end Overwriting

end SparkObservability
