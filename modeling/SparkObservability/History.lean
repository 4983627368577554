import Mathlib.Data.List.Basic

/-!
# What holds since an event of a history

The past-time operator "since" over finite histories, and the rule that
computes it one event at a time.  An event opens or closes depending on the
history before it.  Nothing here is about a particular program.
-/

namespace SparkObservability

universe u

variable {Event : Type u}

/-- The ways of cutting a history with one more event: at the new event, or
in the history before it. -/
theorem concat_eq_cut_iff
    {history before later : List Event} {last event : Event} :
    history ++ [last] = before ++ event :: later ↔
      (before = history ∧ event = last ∧ later = []) ∨
        ∃ rest, history = before ++ event :: rest ∧ later = rest ++ [last] := by
  constructor
  · intro shape
    rcases List.eq_nil_or_concat later with rfl | ⟨rest, other, rfl⟩
    · obtain ⟨sameHistory, sameEvent⟩ := List.append_inj' shape rfl
      exact Or.inl
        ⟨sameHistory.symm, (List.singleton_inj.1 sameEvent).symm, rfl⟩
    · rw [List.concat_eq_append] at shape ⊢
      rw [← List.cons_append, ← List.append_assoc] at shape
      obtain ⟨sameHistory, sameEvent⟩ := List.append_inj' shape rfl
      exact Or.inr ⟨rest, sameHistory, by rw [sameEvent]⟩
  · intro cut
    rcases cut with ⟨rfl, rfl, rfl⟩ | ⟨rest, rfl, rfl⟩
    · rfl
    · simp

/-- Some event opened, and none of the later ones closed. -/
def Since (opens closes : List Event → Event → Prop)
    (history : List Event) : Prop :=
  ∃ before event later,
    history = before ++ event :: later ∧ opens before event ∧
      ∀ between closing rest,
        later = between ++ closing :: rest →
          ¬ closes (before ++ event :: between) closing

namespace Since

variable {opens closes : List Event → Event → Prop}

theorem not_nil : ¬ Since opens closes [] := by
  intro since
  rcases since with ⟨before, event, later, shape, _⟩
  simp at shape

/-- One more event keeps what was open unless it closes it, and opens anew
if it opens. -/
theorem concat_iff (history : List Event) (last : Event) :
    Since opens closes (history ++ [last]) ↔
      opens history last ∨
        (Since opens closes history ∧ ¬ closes history last) := by
  constructor
  · intro since
    rcases since with ⟨before, event, later, shape, opened, unclosed⟩
    rcases concat_eq_cut_iff.1 shape with
      ⟨rfl, rfl, rfl⟩ | ⟨rest, rfl, rfl⟩
    · exact Or.inl opened
    · refine Or.inr ⟨⟨before, event, rest, rfl, opened, ?_⟩, ?_⟩
      · intro between closing further restShape
        exact unclosed between closing (further ++ [last])
          (by simp [restShape])
      · exact unclosed rest last [] rfl
  · intro openedOrKept
    rcases openedOrKept with
      opened | ⟨⟨before, event, later, rfl, opened, unclosed⟩, open_⟩
    · refine ⟨history, last, [], rfl, opened, ?_⟩
      intro between closing rest shape
      simp at shape
    · refine ⟨before, event, later ++ [last], by simp, opened, ?_⟩
      intro between closing rest shape
      rcases concat_eq_cut_iff.1 shape with
        ⟨rfl, rfl, _⟩ | ⟨further, laterShape, _⟩
      · exact open_
      · exact unclosed between closing further laterShape

theorem exists_opening {history : List Event}
    (since : Since opens closes history) :
    ∃ before event later,
      history = before ++ event :: later ∧ opens before event := by
  obtain ⟨before, event, later, shape, opened, _⟩ := since
  exact ⟨before, event, later, shape, opened⟩

/-- Nothing is open exactly when a closing follows every opening. -/
theorem not_iff_closed (history : List Event) :
    ¬ Since opens closes history ↔
      ∀ before event later,
        history = before ++ event :: later → opens before event →
          ∃ between closing rest,
            later = between ++ closing :: rest ∧
              closes (before ++ event :: between) closing := by
  constructor
  · intro notSince before event later shape opened
    by_contra unclosed
    apply notSince
    refine ⟨before, event, later, shape, opened, ?_⟩
    intro between closing rest laterShape closed
    exact unclosed ⟨between, closing, rest, laterShape, closed⟩
  · intro closed since
    obtain ⟨before, event, later, shape, opened, unclosed⟩ := since
    obtain ⟨between, closing, rest, laterShape, closes⟩ :=
      closed before event later shape opened
    exact unclosed between closing rest laterShape closes

/-- What opened at some time and is never closed is open. -/
theorem of_never_closes {history before later : List Event} {event : Event}
    (shape : history = before ++ event :: later)
    (opened : opens before event)
    (never :
      ∀ earlier closing, closing ∈ history → ¬ closes earlier closing) :
    Since opens closes history := by
  refine ⟨before, event, later, shape, opened, ?_⟩
  intro between closing rest laterShape
  apply never
  simp [shape, laterShape]

end Since

/-! ## What follows an event -/

/-- Every event of the list gets from the events after it what it demands. -/
def Followed (demands : Event → List Event → Prop) : List Event → Prop
  | [] => True
  | event :: later => demands event later ∧ Followed demands later

section Followed

variable {demands : Event → List Event → Prop}

instance Followed.instDecidable
    [∀ event later, Decidable (demands event later)] :
    ∀ events, Decidable (Followed demands events)
  | [] => instDecidableTrue
  | _ :: later =>
      haveI := Followed.instDecidable later
      inferInstanceAs (Decidable (_ ∧ _))

theorem followed_iff_cut (events : List Event) :
    Followed demands events ↔
      ∀ before event later,
        events = before ++ event :: later → demands event later := by
  induction events with
  | nil =>
      refine iff_of_true trivial ?_
      intro before event later shape
      simp at shape
  | cons first rest inductionHypothesis =>
      rw [Followed, inductionHypothesis]
      constructor
      · intro followed before event later shape
        rcases List.cons_eq_append_iff.1 shape with
          ⟨_, headShape⟩ | ⟨between, _, tailShape⟩
        · obtain ⟨rfl, rfl⟩ := List.cons.inj headShape
          exact followed.1
        · exact followed.2 between event later tailShape
      · intro cuts
        refine ⟨cuts [] first rest rfl, ?_⟩
        intro before event later shape
        exact cuts (first :: before) event later (by rw [shape]; rfl)

end Followed

end SparkObservability
