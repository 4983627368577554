import Mathlib.Data.List.Forall2
import SparkObservability.Effects

/-!
# Plans and how far they got

A computation works through a plan, one step after the other, and logs what
comes of each.  If it returns, every step has passed; if it raises, it has
stopped between two steps that passed or at a step that was refused, and it
has never gone on behind that step.
-/

namespace SparkObservability

universe u v w

section Logs

variable {Step : Type v} {Entry : Type w}

/-- The entries are those of a part of the plan: its first steps passed, and
one more was refused at most. -/
inductive StopsIn (passed refused : Step → Entry → Prop) :
    List Step → List Entry → Prop
  | between {done : List Step} {entries : List Entry} (rest : List Step)
      (allPassed : List.Forall₂ passed done entries) :
      StopsIn passed refused (done ++ rest) entries
  | refused {done : List Step} {entries : List Entry} {step : Step}
      {entry : Entry} (rest : List Step)
      (allPassed : List.Forall₂ passed done entries)
      (lastRefused : refused step entry) :
      StopsIn passed refused (done ++ step :: rest) (entries ++ [entry])

namespace StopsIn

variable {passed refused : Step → Entry → Prop} {plan : List Step}
  {entries : List Entry}

/-- What is planned for later makes no difference. -/
theorem append_right (stops : StopsIn passed refused plan entries)
    (later : List Step) : StopsIn passed refused (plan ++ later) entries := by
  cases stops with
  | between rest allPassed =>
      rw [List.append_assoc]
      exact .between (rest ++ later) allPassed
  | refused rest allPassed lastRefused =>
      rw [List.append_assoc, List.cons_append]
      exact .refused (rest ++ later) allPassed lastRefused

/-- What has passed before comes first. -/
theorem append_left (stops : StopsIn passed refused plan entries)
    {earlier : List Step} {earlierEntries : List Entry}
    (earlierPassed : List.Forall₂ passed earlier earlierEntries) :
    StopsIn passed refused (earlier ++ plan) (earlierEntries ++ entries) := by
  cases stops with
  | between rest allPassed =>
      rw [← List.append_assoc]
      exact .between rest (List.rel_append earlierPassed allPassed)
  | refused rest allPassed lastRefused =>
      rw [← List.append_assoc, ← List.append_assoc]
      exact .refused rest (List.rel_append earlierPassed allPassed) lastRefused

end StopsIn

end Logs

namespace Effect

variable {ε σ α β : Type u} {Step : Type v} {Entry : Type w}

/-- What the end of a computation says about the entries. -/
def EndsIn (passed refused : Step → Entry → Prop) (plan : List Step)
    (gives : α → Prop) (outcome : Except ε α) (entries : List Entry) : Prop :=
  match outcome with
  | .ok value => List.Forall₂ passed plan entries ∧ gives value
  | .error _ => StopsIn passed refused plan entries

/-- From the states of an invariant, which it keeps, the computation works
through the plan, and the values that it returns have the property. -/
def Follows (invariant : σ → Prop) (log : σ → List Entry)
    (passed refused : Step → Entry → Prop) (program : Effect ε σ α)
    (plan : List Step) (gives : α → Prop) : Prop :=
  ∀ state, invariant state →
    invariant (program.perform state).2 ∧
      ∃ entries,
        log (program.perform state).2 = log state ++ entries ∧
          EndsIn passed refused plan gives (program.perform state).1 entries

variable {invariant : σ → Prop} {log : σ → List Entry}
  {passed refused : Step → Entry → Prop}

theorem follows_pure {gives : α → Prop} {value : α} (given : gives value) :
    Follows invariant log passed refused (pure value : Effect ε σ α) []
      gives :=
  fun _ fit => ⟨fit, [], (List.append_nil _).symm, .nil, given⟩

theorem follows_throw (error : ε) (plan : List Step) (gives : α → Prop) :
    Follows invariant log passed refused (throw error : Effect ε σ α) plan
      gives :=
  fun _ fit => ⟨fit, [], (List.append_nil _).symm, .between plan .nil⟩

theorem Follows.bind {program : Effect ε σ α} {next : α → Effect ε σ β}
    {plan later : List Step} {gives : α → Prop} {givesNext : β → Prop}
    (first : Follows invariant log passed refused program plan gives)
    (rest :
      ∀ value, gives value →
        Follows invariant log passed refused (next value) later givesNext) :
    Follows invariant log passed refused (program >>= next) (plan ++ later)
      givesNext := by
  intro state fit
  obtain ⟨firstFit, firstEntries, firstLog, firstEnds⟩ := first state fit
  rcases shape : program.perform state with ⟨error | value, middle⟩
  · rw [shape] at firstFit firstLog firstEnds
    rw [perform_bind_of_error shape]
    exact ⟨firstFit, firstEntries, firstLog, firstEnds.append_right later⟩
  · rw [shape] at firstFit firstLog firstEnds
    rw [perform_bind_of_ok shape]
    obtain ⟨allPassed, given⟩ := firstEnds
    obtain ⟨restFit, restEntries, restLog, restEnds⟩ :=
      rest value given middle firstFit
    refine ⟨restFit, firstEntries ++ restEntries, ?_, ?_⟩
    · rw [restLog, firstLog, List.append_assoc]
    · rcases last : (next value).perform middle with ⟨error | result, final⟩
      · rw [last] at restEnds
        exact StopsIn.append_left restEnds allPassed
      · rw [last] at restEnds
        exact ⟨List.rel_append allPassed restEnds.1, restEnds.2⟩

/-- Where the first part has no step. -/
theorem Follows.silent_bind {program : Effect ε σ α} {next : α → Effect ε σ β}
    {later : List Step} {gives : α → Prop} {givesNext : β → Prop}
    (first : Follows invariant log passed refused program [] gives)
    (rest :
      ∀ value, gives value →
        Follows invariant log passed refused (next value) later givesNext) :
    Follows invariant log passed refused (program >>= next) later givesNext :=
  first.bind rest

/-- Where the first part has one step. -/
theorem Follows.step_bind {program : Effect ε σ α} {next : α → Effect ε σ β}
    {step : Step} {later : List Step} {gives : α → Prop}
    {givesNext : β → Prop}
    (first : Follows invariant log passed refused program [step] gives)
    (rest :
      ∀ value, gives value →
        Follows invariant log passed refused (next value) later givesNext) :
    Follows invariant log passed refused (program >>= next) (step :: later)
      givesNext :=
  first.bind rest

end Effect

end SparkObservability
