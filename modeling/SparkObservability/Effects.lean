/-!
# Computations that change a state and may raise

What a computation has changed before it raises stays changed.  The rules
below say how a composed computation ends, when it returns, and which
relations between the states before and after it are kept by all its parts.
-/

namespace SparkObservability

universe u

/-- A computation on a state that returns a value or raises. -/
abbrev Effect (ε σ α : Type u) : Type u :=
  ExceptT ε (StateM σ) α

namespace Effect

variable {ε σ α β : Type u}

/-- How the computation ends when it is started in the given state. -/
def perform (program : Effect ε σ α) (state : σ) : Except ε α × σ :=
  StateT.run (ExceptT.run program) state

/-! ## How computations end -/

@[simp]
theorem perform_pure (value : α) (state : σ) :
    (pure value : Effect ε σ α).perform state = (.ok value, state) :=
  rfl

@[simp]
theorem perform_throw (error : ε) (state : σ) :
    (throw error : Effect ε σ α).perform state = (.error error, state) :=
  rfl

@[simp]
theorem perform_get (state : σ) :
    (get : Effect ε σ σ).perform state = (.ok state, state) :=
  rfl

@[simp]
theorem perform_set (newState state : σ) :
    (set newState : Effect ε σ PUnit).perform state = (.ok ⟨⟩, newState) :=
  rfl

section Bind

variable {program : Effect ε σ α} {next : α → Effect ε σ β}
  {state middle final : σ}

theorem perform_bind (program : Effect ε σ α) (next : α → Effect ε σ β)
    (state : σ) :
    (program >>= next).perform state =
      match program.perform state with
      | (.ok value, middle) => (next value).perform middle
      | (.error error, middle) => (.error error, middle) := by
  change StateT.run (ExceptT.run program >>= ExceptT.bindCont next) state = _
  rw [StateT.run_bind]
  change ExceptT.bindCont next (program.perform state).1
    (program.perform state).2 = _
  rcases program.perform state with ⟨_ | _, _⟩ <;> rfl

theorem perform_bind_of_ok
    {value : α} (first : program.perform state = (.ok value, middle)) :
    (program >>= next).perform state = (next value).perform middle := by
  rw [perform_bind, first]

theorem perform_bind_of_error
    {error : ε} (first : program.perform state = (.error error, middle)) :
    (program >>= next).perform state = (.error error, middle) := by
  rw [perform_bind, first]

/-- A sequence returns when both parts return. -/
theorem perform_bind_eq_ok_iff {value : β} :
    (program >>= next).perform state = (.ok value, final) ↔
      ∃ first middle,
        program.perform state = (.ok first, middle) ∧
          (next first).perform middle = (.ok value, final) := by
  constructor
  · intro returns
    rw [perform_bind] at returns
    rcases shape : program.perform state with ⟨error | first, middle⟩
    · rw [shape] at returns
      cases returns
    · rw [shape] at returns
      exact ⟨first, middle, rfl, returns⟩
  · rintro ⟨first, middle, firstReturns, restReturns⟩
    rw [perform_bind_of_ok firstReturns, restReturns]

end Bind

theorem perform_tryCatch
    (program : Effect ε σ α) (handler : ε → Effect ε σ α) (state : σ) :
    (tryCatch program handler).perform state =
      match program.perform state with
      | (.ok value, middle) => (.ok value, middle)
      | (.error error, middle) => (handler error).perform middle := by
  change
    StateT.run
        (ExceptT.run program >>= fun result =>
          match result with
          | .ok value => pure (.ok value)
          | .error error => ExceptT.run (handler error)) state =
      _
  rw [StateT.run_bind]
  change
    StateT.run
        (match (program.perform state).1 with
        | .ok value => pure (.ok value)
        | .error error => ExceptT.run (handler error))
        (program.perform state).2 =
      _
  rcases program.perform state with ⟨_ | _, _⟩ <;> rfl

/-! ## Relations that a computation keeps -/

/-- However the computation ends, the states before and after it are
related. -/
def Keeps (related : σ → σ → Prop) (program : Effect ε σ α) : Prop :=
  ∀ state, related state (program.perform state).2

section Keeps

variable {related : σ → σ → Prop}

variable (reflexive : ∀ state, related state state)

include reflexive in
theorem keeps_pure (value : α) :
    Keeps related (pure value : Effect ε σ α) :=
  fun state => reflexive state

include reflexive in
theorem keeps_throw (error : ε) :
    Keeps related (throw error : Effect ε σ α) :=
  fun state => reflexive state

variable (transitive :
  ∀ state middle final,
    related state middle → related middle final → related state final)

include transitive in
theorem Keeps.bind
    {program : Effect ε σ α} {next : α → Effect ε σ β}
    (first : Keeps related program)
    (rest : ∀ value, Keeps related (next value)) :
    Keeps related (program >>= next) := by
  intro state
  have firstStep := first state
  rcases shape : program.perform state with ⟨error | value, middle⟩
  · rw [shape] at firstStep
    rw [perform_bind_of_error shape]
    exact firstStep
  · rw [shape] at firstStep
    rw [perform_bind_of_ok shape]
    exact transitive _ _ _ firstStep (rest value middle)

include transitive in
theorem Keeps.tryCatch
    {program : Effect ε σ α} {handler : ε → Effect ε σ α}
    (first : Keeps related program)
    (rest : ∀ error, Keeps related (handler error)) :
    Keeps related (tryCatch program handler) := by
  intro state
  have firstStep := first state
  rw [perform_tryCatch]
  rcases shape : program.perform state with ⟨error | value, middle⟩
  · rw [shape] at firstStep
    exact transitive _ _ _ firstStep (rest error middle)
  · rw [shape] at firstStep
    exact firstStep

end Keeps

/-! ## States that look the same -/

/-- From states that look the same the computation ends in the same way, and
in states that look the same. -/
def Indistinct (alike : σ → σ → Prop) (program : Effect ε σ α) : Prop :=
  ∀ state other, alike state other →
    (program.perform state).1 = (program.perform other).1 ∧
      alike (program.perform state).2 (program.perform other).2

section Indistinct

variable {alike : σ → σ → Prop}

theorem indistinct_pure (value : α) :
    Indistinct alike (pure value : Effect ε σ α) :=
  fun _ _ same => ⟨rfl, same⟩

theorem indistinct_throw (error : ε) :
    Indistinct alike (throw error : Effect ε σ α) :=
  fun _ _ same => ⟨rfl, same⟩

theorem Indistinct.bind
    {program : Effect ε σ α} {next : α → Effect ε σ β}
    (first : Indistinct alike program)
    (rest : ∀ value, Indistinct alike (next value)) :
    Indistinct alike (program >>= next) := by
  intro state other same
  obtain ⟨sameEnd, sameMiddle⟩ := first state other same
  rw [perform_bind, perform_bind]
  rcases shape : program.perform state with ⟨result, middle⟩
  rcases otherShape : program.perform other with ⟨otherResult, otherMiddle⟩
  rw [shape, otherShape] at sameEnd sameMiddle
  dsimp only at sameEnd sameMiddle
  subst sameEnd
  cases result with
  | error error => exact ⟨rfl, sameMiddle⟩
  | ok value => exact rest value _ _ sameMiddle

theorem Indistinct.tryCatch
    {program : Effect ε σ α} {handler : ε → Effect ε σ α}
    (first : Indistinct alike program)
    (rest : ∀ error, Indistinct alike (handler error)) :
    Indistinct alike (tryCatch program handler) := by
  intro state other same
  obtain ⟨sameEnd, sameMiddle⟩ := first state other same
  rw [perform_tryCatch, perform_tryCatch]
  rcases shape : program.perform state with ⟨result, middle⟩
  rcases otherShape : program.perform other with ⟨otherResult, otherMiddle⟩
  rw [shape, otherShape] at sameEnd sameMiddle
  dsimp only at sameEnd sameMiddle
  subst sameEnd
  cases result with
  | error error => exact rest error _ _ sameMiddle
  | ok value => exact ⟨rfl, sameMiddle⟩

end Indistinct

/-! ## What holds after a return -/

/-- Where the computation returns, it does so in a state with the property. -/
def Establishes (property : σ → Prop) (program : Effect ε σ α) : Prop :=
  ∀ state value final,
    program.perform state = (.ok value, final) → property final

/-- The last part of a sequence decides. -/
theorem establishes_bind
    {property : σ → Prop} {program : Effect ε σ α} {next : α → Effect ε σ β}
    (rest : ∀ value, Establishes property (next value)) :
    Establishes property (program >>= next) := by
  intro state value final returns
  obtain ⟨first, middle, _, restReturns⟩ := perform_bind_eq_ok_iff.1 returns
  exact rest first middle value final restReturns

/-! ## Conditions for returning -/

/-- From the states of an invariant, the computation returns exactly where the
condition holds, and then with this value and in this state. -/
structure ReturnsWhen
    (invariant : σ → Prop) (program : Effect ε σ α)
    (condition : σ → Prop) (value : σ → α) (next : σ → σ) : Prop where
  returns_iff :
    ∀ state, invariant state →
      ∀ result final,
        program.perform state = (.ok result, final) ↔
          condition state ∧ value state = result ∧ next state = final
  invariant_next : ∀ state, invariant state → invariant (next state)

namespace ReturnsWhen

variable {invariant condition : σ → Prop} {value : σ → α} {next : σ → σ}
  {program : Effect ε σ α}

theorem returns
    (returnsWhen : ReturnsWhen invariant program condition value next)
    {state : σ} (fit : invariant state) (holds : condition state) :
    program.perform state = (.ok (value state), next state) :=
  (returnsWhen.returns_iff state fit _ _).2 ⟨holds, rfl, rfl⟩

/-- A sequence returns where its first part returns and leads to where the
second part does. -/
theorem bind
    {rest : α → Effect ε σ β} (restCondition : α → σ → Prop)
    (restValue : α → σ → β) (restNext : α → σ → σ)
    (first : ReturnsWhen invariant program condition value next)
    (second :
      ∀ state, invariant state →
        ReturnsWhen invariant (rest (value state))
          (restCondition (value state)) (restValue (value state))
          (restNext (value state))) :
    ReturnsWhen invariant (program >>= rest)
      (fun state =>
        condition state ∧ restCondition (value state) (next state))
      (fun state => restValue (value state) (next state))
      (fun state => restNext (value state) (next state)) where
  returns_iff state fit result final := by
    rw [perform_bind_eq_ok_iff]
    constructor
    · rintro ⟨middleValue, middle, firstReturns, restReturns⟩
      obtain ⟨holds, rfl, rfl⟩ :=
        (first.returns_iff state fit _ _).1 firstReturns
      obtain ⟨restHolds, sameResult, sameFinal⟩ :=
        ((second state fit).returns_iff _ (first.invariant_next state fit)
          _ _).1 restReturns
      exact ⟨⟨holds, restHolds⟩, sameResult, sameFinal⟩
    · rintro ⟨⟨holds, restHolds⟩, sameResult, sameFinal⟩
      refine ⟨_, _, first.returns fit holds, ?_⟩
      exact
        ((second state fit).returns_iff _ (first.invariant_next state fit)
          _ _).2 ⟨restHolds, sameResult, sameFinal⟩
  invariant_next state fit :=
    (second state fit).invariant_next _ (first.invariant_next state fit)

/-- Where the first part has no value to hand on. -/
theorem seq
    {action : Effect ε σ PUnit} {rest : Effect ε σ β}
    {restCondition : σ → Prop} {restValue : σ → β} {restNext : σ → σ}
    (first : ReturnsWhen invariant action condition (fun _ => ⟨⟩) next)
    (second : ReturnsWhen invariant rest restCondition restValue restNext) :
    ReturnsWhen invariant (action >>= fun _ => rest)
      (fun state => condition state ∧ restCondition (next state))
      (fun state => restValue (next state))
      (fun state => restNext (next state)) :=
  first.bind (fun _ => restCondition) (fun _ => restValue)
    (fun _ => restNext) fun _ _ => second

/-- The condition in other words. -/
theorem congr
    {other : σ → Prop}
    (returnsWhen : ReturnsWhen invariant program condition value next)
    (same : ∀ state, invariant state → (condition state ↔ other state)) :
    ReturnsWhen invariant program other value next where
  returns_iff state fit result final := by
    rw [← same state fit]
    exact returnsWhen.returns_iff state fit result final
  invariant_next := returnsWhen.invariant_next

end ReturnsWhen

end Effect

end SparkObservability
