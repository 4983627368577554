import Mathlib.Data.List.Forall2
import Mathlib.Data.List.Induction

/-!
# Deterministic machines with outputs

A machine reads one input at a time, moves to a new state and answers with an
output.  This module is independent of any particular program.  It provides
the runs of a machine, the induction rule for what a run keeps, the two ways
of restricting a run (by what was read before each input and by the state in
which each input arrives), and the simulation rule for two machines that run
side by side.
-/

namespace SparkObservability

universe u v w

/-- A deterministic machine that answers every input with an output. -/
structure Machine (State : Type u) (Input : Type v) (Output : Type w) where
  step : State → Input → State × Output

/-- Every input of the list is admitted by the inputs read before it, those
of `history` included. -/
def Along {Input : Type v} (admits : List Input → Input → Prop) :
    List Input → List Input → Prop
  | _, [] => True
  | history, input :: rest =>
      admits history input ∧ Along admits (history ++ [input]) rest

section Along

variable {Input : Type v} {admits : List Input → Input → Prop}

instance Along.instDecidable
    [∀ history input, Decidable (admits history input)] :
    ∀ history inputs, Decidable (Along admits history inputs)
  | _, [] => instDecidableTrue
  | history, input :: rest =>
      haveI := Along.instDecidable (history ++ [input]) rest
      inferInstanceAs (Decidable (_ ∧ _))

theorem along_append (history initial rest : List Input) :
    Along admits history (initial ++ rest) ↔
      Along admits history initial ∧
        Along admits (history ++ initial) rest := by
  induction initial generalizing history with
  | nil => simp [Along]
  | cons input initial inductionHypothesis =>
      simp [Along, inductionHypothesis, and_assoc]

/-- The recursive reading of `Along` and the reading over all ways of cutting
the list agree. -/
theorem along_iff_cut (history inputs : List Input) :
    Along admits history inputs ↔
      ∀ before input later,
        inputs = before ++ input :: later →
          admits (history ++ before) input := by
  constructor
  · intro along before input later shape
    subst shape
    exact ((along_append _ _ _).1 along).2.1
  · intro cuts
    induction inputs generalizing history with
    | nil => trivial
    | cons first rest inductionHypothesis =>
        refine ⟨by simpa using cuts [] first rest rfl, ?_⟩
        apply inductionHypothesis
        intro before input later shape
        simpa using cuts (first :: before) input later (by simp [shape])

theorem Along.mono {stronger : List Input → Input → Prop}
    (implies :
      ∀ history input, stronger history input → admits history input)
    {history inputs : List Input}
    (along : Along stronger history inputs) :
    Along admits history inputs := by
  induction inputs generalizing history with
  | nil => trivial
  | cons input rest inductionHypothesis =>
      exact ⟨implies _ _ along.1, inductionHypothesis along.2⟩

end Along

namespace Machine

variable {State : Type u} {Input : Type v} {Output : Type w}
variable (machine : Machine State Input Output)

/-- The state an input leads to. -/
def next (state : State) (input : Input) : State :=
  (machine.step state input).1

/-- The answer an input gets. -/
def output (state : State) (input : Input) : Output :=
  (machine.step state input).2

/-- The state reached once all inputs are read. -/
def after : State → List Input → State
  | state, [] => state
  | state, input :: rest => after (machine.next state input) rest

/-- The answers given to the inputs, in order. -/
def outputs : State → List Input → List Output
  | _, [] => []
  | state, input :: rest =>
      machine.output state input ::
        outputs (machine.next state input) rest

@[simp]
theorem after_nil (state : State) : machine.after state [] = state :=
  rfl

@[simp]
theorem after_cons (state : State) (input : Input) (rest : List Input) :
    machine.after state (input :: rest) =
      machine.after (machine.next state input) rest :=
  rfl

@[simp]
theorem outputs_nil (state : State) : machine.outputs state [] = [] :=
  rfl

@[simp]
theorem outputs_cons (state : State) (input : Input) (rest : List Input) :
    machine.outputs state (input :: rest) =
      machine.output state input ::
        machine.outputs (machine.next state input) rest :=
  rfl

@[simp]
theorem after_append (state : State) (initial rest : List Input) :
    machine.after state (initial ++ rest) =
      machine.after (machine.after state initial) rest := by
  induction initial generalizing state with
  | nil => rfl
  | cons input initial inductionHypothesis =>
      simp [inductionHypothesis]

@[simp]
theorem outputs_append (state : State) (initial rest : List Input) :
    machine.outputs state (initial ++ rest) =
      machine.outputs state initial ++
        machine.outputs (machine.after state initial) rest := by
  induction initial generalizing state with
  | nil => rfl
  | cons input initial inductionHypothesis =>
      simp [inductionHypothesis]

/-- A relation between what was read, what was answered and the state reached
holds along every run as soon as it holds at the start and every step that a
run can make keeps it. -/
theorem run_induction
    {motive : List Input → List Output → State → Prop} {initial : State}
    (start : motive [] [] initial)
    (stepKeeps :
      ∀ inputs input,
        motive inputs (machine.outputs initial inputs)
            (machine.after initial inputs) →
          motive (inputs ++ [input])
            (machine.outputs initial inputs ++
              [machine.output (machine.after initial inputs) input])
            (machine.next (machine.after initial inputs) input))
    (inputs : List Input) :
    motive inputs (machine.outputs initial inputs)
      (machine.after initial inputs) := by
  induction inputs using List.reverseRecOn with
  | nil => exact start
  | append_singleton inputs input inductionHypothesis =>
      simpa using stepKeeps inputs input inductionHypothesis

/-- An invariant of single steps is an invariant of runs. -/
theorem after_invariant
    {motive : State → Prop}
    (stepKeeps :
      ∀ state input, motive state → motive (machine.next state input))
    {state : State} (start : motive state) (inputs : List Input) :
    motive (machine.after state inputs) := by
  induction inputs generalizing state with
  | nil => exact start
  | cons input rest inductionHypothesis =>
      exact inductionHypothesis (stepKeeps state input start)

/-- Every input of the run arrives in a state that is fit for it. -/
def Throughout (fit : State → Input → Prop) :
    State → List Input → Prop
  | _, [] => True
  | state, input :: rest =>
      fit state input ∧ Throughout fit (machine.next state input) rest

theorem throughout_append
    {fit : State → Input → Prop} (state : State)
    (initial rest : List Input) :
    machine.Throughout fit state (initial ++ rest) ↔
      machine.Throughout fit state initial ∧
        machine.Throughout fit (machine.after state initial) rest := by
  induction initial generalizing state with
  | nil => simp [Throughout]
  | cons input initial inductionHypothesis =>
      simp [Throughout, inductionHypothesis, and_assoc]

theorem throughout_iff_cut
    {fit : State → Input → Prop} (state : State) (inputs : List Input) :
    machine.Throughout fit state inputs ↔
      ∀ before input later,
        inputs = before ++ input :: later →
          fit (machine.after state before) input := by
  constructor
  · intro throughout before input later shape
    subst shape
    exact ((machine.throughout_append state before (input :: later)).1
      throughout).2.1
  · intro cuts
    induction inputs generalizing state with
    | nil => trivial
    | cons first rest inductionHypothesis =>
        refine ⟨cuts [] first rest rfl, ?_⟩
        apply inductionHypothesis
        intro before input later shape
        exact cuts (first :: before) input later (by simp [shape])

theorem throughout_of_forall
    {fit : State → Input → Prop}
    (always : ∀ state input, fit state input)
    (state : State) (inputs : List Input) :
    machine.Throughout fit state inputs := by
  induction inputs generalizing state with
  | nil => trivial
  | cons input rest inductionHypothesis =>
      exact ⟨always state input, inductionHypothesis _⟩

section Comap

variable {Input' : Type*} (read : Input' → Input)

/-- The machine that first translates its inputs. -/
def comap : Machine State Input' Output where
  step state input := machine.step state (read input)

theorem after_comap (state : State) (inputs : List Input') :
    (machine.comap read).after state inputs =
      machine.after state (inputs.map read) := by
  induction inputs generalizing state with
  | nil => rfl
  | cons input rest inductionHypothesis =>
      exact inductionHypothesis (machine.next state (read input))

theorem outputs_comap (state : State) (inputs : List Input') :
    (machine.comap read).outputs state inputs =
      machine.outputs state (inputs.map read) := by
  induction inputs generalizing state with
  | nil => rfl
  | cons input rest inductionHypothesis =>
      exact congrArg (machine.output state (read input) :: ·)
        (inductionHypothesis (machine.next state (read input)))

end Comap

section Simulation

universe u' v' w'

variable {State' : Type u'} {Input' : Type v'} {Output' : Type w'}
variable (other : Machine State' Input' Output')

/-- Two machines that agree step by step, as long as both inputs are fit for
the states they arrive in, agree on whole runs. -/
theorem simulation
    (sameOutput : Output → Output' → Prop)
    {related : State → State' → Prop}
    {sameInput : Input → Input' → Prop}
    {fit : State → Input → Prop} {fit' : State' → Input' → Prop}
    (stepSimulates :
      ∀ state state' input input',
        related state state' → sameInput input input' →
        fit state input → fit' state' input' →
          related (machine.next state input) (other.next state' input') ∧
            sameOutput (machine.output state input)
              (other.output state' input'))
    {inputs : List Input} {inputs' : List Input'}
    (same : List.Forall₂ sameInput inputs inputs')
    {state : State} {state' : State'}
    (start : related state state')
    (fits : machine.Throughout fit state inputs)
    (fits' : other.Throughout fit' state' inputs') :
    related (machine.after state inputs) (other.after state' inputs') ∧
      List.Forall₂ sameOutput
        (machine.outputs state inputs) (other.outputs state' inputs') := by
  induction same generalizing state state' with
  | nil => exact ⟨start, List.Forall₂.nil⟩
  | cons sameHead _ inductionHypothesis =>
      have head := stepSimulates _ _ _ _ start sameHead fits.1 fits'.1
      have tail := inductionHypothesis head.1 fits.2 fits'.2
      exact ⟨tail.1, List.Forall₂.cons head.2 tail.2⟩

end Simulation

end Machine

end SparkObservability
