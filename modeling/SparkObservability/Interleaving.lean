import Mathlib.Logic.Function.Basic
import SparkObservability.Machine

/-!
# Machines that take turns

A system reads one sequence of inputs, and a part of it reads only some of
them.  Where the inputs that the part does not read leave it alone, the part
runs as if it were alone, whatever the order is in which the inputs come.  The
rule is stated once for any system and any part, and is then used for copies
of one machine that run side by side and for two machines that work on one
state.
-/

namespace SparkObservability

universe u v w u' v' w' x

namespace Machine

/-! ## A part of a system -/

section Parts

variable {State : Type u} {Input : Type v} {Output : Type w}
variable {State' : Type u'} {Input' : Type v'} {Output' : Type w'}

/-- The part sees some of the inputs of the system and gives some of its
answers; `same` relates the states of the system to those of the part. -/
structure IsPart
    (system : Machine State Input Output) (part : Machine State' Input' Output')
    (sees : Input → Option Input') (gives : Output → Option Output')
    (same : State → State' → Prop) : Prop where
  seen :
    ∀ state state' input input',
      same state state' → sees input = some input' →
        same (system.next state input) (part.next state' input') ∧
          gives (system.output state input) =
            some (part.output state' input')
  unseen :
    ∀ state state' input,
      same state state' → sees input = none →
        same (system.next state input) state' ∧
          gives (system.output state input) = none

variable {system : Machine State Input Output}
  {part : Machine State' Input' Output'} {sees : Input → Option Input'}
  {gives : Output → Option Output'} {same : State → State' → Prop}

/-- In every run of the system the part runs as if it were alone. -/
theorem IsPart.run
    (isPart : IsPart system part sees gives same)
    {state : State} {state' : State'} (start : same state state')
    (inputs : List Input) :
    same (system.after state inputs)
        (part.after state' (inputs.filterMap sees)) ∧
      (system.outputs state inputs).filterMap gives =
        part.outputs state' (inputs.filterMap sees) := by
  induction inputs generalizing state state' with
  | nil => exact ⟨start, rfl⟩
  | cons input rest inductionHypothesis =>
      rw [after_cons, outputs_cons]
      cases visible : sees input with
      | none =>
          obtain ⟨sameNext, silent⟩ := isPart.unseen _ _ _ start visible
          rw [List.filterMap_cons_none visible,
            List.filterMap_cons_none silent]
          exact inductionHypothesis sameNext
      | some input' =>
          obtain ⟨sameNext, answered⟩ := isPart.seen _ _ _ _ start visible
          have tail := inductionHypothesis sameNext
          rw [List.filterMap_cons_some visible,
            List.filterMap_cons_some answered, after_cons, outputs_cons,
            tail.2]
          exact ⟨tail.1, rfl⟩

end Parts

/-! ## Copies of one machine -/

section Family

variable {State : Type u} {Input : Type v} {Output : Type w}
variable (machine : Machine State Input Output)
variable {Member : Type x} [DecidableEq Member]

variable (Member) in
/-- An input is read by one member, which answers it. -/
def family : Machine (Member → State) (Member × Input) (Member × Output) where
  step states input :=
    let (next, output) := machine.step (states input.1) input.2
    (Function.update states input.1 next, (input.1, output))

/-- What concerns one member. -/
def ofMember {Item : Type*} (member : Member) (item : Member × Item) :
    Option Item :=
  if item.1 = member then some item.2 else none

theorem isPart_family (member : Member) :
    IsPart (machine.family Member) machine (ofMember member)
      (ofMember member) (fun states state => states member = state) where
  seen states state input input' sameState visible := by
    rcases input with ⟨other, input⟩
    by_cases same : other = member
    · subst same
      simp only [ofMember, if_true, Option.some.injEq] at visible
      subst visible sameState
      simp [family, next, output, ofMember]
    · simp [ofMember, same] at visible
  unseen states state input sameState hidden := by
    rcases input with ⟨other, input⟩
    by_cases same : other = member
    · simp [ofMember, same] at hidden
    · have untouched (changed : State) :
          Function.update states other changed member = states member :=
        Function.update_of_ne (Ne.symm same) _ _
      simp [family, next, output, ofMember, same, untouched, sameState]

end Family

/-! ## Two machines on one state -/

section Pair

variable {State : Type u} {Input : Type v} {Output : Type w}
variable {Input' : Type v'} {Output' : Type w'}

/-- Every input is read by one of the two machines. -/
def pair
    (first : Machine State Input Output)
    (second : Machine State Input' Output') :
    Machine State (Input ⊕ Input') (Output ⊕ Output') where
  step state
    | .inl input =>
        let (next, output) := first.step state input
        (next, .inl output)
    | .inr input =>
        let (next, output) := second.step state input
        (next, .inr output)

variable {first : Machine State Input Output}
  {second : Machine State Input' Output'} {same : State → State → Prop}

/-- The first machine does the same in states that look the same to it, and
no step of the second one shows in how a state looks. -/
theorem isPart_pair_left
    (sameStep :
      ∀ state state' input,
        same state state' →
          same (first.next state input) (first.next state' input) ∧
            first.output state input = first.output state' input)
    (unnoticed :
      ∀ state state' input,
        same state state' → same (second.next state input) state') :
    IsPart (first.pair second) first Sum.getLeft? Sum.getLeft? same where
  seen state state' input input' sameState visible := by
    cases input with
    | inl input =>
        cases visible
        obtain ⟨sameNext, sameOutput⟩ := sameStep _ _ input' sameState
        exact ⟨sameNext, congrArg some sameOutput⟩
    | inr input => cases visible
  unseen state state' input sameState hidden := by
    cases input with
    | inl input => cases hidden
    | inr input => exact ⟨unnoticed _ _ _ sameState, rfl⟩

/-- And the other way round. -/
theorem isPart_pair_right
    (sameStep :
      ∀ state state' input,
        same state state' →
          same (second.next state input) (second.next state' input) ∧
            second.output state input = second.output state' input)
    (unnoticed :
      ∀ state state' input,
        same state state' → same (first.next state input) state') :
    IsPart (first.pair second) second Sum.getRight? Sum.getRight? same where
  seen state state' input input' sameState visible := by
    cases input with
    | inl input => cases visible
    | inr input =>
        cases visible
        obtain ⟨sameNext, sameOutput⟩ := sameStep _ _ input' sameState
        exact ⟨sameNext, congrArg some sameOutput⟩
  unseen state state' input sameState hidden := by
    cases input with
    | inl input => exact ⟨unnoticed _ _ _ sameState, rfl⟩
    | inr input => cases hidden

end Pair

end Machine

end SparkObservability
