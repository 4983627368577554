import Mathlib.Data.List.Infix

/-!
# Senders that send again what was not confirmed

A sender hands over everything it holds at once and drops it when the transfer
is confirmed.  A transfer that is not confirmed may have arrived all the same,
and the sender does not know.  The module states what the receiver can rely
on: it is told every confirmed record, in order and without gaps, and what it
is told twice directly continues into what is new.
-/

namespace SparkObservability

universe u

/-- The batches tell how a text goes on from what is known: each of them
repeats a final part of what is known by then, and continues it. -/
inductive Continues {Record : Type u} :
    List Record → List (List Record) → List Record → Prop
  | nil (known : List Record) : Continues known [] known
  | cons {known repeated fresh final : List Record}
      {rest : List (List Record)}
      (overlap : repeated <:+ known)
      (continued : Continues (known ++ fresh) rest final) :
      Continues known ((repeated ++ fresh) :: rest) final

namespace Continues

variable {Record : Type u} {known middle final : List Record}
  {batches : List (List Record)}

theorem concat
    (continued : Continues known batches middle)
    {repeated : List Record} (overlap : repeated <:+ middle)
    (fresh : List Record) :
    Continues known (batches ++ [repeated ++ fresh]) (middle ++ fresh) := by
  induction continued with
  | nil => exact .cons overlap (.nil _)
  | cons earlier _ inductionHypothesis =>
      exact .cons earlier (inductionHypothesis overlap)

end Continues

/-! ## The two ends of a link -/

/-- What the sender got confirmed, what it still holds, and the batches that
arrived at the receiver. -/
structure Link (Record : Type u) where
  confirmed : List Record
  waiting : List Record
  received : List (List Record)

namespace Link

variable {Record : Type u}

def empty : Link Record := ⟨[], [], []⟩

/-- The sender takes a record, gets a transfer confirmed, or gets no
confirmation for a transfer, which may have arrived. -/
inductive Operation (Record : Type u) where
  | post (record : Record)
  | confirm
  | fail (arrives : Bool)

def apply (link : Link Record) : Operation Record → Link Record
  | .post record => { link with waiting := link.waiting ++ [record] }
  | .confirm =>
      { confirmed := link.confirmed ++ link.waiting
        waiting := []
        received := link.received ++ [link.waiting] }
  | .fail true => { link with received := link.received ++ [link.waiting] }
  | .fail false => link

/-- The receiver knows what has been confirmed and possibly some of what the
sender still holds. -/
def Told (link : Link Record) : Prop :=
  ∃ early,
    early <+: link.waiting ∧
      Continues [] link.received (link.confirmed ++ early)

theorem told_empty : (empty : Link Record).Told :=
  ⟨[], List.prefix_refl _, .nil _⟩

theorem Told.apply {link : Link Record} (told : link.Told)
    (operation : Operation Record) : (link.apply operation).Told := by
  obtain ⟨early, held, continued⟩ := told
  obtain ⟨fresh, split⟩ := held
  -- a transfer repeats what arrived early and adds what was taken since then
  have arrives :=
    continued.concat (List.suffix_append link.confirmed early) fresh
  rw [List.append_assoc, split] at arrives
  cases operation with
  | post record =>
      refine ⟨early, ?_, continued⟩
      exact ⟨fresh ++ [record], by simp [Link.apply, ← split]⟩
  | confirm =>
      refine ⟨[], List.nil_prefix, ?_⟩
      simpa [Link.apply] using arrives
  | fail arrived =>
      cases arrived with
      | true => exact ⟨link.waiting, List.prefix_refl _, arrives⟩
      | false => exact ⟨early, ⟨fresh, split⟩, continued⟩

theorem Told.applyAll {link : Link Record} (told : link.Told)
    (operations : List (Operation Record)) :
    (operations.foldl Link.apply link).Told := by
  induction operations generalizing link with
  | nil => exact told
  | cons operation rest inductionHypothesis =>
      exact inductionHypothesis (told.apply operation)

/-- Without arrivals that were not confirmed, every confirmed record has been
received exactly once. -/
def Exact (link : Link Record) : Prop :=
  link.received.flatten = link.confirmed

theorem Exact.apply {link : Link Record} (exactly : link.Exact)
    {operation : Operation Record} (known : operation ≠ .fail true) :
    (link.apply operation).Exact := by
  cases operation with
  | post record => exact exactly
  | confirm =>
      rw [Exact] at exactly
      simp [Link.apply, Exact, exactly]
  | fail arrived =>
      cases arrived with
      | true => exact absurd rfl known
      | false => exact exactly

theorem Exact.applyAll {link : Link Record} (exactly : link.Exact)
    {operations : List (Operation Record)}
    (known : ∀ operation ∈ operations, operation ≠ .fail true) :
    (operations.foldl Link.apply link).Exact := by
  induction operations generalizing link with
  | nil => exact exactly
  | cons operation rest inductionHypothesis =>
      rw [List.forall_mem_cons] at known
      exact inductionHypothesis (exactly.apply known.1) known.2

end Link

end SparkObservability
