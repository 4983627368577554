import Mathlib.Data.List.Basic

/-!
# Outboxes

An outbox takes records one at a time and hands everything it holds over at
once.  This is the abstract purpose of a buffering client.  The module knows
nothing about when or why a hand-over happens; it states the ledger equation
that every sequence of operations keeps.
-/

namespace SparkObservability

universe u

/-- What has been handed over, in order, and what still waits. -/
structure Outbox (Record : Type u) where
  delivered : List Record
  pending : List Record
  deriving DecidableEq, Repr

namespace Outbox

variable {Record : Type u}

def empty : Outbox Record := ⟨[], []⟩

/-- The two things that can happen to an outbox. -/
inductive Operation (Record : Type u) where
  | post (record : Record)
  | handOver

def apply (outbox : Outbox Record) : Operation Record → Outbox Record
  | .post record =>
      { outbox with pending := outbox.pending ++ [record] }
  | .handOver =>
      { delivered := outbox.delivered ++ outbox.pending, pending := [] }

def applyAll (outbox : Outbox Record)
    (operations : List (Operation Record)) : Outbox Record :=
  operations.foldl apply outbox

/-- The records a sequence of operations posts, in order. -/
def posted : List (Operation Record) → List Record
  | [] => []
  | .post record :: rest => record :: posted rest
  | .handOver :: rest => posted rest

/-- All the records an outbox knows about, the delivered ones first. -/
def ledger (outbox : Outbox Record) : List Record :=
  outbox.delivered ++ outbox.pending

@[simp]
theorem posted_append (first second : List (Operation Record)) :
    posted (first ++ second) = posted first ++ posted second := by
  induction first with
  | nil => rfl
  | cons operation rest inductionHypothesis =>
      cases operation <;> simp [posted, inductionHypothesis]

/-- Operations move records forward and never lose, repeat or reorder one. -/
theorem ledger_applyAll
    (outbox : Outbox Record) (operations : List (Operation Record)) :
    (outbox.applyAll operations).ledger =
      outbox.ledger ++ posted operations := by
  induction operations generalizing outbox with
  | nil => simp [applyAll, posted]
  | cons operation rest inductionHypothesis =>
      have tail := inductionHypothesis (outbox.apply operation)
      rw [applyAll, List.foldl_cons]
      rw [applyAll] at tail
      rw [tail]
      cases operation <;> simp [apply, ledger, posted]

theorem applyAll_append
    (outbox : Outbox Record) (first second : List (Operation Record)) :
    outbox.applyAll (first ++ second) =
      (outbox.applyAll first).applyAll second :=
  List.foldl_append

end Outbox

end SparkObservability
