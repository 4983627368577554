import SparkObservability.Clock
import SparkObservability.Machine

/-!
# The greedy batcher

A batcher appends every record to its open batch.  An append closes the batch
when it is full or when enough whole seconds have passed since the last
closing; a request closes it when it is not empty.  There is no network, no
context and no failure here: this is the reference that a batching client is
compared with.
-/

namespace SparkObservability

universe u

structure Batcher (Record : Type u) where
  openBatch : List Record
  lastClosed : Int

/-- What a batcher is told, with the clock readings that go with it. -/
inductive BatcherInput (Record : Type u) where
  | append (record : Record) (now closedAt : Int)
  | close (closedAt : Int)
  | restart (time : Int)

namespace Batcher

variable {Record : Type u}

/-- The batcher with its answers, the batches that each input closes. -/
def machine (Record : Type u) (batchSize batchTime : Int) :
    Machine (Batcher Record) (BatcherInput Record) (List (List Record)) where
  step batcher
    | .append record now closedAt =>
        let batch := batcher.openBatch ++ [record]
        if batch.length ≥ batchSize ∨
            secondsBetween batcher.lastClosed now ≥ batchTime then
          (⟨[], closedAt⟩, [batch])
        else
          (⟨batch, batcher.lastClosed⟩, [])
    | .close closedAt =>
        if batcher.openBatch = [] then
          (batcher, [])
        else
          (⟨[], closedAt⟩, [batcher.openBatch])
    | .restart time => (⟨batcher.openBatch, time⟩, [])

/-- The open batch has room for one more record. -/
def HasRoom (batchSize : Int) (batcher : Batcher Record) : Prop :=
  (batcher.openBatch.length : Int) < max 1 batchSize

/-- The sizes that a closed batch can have. -/
def Sized (batchSize : Int) (batch : List Record) : Prop :=
  1 ≤ batch.length ∧ (batch.length : Int) ≤ max 1 batchSize

variable {batchSize : Int} (batchTime : Int) {batcher : Batcher Record}

/-- The condition under which an append closes the batch. -/
def Due (batchSize batchTime : Int) (batcher : Batcher Record)
    (record : Record) (now : Int) : Prop :=
  (batcher.openBatch ++ [record]).length ≥ batchSize ∨
    secondsBetween batcher.lastClosed now ≥ batchTime

theorem step_append_of_due
    {record : Record} {now : Int}
    (due : Due batchSize batchTime batcher record now) (closedAt : Int) :
    (machine Record batchSize batchTime).step batcher
        (.append record now closedAt) =
      (⟨[], closedAt⟩, [batcher.openBatch ++ [record]]) :=
  if_pos due

theorem step_append_of_not_due
    {record : Record} {now : Int}
    (notDue : ¬ Due batchSize batchTime batcher record now)
    (closedAt : Int) :
    (machine Record batchSize batchTime).step batcher
        (.append record now closedAt) =
      (⟨batcher.openBatch ++ [record], batcher.lastClosed⟩, []) :=
  if_neg notDue

theorem step_close_of_empty
    (empty : batcher.openBatch = []) (closedAt : Int) :
    (machine Record batchSize batchTime).step batcher (.close closedAt) =
      (batcher, []) :=
  if_pos empty

theorem step_close_of_nonempty
    (nonempty : batcher.openBatch ≠ []) (closedAt : Int) :
    (machine Record batchSize batchTime).step batcher (.close closedAt) =
      (⟨[], closedAt⟩, [batcher.openBatch]) :=
  if_neg nonempty

theorem hasRoom_next
    (room : batcher.HasRoom batchSize) (input : BatcherInput Record) :
    ((machine Record batchSize batchTime).next batcher input).HasRoom
      batchSize := by
  have emptyRoom (time : Int) :
      (⟨[], time⟩ : Batcher Record).HasRoom batchSize := by
    simp only [HasRoom, List.length_nil]
    omega
  cases input with
  | append record now closedAt =>
      by_cases due : Due batchSize batchTime batcher record now
      · rw [Machine.next, step_append_of_due batchTime due]
        exact emptyRoom closedAt
      · rw [Machine.next, step_append_of_not_due batchTime due]
        simp only [Due, not_or, ge_iff_le, Int.not_le] at due
        simp only [HasRoom]
        omega
  | close closedAt =>
      by_cases empty : batcher.openBatch = []
      · rw [Machine.next, step_close_of_empty batchTime empty]
        exact room
      · rw [Machine.next, step_close_of_nonempty batchTime empty]
        exact emptyRoom closedAt
  | restart time => exact room

theorem sized_of_mem_output
    (room : batcher.HasRoom batchSize) {input : BatcherInput Record}
    {batch : List Record}
    (closed :
      batch ∈ (machine Record batchSize batchTime).output batcher input) :
    Sized batchSize batch := by
  unfold HasRoom at room
  cases input with
  | append record now closedAt =>
      by_cases due : Due batchSize batchTime batcher record now
      · rw [Machine.output, step_append_of_due batchTime due] at closed
        rw [List.mem_singleton.1 closed]
        simp only [Sized, List.length_append, List.length_singleton]
        omega
      · rw [Machine.output, step_append_of_not_due batchTime due] at closed
        exact absurd closed List.not_mem_nil
  | close closedAt =>
      by_cases empty : batcher.openBatch = []
      · rw [Machine.output, step_close_of_empty batchTime empty] at closed
        exact absurd closed List.not_mem_nil
      · rw [Machine.output, step_close_of_nonempty batchTime empty] at closed
        rw [List.mem_singleton.1 closed]
        have positive := List.length_pos_iff.2 empty
        exact ⟨positive, Int.le_of_lt room⟩
  | restart time => exact absurd closed List.not_mem_nil

/-- Along every run the open batch has room and all closed batches are of the
right size. -/
theorem sized_outputs
    (room : batcher.HasRoom batchSize)
    (inputs : List (BatcherInput Record)) :
    ((machine Record batchSize batchTime).after batcher inputs).HasRoom
        batchSize ∧
      ∀ batches ∈ (machine Record batchSize batchTime).outputs batcher inputs,
        ∀ batch ∈ batches, Sized batchSize batch := by
  induction inputs generalizing batcher with
  | nil => exact ⟨room, fun batches member => absurd member List.not_mem_nil⟩
  | cons input rest inductionHypothesis =>
      have tail := inductionHypothesis (hasRoom_next batchTime room input)
      refine ⟨tail.1, ?_⟩
      intro batches member batch closed
      rcases List.mem_cons.1 member with rfl | later
      · exact sized_of_mem_output batchTime room closed
      · exact tail.2 batches later batch closed

end Batcher

end SparkObservability
