import SparkObservability.Client.Calls
import SparkObservability.Outbox

/-!
# The client delivers every record once and in order

The client refines an outbox: `add` posts a record, an acknowledged send
hands everything over, and nothing else touches what the outbox knows.  The
ledger equation of outboxes then holds between any two calls of a run,
whatever the clock, the Spark environment and the service do.
-/

namespace SparkObservability

universe u

variable {A : Type u}

open ObservabilityClient

/-- The records passed to `add`, in order. -/
def addedRecords : List (ClientCall A) → List A
  | [] => []
  | .add _ event :: rest => event :: addedRecords rest
  | .flushEvents _ :: rest => addedRecords rest
  | .setLastFlush _ :: rest => addedRecords rest

/-- The records of the acknowledged sends of a call. -/
def Answer.delivered (answer : Answer A) : List A :=
  answer.attempts.flatMap fun attempt =>
    if attempt.failure = none then attempt.records else []

def deliveredRecords (answers : List (Answer A)) : List A :=
  answers.flatMap Answer.delivered

/-- The outbox that a client stands for once it has given these answers. -/
def outboxOf (answers : List (Answer A)) (client : ObservabilityClient A) :
    Outbox A :=
  ⟨deliveredRecords answers, client.buffer⟩

/-- What a call does to the outbox before it may flush. -/
def ClientCall.posting : ClientCall A → List (Outbox.Operation A)
  | .add _ event => [.post event]
  | .flushEvents _ => []
  | .setLastFlush _ => []

theorem addedRecords_append (first second : List (ClientCall A)) :
    addedRecords (first ++ second) =
      addedRecords first ++ addedRecords second := by
  induction first with
  | nil => rfl
  | cons call rest inductionHypothesis =>
      cases call <;> simp [addedRecords, inductionHypothesis]

theorem entry_buffer (client : ObservabilityClient A) (call : ClientCall A) :
    (call.entry client).buffer = client.buffer ++ addedRecords [call] := by
  cases call <;> simp [ClientCall.entry, setLastFlush, addedRecords]

theorem posted_posting (call : ClientCall A) :
    Outbox.posted call.posting = addedRecords [call] := by
  cases call <;> rfl

theorem deliveredRecords_concat
    (answers : List (Answer A)) (answer : Answer A) :
    deliveredRecords (answers ++ [answer]) =
      deliveredRecords answers ++ answer.delivered := by
  simp [deliveredRecords]

theorem outboxOf_entry
    (answers : List (Answer A)) (client : ObservabilityClient A)
    (call : ClientCall A) :
    outboxOf answers (call.entry client) =
      (outboxOf answers client).applyAll call.posting := by
  cases call <;> rfl

@[simp]
theorem acknowledge_buffer
    (client : ObservabilityClient A) (acknowledgedAt : Int) :
    (client.acknowledge acknowledgedAt).buffer = [] := by
  simp only [acknowledge]
  split <;> rfl

@[simp]
theorem startBackOff_buffer (client : ObservabilityClient A) :
    client.startBackOff.buffer = client.buffer :=
  rfl

section Refinement

variable [Gson A] [EventClass A]

/-- The payload depends on the client through its context only. -/
theorem payload_congr {first second : ObservabilityClient A}
    (same : SameSetup first second)
    (initialized : second.logContextInitialized = true)
    (events : List A) :
    first.payload events = second.payload events := by
  obtain ⟨sameName, sameId, sameExecutor⟩ := same.context initialized
  simp only [payload, enrichedObject, sameName, sameId, sameExecutor]

/-- One call is a posting that a hand-over may follow. -/
theorem call_refines_outbox
    (answers : List (Answer A)) (client : ObservabilityClient A)
    (call : ClientCall A) :
    ∃ operations,
      Outbox.posted operations = addedRecords [call] ∧
        outboxOf (answers ++ [(clientMachine A).output client call])
            ((clientMachine A).next client call) =
          (outboxOf answers client).applyAll operations := by
  have step := clientStep client call
  have entryBuffer := outboxOf_entry answers client call
  generalize (clientMachine A).next client call = next,
    (clientMachine A).output client call = answer
    at step ⊢
  cases step with
  | @quiet next _ kept =>
      have sameBuffer : next.buffer = (call.entry client).buffer := by
        rcases kept with rfl | ⟨env, _, rfl⟩
        · rfl
        · exact prepared_buffer env (call.entry client)
      refine ⟨call.posting, posted_posting call, ?_⟩
      rw [← entryBuffer]
      simp [outboxOf, deliveredRecords_concat, Answer.delivered, sameBuffer]
  | acknowledged _ readyShape =>
      refine ⟨call.posting ++ [.handOver], ?_, ?_⟩
      · simp [posted_posting, Outbox.posted]
      · rw [Outbox.applyAll_append, ← entryBuffer]
        simp [outboxOf, deliveredRecords_concat, Answer.delivered,
          readyShape, Outbox.applyAll, Outbox.apply]
  | absorbed _ readyShape =>
      refine ⟨call.posting, posted_posting call, ?_⟩
      rw [← entryBuffer]
      simp [outboxOf, deliveredRecords_concat, Answer.delivered, readyShape]
  | raised _ readyShape =>
      refine ⟨call.posting, posted_posting call, ?_⟩
      rw [← entryBuffer]
      simp [outboxOf, deliveredRecords_concat, Answer.delivered, readyShape]

/-- A run of the client is a run of the outbox that posts what was added. -/
theorem run_refines_outbox
    (batchSize batchTime created : Int) (calls : List (ClientCall A)) :
    ∃ operations,
      Outbox.posted operations = addedRecords calls ∧
        outboxOf
            ((clientMachine A).outputs
              (create batchSize batchTime created) calls)
            ((clientMachine A).after
              (create batchSize batchTime created) calls) =
          Outbox.empty.applyAll operations := by
  refine (clientMachine A).run_induction
    (motive := fun calls answers client =>
      ∃ operations,
        Outbox.posted operations = addedRecords calls ∧
          outboxOf answers client = Outbox.empty.applyAll operations)
    ⟨[], rfl, rfl⟩ ?_ calls
  intro calls call refined
  rcases refined with ⟨operations, postedShape, outboxShape⟩
  obtain ⟨further, furtherPosted, furtherShape⟩ :=
    call_refines_outbox
      ((clientMachine A).outputs (create batchSize batchTime created) calls)
      ((clientMachine A).after (create batchSize batchTime created) calls)
      call
  refine ⟨operations ++ further, ?_, ?_⟩
  · rw [Outbox.posted_append, postedShape, furtherPosted,
      addedRecords_append]
  · rw [furtherShape, outboxShape, Outbox.applyAll_append]

/-- The acknowledged records followed by the buffer are the added records. -/
theorem delivered_append_buffer
    (batchSize batchTime created : Int) (calls : List (ClientCall A)) :
    deliveredRecords
          ((clientMachine A).outputs
            (create batchSize batchTime created) calls) ++
        ((clientMachine A).after
          (create batchSize batchTime created) calls).buffer =
      addedRecords calls := by
  obtain ⟨operations, postedShape, outboxShape⟩ :=
    run_refines_outbox batchSize batchTime created calls
  have ledgerShape :=
    Outbox.ledger_applyAll (Outbox.empty : Outbox A) operations
  rw [← outboxShape, postedShape] at ledgerShape
  simpa [outboxOf, Outbox.ledger, Outbox.empty] using ledgerShape

/-- Every attempt of a call carries the buffer the call had built up. -/
theorem attempt_carries_buffer
    {client : ObservabilityClient A} {call : ClientCall A}
    {attempt : SendAttempt A}
    (attempted : attempt ∈ ((clientMachine A).output client call).attempts) :
    attempt.records = (call.entry client).buffer ∧
      attempt.request =
        httpRequest
          (((clientMachine A).next client call).payload attempt.records) := by
  have step := clientStep client call
  generalize (clientMachine A).next client call = next,
    (clientMachine A).output client call = answer
    at step attempted ⊢
  cases step with
  | quiet => simp at attempted
  | acknowledged _ readyShape initialized =>
      rw [List.mem_singleton.1 attempted]
      refine ⟨by simp [readyShape], ?_⟩
      rw [payload_congr (acknowledge_sameSetup _ _) initialized]
  | absorbed _ readyShape initialized =>
      rw [List.mem_singleton.1 attempted]
      refine ⟨by simp [readyShape], ?_⟩
      rw [payload_congr (startBackOff_sameSetup _) initialized]
  | raised _ readyShape =>
      rw [List.mem_singleton.1 attempted]
      exact ⟨by simp [readyShape], rfl⟩

/-- No loss, no duplication and no reordering: at every point of every run,
the acknowledged records followed by the buffer are the records added so
far, and every attempt along the run carries the whole buffer of its
moment. -/
theorem run_conserves_records
    (batchSize batchTime created : Int) (calls : List (ClientCall A)) :
    deliveredRecords
          ((clientMachine A).outputs
            (create batchSize batchTime created) calls) ++
        ((clientMachine A).after
          (create batchSize batchTime created) calls).buffer =
        addedRecords calls ∧
      ∀ before call later,
        calls = before ++ call :: later →
          ∀ attempt ∈
              ((clientMachine A).output
                ((clientMachine A).after
                  (create batchSize batchTime created) before)
                call).attempts,
            attempt.records =
                (call.entry
                  ((clientMachine A).after
                    (create batchSize batchTime created) before)).buffer ∧
              attempt.request =
                httpRequest
                  (((clientMachine A).after
                    (create batchSize batchTime created)
                    (before ++ [call])).payload attempt.records) := by
  constructor
  · exact delivered_append_buffer batchSize batchTime created calls
  · intro before call later _ attempt attempted
    rw [Machine.after_append]
    exact attempt_carries_buffer attempted

end Refinement

end SparkObservability
