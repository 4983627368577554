import SparkObservability.Client.BackOff
import SparkObservability.Client.Batching
import SparkObservability.RetryingBatcher

/-!
# The client refines the retrying batcher

Every run of the client, with any failures, any clocks and any context, is a
run of the abstract retrying batcher.  The three retry fields become one
number, the three context fields one gate, and the 32-bit arithmetic of the
elapsed time stays inside the policy.
-/

namespace SparkObservability

universe u

variable {A : Type u}

open ObservabilityClient

/-- The wait added to the batch time after a number of absorbed failures. -/
def clientPause : Nat → Int
  | 0 => 0
  | failures + 1 => RetryCycle.wait 5 60 (failures + 1)

def clientPolicy (batchSize batchTime : Int) : RetryPolicy where
  batchSize := batchSize
  budget := 5
  late failures since now :=
    decide
      (batchTime ≤ toInt (secondsBetween since now - clientPause failures))

/-- How the outcome of the HTTP call settles a batch. -/
def Environment.handOver (env : Environment) : HandOver :=
  match sendContent env.http with
  | .ok () => .accepted env.acknowledgedAt
  | .error exception =>
      if exception.isRetryable then .refused else .denied

/-- What the retrying batcher is told about a call. -/
def ClientCall.retryingInput : ClientCall A → RetryingInput A
  | .add env event =>
      .append event env.now (decide env.ContextAvailable) env.handOver
  | .flushEvents env => .close (decide env.ContextAvailable) env.handOver
  | .setLastFlush time => .restart time

/-- What the retrying batcher shows of an answer. -/
def Answer.retryingOutput (answer : Answer A) : RetryingOutput A where
  sent := answer.payloads
  givesUp := answer.raised.isSome

theorem initLogContext_initialized_iff
    (env : Environment) (client : ObservabilityClient A) :
    (client.initLogContext (env.sparkEnv 0)).logContextInitialized = true ↔
      env.ContextAvailable := by
  simp [logContextInitialized, initLogContext, Environment.ContextAvailable,
    and_assoc]

/-- The gate of the context opens once and stays open. -/
theorem prepared_isOpen (env : Environment) (client : ObservabilityClient A) :
    (client.prepared env).logContextInitialized =
      (client.logContextInitialized || decide env.ContextAvailable) := by
  cases initialized : client.logContextInitialized with
  | true =>
      rw [prepared_of_initialized env client initialized, initialized]
      rfl
  | false =>
      rw [prepared, initialized, if_neg Bool.false_ne_true, Bool.false_or,
        Bool.eq_iff_iff, decide_eq_true_eq]
      exact initLogContext_initialized_iff env client

/-- The client is in the state of the batcher. -/
structure Refines (batchSize batchTime : Int)
    (client : ObservabilityClient A) (batcher : RetryingBatcher A) :
    Prop where
  batchSize : client.batchSize = batchSize
  batchTime : client.batchTime = batchTime
  buffer : client.buffer = batcher.waiting
  lastFlush : client.lastFlush = batcher.since
  retry : RetryState batcher.failures client
  isOpen : client.logContextInitialized = batcher.isOpen

theorem refines_create (batchSize batchTime created : Int) :
    Refines batchSize batchTime
      (create batchSize batchTime created : ObservabilityClient A)
      ⟨[], plusSeconds created 10, 0, false⟩ :=
  ⟨rfl, rfl, rfl, rfl, retryState_create _ _ _, rfl⟩

namespace Refines

variable {batchSize batchTime : Int} {client : ObservabilityClient A}
  {batcher : RetryingBatcher A}

theorem push (refines : Refines batchSize batchTime client batcher)
    (event : A) :
    Refines batchSize batchTime (client.push event)
      (batcher.append event) where
  batchSize := refines.batchSize
  batchTime := refines.batchTime
  buffer := by
    rw [push_buffer, refines.buffer]
    rfl
  lastFlush := refines.lastFlush
  retry :=
    ⟨refines.retry.bounded, refines.retry.retries,
      refines.retry.isBackingOff, refines.retry.backOff⟩
  isOpen := refines.isOpen

theorem prepared (refines : Refines batchSize batchTime client batcher)
    (env : Environment) :
    Refines batchSize batchTime (client.prepared env)
      (batcher.unlock (decide env.ContextAvailable)) := by
  have same := prepared_sameDelivery env client
  exact
    { batchSize := (prepared_batchSize env client).trans refines.batchSize
      batchTime := (prepared_batchTime env client).trans refines.batchTime
      buffer := same.buffer.trans refines.buffer
      lastFlush := same.lastFlush.trans refines.lastFlush
      retry := refines.retry.congr same
      isOpen := by
        rw [prepared_isOpen, refines.isOpen]
        rfl }

theorem acknowledge (refines : Refines batchSize batchTime client batcher)
    (acknowledgedAt : Int) :
    Refines batchSize batchTime (client.acknowledge acknowledgedAt)
      ⟨[], acknowledgedAt, 0, batcher.isOpen⟩ := by
  have same := acknowledge_sameSetup client acknowledgedAt
  have emptied :
      (client.acknowledge acknowledgedAt).buffer = [] ∧
        (client.acknowledge acknowledgedAt).lastFlush = acknowledgedAt ∧
        (client.acknowledge acknowledgedAt).logContextInitialized =
          client.logContextInitialized := by
    simp only [ObservabilityClient.acknowledge]
    split <;> exact ⟨rfl, rfl, rfl⟩
  exact
    { batchSize := same.batchSize.trans refines.batchSize
      batchTime := same.batchTime.trans refines.batchTime
      buffer := emptied.1
      lastFlush := emptied.2.1
      retry := retryState_acknowledge refines.retry acknowledgedAt
      isOpen := emptied.2.2.trans refines.isOpen }

theorem startBackOff (refines : Refines batchSize batchTime client batcher)
    (below : batcher.failures < 5) :
    Refines batchSize batchTime client.startBackOff
      { batcher with failures := batcher.failures + 1 } where
  batchSize := refines.batchSize
  batchTime := refines.batchTime
  buffer := refines.buffer
  lastFlush := refines.lastFlush
  retry :=
    retryState_startBackOff refines.retry <| by
      have retries := refines.retry.retries
      omega
  isOpen := refines.isOpen

/-- A wrapped elapsed time less a back-off is the policy's reading. -/
theorem durationSinceLastFlush_eq
    (refines : Refines batchSize batchTime client batcher) (now : Int) :
    client.durationSinceLastFlush now =
      toInt
        (secondsBetween batcher.since now - clientPause batcher.failures) := by
  have retry := refines.retry
  unfold durationSinceLastFlush
  cases failures : batcher.failures with
  | zero =>
      rw [failures] at retry
      have notBackingOff : client.isBackingOff = false := by
        simpa using mt retry.isBackingOff.1 (Nat.lt_irrefl 0)
      rw [notBackingOff, refines.lastFlush]
      simp [clientPause]
  | succ more =>
      rw [failures] at retry
      have backingOff := retry.isBackingOff.2 (Nat.succ_pos more)
      rw [if_pos backingOff, toInt_toInt_sub, retry.backOff,
        refines.lastFlush]
      rfl

/-- The flush condition of `add` is the policy's. -/
theorem flushDue_iff (refines : Refines batchSize batchTime client batcher)
    (now : Int) :
    client.FlushDue now ↔
      batcher.Due (clientPolicy batchSize batchTime) now := by
  have noCycle : client.isBackingOff = false ↔ batcher.failures = 0 := by
    have cycle := refines.retry.isBackingOff
    rw [Bool.eq_false_iff, ne_eq, cycle]
    omega
  simp only [FlushDue, RetryingBatcher.Due, clientPolicy,
    refines.durationSinceLastFlush_eq, noCycle, refines.batchSize,
    refines.batchTime, refines.buffer, ge_iff_le, decide_eq_true_eq]

/-- Sending the buffer settles the batch. -/
theorem sendBuffer (refines : Refines batchSize batchTime client batcher)
    (env : Environment) (content : String) :
    Refines batchSize batchTime (client.sendBuffer env content).1
        (batcher.settle (clientPolicy batchSize batchTime) env.handOver).1 ∧
      (client.sendBuffer env content).2.retryingOutput =
        (batcher.settle (clientPolicy batchSize batchTime)
          env.handOver).2 := by
  have payloads (failure : Option ClientException)
      (raised : Option ClientException) :
      (⟨[⟨client.buffer, httpRequest content, failure⟩], raised⟩ :
          Answer A).retryingOutput =
        ⟨[batcher.waiting], raised.isSome⟩ := by
    simp [Answer.retryingOutput, Answer.payloads, refines.buffer]
  unfold ObservabilityClient.sendBuffer Environment.handOver
  cases sent : sendContent env.http with
  | ok _ => exact ⟨refines.acknowledge env.acknowledgedAt, payloads _ _⟩
  | error exception =>
      have retries := refines.retry.retries
      cases retryable : exception.isRetryable with
      | false =>
          simp only [retryable, Bool.false_and, if_neg Bool.false_ne_true]
          exact ⟨refines, payloads _ _⟩
      | true =>
          rcases Nat.lt_or_ge batcher.failures 5 with below | spent
          · have retriesLeft : client.retries > 0 := by omega
            simp only [retryable, retriesLeft, decide_true, Bool.and_self,
              if_pos]
            rw [RetryingBatcher.settle_refused_of_lt batcher below]
            exact ⟨refines.startBackOff below, payloads _ _⟩
          · have noRetries : ¬ client.retries > 0 := by omega
            simp only [retryable, noRetries, decide_false, Bool.and_false,
              if_neg Bool.false_ne_true, if_pos]
            rw [RetryingBatcher.settle_refused_of_le batcher spent]
            exact ⟨refines, payloads _ _⟩

variable [Gson A] [EventClass A]

/-- Flushing the buffer attempts a hand-over. -/
theorem flushEvents (refines : Refines batchSize batchTime client batcher)
    (env : Environment) :
    Refines batchSize batchTime (client.flushEvents env).1
        (batcher.attempt (clientPolicy batchSize batchTime)
          (decide env.ContextAvailable) env.handOver).1 ∧
      (client.flushEvents env).2.retryingOutput =
        (batcher.attempt (clientPolicy batchSize batchTime)
          (decide env.ContextAvailable) env.handOver).2 := by
  have ready := refines.prepared env
  rw [flushEvents_eq, RetryingBatcher.attempt, refines.buffer]
  by_cases empty : batcher.waiting = []
  · rw [if_pos empty, if_pos empty]
    exact ⟨refines, rfl⟩
  · rw [if_neg empty, if_neg empty, ready.isOpen]
    split
    · exact ready.sendBuffer env _
    · exact ⟨ready, rfl⟩

/-- Every call of the client is one input of the batcher. -/
theorem next (refines : Refines batchSize batchTime client batcher)
    (call : ClientCall A) :
    let abstract :=
      RetryingBatcher.machine A (clientPolicy batchSize batchTime)
    Refines batchSize batchTime ((clientMachine A).next client call)
        (abstract.next batcher call.retryingInput) ∧
      ((clientMachine A).output client call).retryingOutput =
        abstract.output batcher call.retryingInput := by
  cases call with
  | setLastFlush time =>
      exact ⟨⟨refines.batchSize, refines.batchTime, refines.buffer, rfl,
        ⟨refines.retry.bounded, refines.retry.retries,
          refines.retry.isBackingOff, refines.retry.backOff⟩,
        refines.isOpen⟩, rfl⟩
  | flushEvents env => exact refines.flushEvents env
  | add env event =>
      have pushed := refines.push event
      have sameDue := pushed.flushDue_iff env.now
      simp only [Machine.next, Machine.output, clientMachine,
        RetryingBatcher.machine, ClientCall.retryingInput, add_eq]
      by_cases due : (client.push event).FlushDue env.now
      · rw [if_pos due, if_pos (sameDue.1 due)]
        exact pushed.flushEvents env
      · rw [if_neg due, if_neg (mt sameDue.2 due)]
        exact ⟨pushed, rfl⟩

theorem run (refines : Refines batchSize batchTime client batcher)
    (calls : List (ClientCall A)) :
    let abstract :=
      RetryingBatcher.machine A (clientPolicy batchSize batchTime)
    Refines batchSize batchTime ((clientMachine A).after client calls)
        (abstract.after batcher (calls.map ClientCall.retryingInput)) ∧
      ((clientMachine A).outputs client calls).map Answer.retryingOutput =
        abstract.outputs batcher (calls.map ClientCall.retryingInput) := by
  intro abstract
  have sameInputs :
      List.Forall₂ (fun call input => input = ClientCall.retryingInput call)
        calls (calls.map ClientCall.retryingInput) := by
    rw [List.forall₂_map_right_iff, List.forall₂_same]
    intro call _
    rfl
  have stepSimulates :
      ∀ (client : ObservabilityClient A) (batcher : RetryingBatcher A)
          (call : ClientCall A) (input : RetryingInput A),
        Refines batchSize batchTime client batcher →
        input = call.retryingInput → True → True →
          Refines batchSize batchTime ((clientMachine A).next client call)
              (abstract.next batcher input) ∧
            ((clientMachine A).output client call).retryingOutput =
              abstract.output batcher input := by
    intro client batcher call input related same _ _
    subst same
    exact related.next call
  have simulated :=
    Machine.simulation _ _
      (fun (answer : Answer A) output => answer.retryingOutput = output)
      stepSimulates sameInputs refines
      (Machine.throughout_of_forall _ (fun _ _ => trivial) _ _)
      (Machine.throughout_of_forall _ (fun _ _ => trivial) _ _)
  refine ⟨simulated.1, ?_⟩
  have sameOutputs := simulated.2
  rwa [← List.forall₂_map_left_iff, List.forall₂_eq_eq_eq] at sameOutputs

end Refines

section Runs

variable [Gson A] [EventClass A]

/-- The client is a retrying batcher: whatever fails, whatever the clocks
show and whenever the context appears, the batches that its calls send, the
calls that give up and the state it reaches are those of the batcher. -/
theorem client_is_retryingBatcher
    (batchSize batchTime created : Int) (calls : List (ClientCall A)) :
    let client :=
      (create batchSize batchTime created : ObservabilityClient A)
    let batcher : RetryingBatcher A := ⟨[], plusSeconds created 10, 0, false⟩
    let abstract :=
      RetryingBatcher.machine A (clientPolicy batchSize batchTime)
    Refines batchSize batchTime ((clientMachine A).after client calls)
        (abstract.after batcher (calls.map ClientCall.retryingInput)) ∧
      ((clientMachine A).outputs client calls).map Answer.retryingOutput =
        abstract.outputs batcher (calls.map ClientCall.retryingInput) :=
  (refines_create batchSize batchTime created).run calls

end Runs

end SparkObservability
