import SparkObservability.Client.Delivery
import SparkObservability.Client.Retry

/-!
# After the client has given up

A retryable failure that finds no retries left makes `flushEvents` raise, but
it leaves no mark on the client.  Every later `add` or `flushEvents` sends or
lets the buffer grow, so the collection only stops if nobody calls the client
again.
-/

namespace SparkObservability

universe u

variable {A : Type u}

open ObservabilityClient

/-- The answer of a call whose retryable failure found no retries left. -/
def Answer.GaveUp (answer : Answer A) : Prop :=
  answer.raised ≠ none ∧
    ∃ attempt ∈ answer.attempts,
      attempt.failure.any ClientException.isRetryable = true

instance (answer : Answer A) : Decidable answer.GaveUp :=
  inferInstanceAs (Decidable (_ ∧ _))

/-- A client that still has something to send and knows its context. -/
structure Loaded (client : ObservabilityClient A) : Prop where
  nonempty : client.buffer ≠ []
  initialized : client.logContextInitialized = true

section GivingUp

variable [Gson A] [EventClass A]

/-- The call neither sends nor lets the buffer grow. -/
def Idle (client : ObservabilityClient A) (call : ClientCall A) : Prop :=
  ((clientMachine A).output client call).attempts = [] ∧
    ((clientMachine A).next client call).buffer.length ≤
      client.buffer.length

instance (client : ObservabilityClient A) (call : ClientCall A) :
    Decidable (Idle client call) :=
  decidable_of_iff
    (((clientMachine A).output client call).attempts.isEmpty = true ∧
      ((clientMachine A).next client call).buffer.length ≤
        client.buffer.length)
    (by rw [List.isEmpty_iff, Idle])

theorem loaded_of_gaveUp
    {client : ObservabilityClient A} {call : ClientCall A}
    (gaveUp : ((clientMachine A).output client call).GaveUp) :
    Loaded ((clientMachine A).next client call) := by
  obtain ⟨raised, -⟩ := gaveUp
  have step := clientStep client call
  generalize (clientMachine A).next client call = next,
    (clientMachine A).output client call = answer
    at step raised ⊢
  cases step with
  | quiet => exact absurd rfl raised
  | acknowledged => exact absurd rfl raised
  | absorbed => exact absurd rfl raised
  | raised _ _ initialized nonempty => exact ⟨nonempty, initialized⟩

/-- A call that sends nothing leaves the buffer it had built up. -/
theorem next_buffer_of_not_sends
    {client : ObservabilityClient A} {call : ClientCall A}
    (noSend : ¬ call.Sends client) :
    ((clientMachine A).next client call).buffer =
      (call.entry client).buffer := by
  rcases kept_of_not_sends noSend with same | ⟨env, same⟩
  · rw [same]
  · rw [same, prepared_buffer]

theorem idle_iff_not_sends_and_entry
    (client : ObservabilityClient A) (call : ClientCall A) :
    Idle client call ↔
      ¬ call.Sends client ∧
        (call.entry client).buffer.length ≤ client.buffer.length := by
  have attemptsIff := attempts_ne_nil_iff_sends client call
  constructor
  · intro idle
    rcases idle with ⟨noAttempts, notLonger⟩
    have noSend : ¬ call.Sends client := by
      rw [← attemptsIff]
      exact not_not_intro noAttempts
    rw [next_buffer_of_not_sends noSend] at notLonger
    exact ⟨noSend, notLonger⟩
  · intro unmoved
    rcases unmoved with ⟨noSend, notLonger⟩
    refine ⟨not_not.1 (mt attemptsIff.1 noSend), ?_⟩
    rw [next_buffer_of_not_sends noSend]
    exact notLonger

/-- Only `setLastFlush` leaves a loaded client idle. -/
theorem idle_iff_setLastFlush
    {client : ObservabilityClient A} (loaded : Loaded client)
    (call : ClientCall A) :
    Idle client call ↔ ∃ time, call = .setLastFlush time := by
  rw [idle_iff_not_sends_and_entry]
  cases call with
  | setLastFlush time =>
      have noSend : ¬ (ClientCall.setLastFlush time).Sends client :=
        fun sends => sends
      exact iff_of_true ⟨noSend, Nat.le_refl _⟩ ⟨time, rfl⟩
  | flushEvents env =>
      have sends : (ClientCall.flushEvents env).Sends client := by
        refine ⟨loaded.nonempty, ?_⟩
        rw [prepared_of_initialized env client loaded.initialized]
        exact loaded.initialized
      exact iff_of_false (fun idle => idle.1 sends) (by simp)
  | add env event =>
      have longer :
          ¬ ((ClientCall.add env event).entry client).buffer.length ≤
            client.buffer.length := by
        simp [ClientCall.entry]
      exact iff_of_false (fun idle => longer idle.2) (by simp)

theorem loaded_setLastFlush
    {client : ObservabilityClient A} (loaded : Loaded client) (time : Int) :
    Loaded ((clientMachine A).next client (.setLastFlush time)) :=
  ⟨loaded.nonempty, loaded.initialized⟩

/-- A loaded client stays idle exactly as long as nobody adds or flushes. -/
theorem throughout_idle_iff
    {client : ObservabilityClient A} (loaded : Loaded client)
    (calls : List (ClientCall A)) :
    (clientMachine A).Throughout Idle client calls ↔
      ∀ call ∈ calls, ∃ time, call = .setLastFlush time := by
  induction calls generalizing client with
  | nil => simp [Machine.Throughout]
  | cons call rest inductionHypothesis =>
      rw [Machine.Throughout, idle_iff_setLastFlush loaded,
        List.forall_mem_cons]
      refine and_congr_right ?_
      intro onlyTime
      rcases onlyTime with ⟨time, rfl⟩
      exact inductionHypothesis (loaded_setLastFlush loaded time)

/-- Once the client has given up, no later call sends and the buffer never
grows again exactly when no later call is an `add` or a `flushEvents`. -/
theorem stays_idle_after_giving_up_iff
    (batchSize batchTime created : Int)
    (before : List (ClientCall A)) (call : ClientCall A)
    (gaveUp :
      ((clientMachine A).output
        ((clientMachine A).after
          (create batchSize batchTime created) before) call).GaveUp)
    (later : List (ClientCall A)) :
    (clientMachine A).Throughout Idle
        ((clientMachine A).after
          (create batchSize batchTime created) (before ++ [call])) later ↔
      ∀ next ∈ later, ∃ time, next = .setLastFlush time := by
  rw [Machine.after_append]
  exact throughout_idle_iff (loaded_of_gaveUp gaveUp) later

end GivingUp

/-- A record that is added long after the creation of the client and meets
an unavailable service. -/
def failingAdd : ClientCall LogEvent :=
  .add
    (.running (1000 * nanosPerSecond) (.response 503 (some "busy")))
    ⟨0, []⟩

/-- Five failures are absorbed, the sixth raises, and the seventh record is
nevertheless buffered and sent. -/
theorem collection_goes_on_after_giving_up :
    letI := plainGson
    let machine := clientMachine LogEvent
    let client := create 1 10 0
    let beforeLast := List.replicate 5 failingAdd
    (machine.output (machine.after client beforeLast) failingAdd).GaveUp ∧
      ¬ Idle (machine.after client (beforeLast ++ [failingAdd])) failingAdd ∧
      (machine.output (machine.after client (beforeLast ++ [failingAdd]))
        failingAdd).attempts.length = 1 := by
  refine ⟨?_, ?_, ?_⟩ <;> decide +kernel

theorem stays_idle_after_giving_up_iff_six_failures :
    letI := plainGson
    let machine := clientMachine LogEvent
    let client := create 1 10 0
    let beforeLast := List.replicate 5 failingAdd
    let later := [.setLastFlush 0, failingAdd, .setLastFlush 1]
    machine.Throughout Idle
        (machine.after client (beforeLast ++ [failingAdd])) later ↔
      ∀ next ∈ later, ∃ time, next = .setLastFlush time :=
  letI := plainGson
  stays_idle_after_giving_up_iff 1 10 0 (List.replicate 5 failingAdd)
    failingAdd (by decide +kernel)
    [.setLastFlush 0, failingAdd, .setLastFlush 1]

end SparkObservability
