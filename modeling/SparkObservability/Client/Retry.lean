import SparkObservability.Client.Calls
import SparkObservability.RetryCycle

/-!
# The retry state of the client

`isBackingOff`, `backOff` and `retries` are written in different branches of
`flushEvents`.  They are together a function of one number, the failures
absorbed since the last acknowledged send, and that number is read off the
history of the sends.
-/

namespace SparkObservability

universe u

variable {A : Type u}

open ObservabilityClient

/-- How the attempts of a call ended for the retry cycle.  A retryable
failure counts as absorbed when the call did not raise. -/
def Answer.outcomes (answer : Answer A) : List AttemptOutcome :=
  answer.attempts.map fun attempt =>
    match attempt.failure with
    | none => .acknowledged
    | some exception =>
        if exception.isRetryable = true ∧ answer.raised = none then
          .absorbed
        else
          .rejected

/-- The failures absorbed since the last acknowledged send of a run. -/
def absorbedSends (answers : List (Answer A)) : Nat :=
  RetryCycle.absorbedFailures (answers.flatMap Answer.outcomes)

theorem absorbedSends_concat (answers : List (Answer A)) (answer : Answer A) :
    absorbedSends (answers ++ [answer]) =
      answer.outcomes.foldl RetryCycle.count (absorbedSends answers) := by
  simp [absorbedSends, RetryCycle.absorbedFailures, List.foldl_append]

/-- The retry fields of a client that has absorbed `failures` failures. -/
structure RetryState
    (failures : Nat) (client : ObservabilityClient A) : Prop where
  bounded : failures ≤ 5
  retries : client.retries = 5 - (failures : Int)
  isBackingOff : client.isBackingOff = true ↔ 0 < failures
  backOff : client.backOff = min 60 (5 * 2 ^ failures)

theorem RetryState.congr {failures : Nat}
    {first second : ObservabilityClient A}
    (state : RetryState failures first) (same : SameDelivery second first) :
    RetryState failures second where
  bounded := state.bounded
  retries := same.retries.trans state.retries
  isBackingOff := by rw [same.isBackingOff, state.isBackingOff]
  backOff := same.backOff.trans state.backOff

private theorem initialBackoff_eq_wait :
    initialBackoff = min 60 (5 * 2 ^ 0) := by
  decide

theorem retryState_create (batchSize batchTime created : Int) :
    RetryState 0
      (create batchSize batchTime created : ObservabilityClient A) where
  bounded := by decide
  retries := rfl
  isBackingOff := by simp [create]
  backOff := initialBackoff_eq_wait

theorem retryState_entry {failures : Nat} {client : ObservabilityClient A}
    (state : RetryState failures client) (call : ClientCall A) :
    RetryState failures (call.entry client) := by
  cases call <;>
    exact ⟨state.bounded, state.retries, state.isBackingOff, state.backOff⟩

/-- An acknowledged send ends the cycle, if there is one. -/
theorem retryState_acknowledge
    {failures : Nat} {client : ObservabilityClient A}
    (state : RetryState failures client) (acknowledgedAt : Int) :
    RetryState 0 (client.acknowledge acknowledgedAt) := by
  by_cases backingOff : client.isBackingOff = true
  · simp only [acknowledge, if_pos backingOff]
    exact ⟨by decide, rfl, by simp, initialBackoff_eq_wait⟩
  · -- outside a cycle the fields already have their initial values
    have noFailures : failures = 0 := by
      have notPositive := mt state.isBackingOff.2 backingOff
      omega
    subst noFailures
    rw [acknowledge_of_not_backingOff (by simpa using backingOff)]
    exact ⟨by decide, state.retries, state.isBackingOff, state.backOff⟩

theorem retryState_startBackOff
    {failures : Nat} {client : ObservabilityClient A}
    (state : RetryState failures client) (retriesLeft : 0 < client.retries) :
    RetryState (failures + 1) client.startBackOff where
  bounded := by
    have retries := state.retries
    omega
  retries := by
    have retries := state.retries
    simp only [startBackOff]
    omega
  isBackingOff := by simp [startBackOff]
  backOff := by
    have doubled :=
      RetryCycle.wait_succ 5 60 (by decide) failures
    simpa only [startBackOff, state.backOff, maxBackoff, RetryCycle.wait]
      using doubled

section Runs

variable [Gson A] [EventClass A]

/-- One call moves the retry state as the outcomes of its sends say. -/
theorem retryState_next
    {failures : Nat} {client : ObservabilityClient A}
    (state : RetryState failures client) (call : ClientCall A) :
    RetryState
      (((clientMachine A).output client call).outcomes.foldl
        RetryCycle.count failures)
      ((clientMachine A).next client call) := by
  have entryState := retryState_entry state call
  have readyState (env : Environment) :=
    entryState.congr (prepared_sameDelivery env (call.entry client))
  have step := clientStep client call
  generalize (clientMachine A).next client call = next,
    (clientMachine A).output client call = answer
    at step ⊢
  cases step with
  | quiet _ kept =>
      rcases kept with rfl | ⟨env, _, rfl⟩
      · exact entryState
      · exact readyState env
  | acknowledged _ readyShape =>
      subst readyShape
      exact retryState_acknowledge (readyState _) _
  | absorbed _ readyShape _ _ _ _ retryable retriesLeft =>
      subst readyShape
      simpa [Answer.outcomes, retryable, RetryCycle.count] using
        retryState_startBackOff (readyState _) retriesLeft
  | raised _ readyShape =>
      subst readyShape
      simpa [Answer.outcomes, RetryCycle.count] using readyState _

/-- A call raises exactly when its send failed and the failure could not be
absorbed, and then leaves the client as it was before the send. -/
theorem raised_iff_of_retryState
    {failures : Nat} {client : ObservabilityClient A}
    (state : RetryState failures client) (call : ClientCall A) :
    (((clientMachine A).output client call).raised ≠ none ↔
        ∃ attempt ∈ ((clientMachine A).output client call).attempts,
          ∃ exception,
            attempt.failure = some exception ∧
              (exception.isRetryable = false ∨ failures = 5)) ∧
      (((clientMachine A).output client call).raised ≠ none →
        SameDelivery ((clientMachine A).next client call)
          (call.entry client)) := by
  have retriesOf (env : Environment) :
      ((call.entry client).prepared env).retries = 5 - (failures : Int) :=
    ((retryState_entry state call).congr
      (prepared_sameDelivery env (call.entry client))).retries
  have bounded := state.bounded
  have step := clientStep client call
  generalize (clientMachine A).next client call = next,
    (clientMachine A).output client call = answer
    at step ⊢
  cases step with
  | quiet => simp
  | acknowledged => simp
  | @absorbed env _ _ _ readyShape _ _ _ _ retryable retriesLeft =>
      subst readyShape
      have fewer : failures ≠ 5 := by
        rw [retriesOf env] at retriesLeft
        omega
      simp [retryable, fewer]
  | @raised env _ exception _ readyShape _ _ _ _ notAbsorbed =>
      subst readyShape
      have exhausted :
          exception.isRetryable = false ∨ failures = 5 := by
        rcases notAbsorbed with notRetryable | noRetries
        · exact Or.inl notRetryable
        · rw [retriesOf env] at noRetries
          exact Or.inr (by omega)
      refine ⟨by simpa using exhausted, fun _ => ?_⟩
      exact prepared_sameDelivery env (call.entry client)

theorem retryState_after
    (batchSize batchTime created : Int) (calls : List (ClientCall A)) :
    RetryState
      (absorbedSends
        ((clientMachine A).outputs
          (create batchSize batchTime created) calls))
      ((clientMachine A).after
        (create batchSize batchTime created) calls) := by
  refine (clientMachine A).run_induction
    (motive := fun _ answers client =>
      RetryState (absorbedSends answers) client)
    (retryState_create batchSize batchTime created) ?_ calls
  intro calls call state
  rw [absorbedSends_concat]
  exact retryState_next state call

/-- The retry state is a function of history: after any calls, with `k` the
failures absorbed since the last acknowledged send, the retry fields are
those of `k`, and the next call raises exactly when its send failed for good
and then leaves the delivery state as it was before the send. -/
theorem retryState_determined_by_history
    (batchSize batchTime created : Int) (calls : List (ClientCall A)) :
    let client :=
      (clientMachine A).after (create batchSize batchTime created) calls
    let k :=
      absorbedSends
        ((clientMachine A).outputs
          (create batchSize batchTime created) calls)
    RetryState k client ∧
      ∀ call,
        (((clientMachine A).output client call).raised ≠ none ↔
            ∃ attempt ∈ ((clientMachine A).output client call).attempts,
              ∃ exception,
                attempt.failure = some exception ∧
                  (exception.isRetryable = false ∨ k = 5)) ∧
          (((clientMachine A).output client call).raised ≠ none →
            SameDelivery ((clientMachine A).next client call)
              (call.entry client)) := by
  have state :=
    retryState_after (A := A) batchSize batchTime created calls
  exact ⟨state, raised_iff_of_retryState state⟩

end Runs

end SparkObservability
