import SparkObservability.Client.Calls

/-!
# The recursion of a flush

`flushEvents` calls itself from the closure that it maps over its buffer.
The inner call finds the context initialized, so it does not call itself
again, and the outer call returns what the inner call returned.
-/

namespace SparkObservability

universe u

namespace ObservabilityClient

variable {A : Type u} [Gson A] [EventClass A]

/-- What is left of an environment once the context has been read. -/
def afterContextRead (env : Environment) : Environment :=
  { env with sparkEnv := fun n => env.sparkEnv (n + 1) }

/-- `flushEvents` with a budget of recursive calls, which are counted; `none`
if the budget does not suffice. -/
def flushWithin : Nat → Environment → ObservabilityClient A →
    Option (Nat × ObservabilityClient A × Answer A)
  | budget, env, client =>
      match client.buffer.mapM client.enrich with
      | none =>
          let initialized := client.initLogContext (env.sparkEnv 0)
          if initialized.logContextInitialized then
            match budget with
            | 0 => none
            | budget + 1 =>
                (flushWithin budget (afterContextRead env) initialized).map
                  fun (nested, result) => (nested + 1, result)
          else
            some (0, initialized, ⟨[], none⟩)
      | some texts =>
          match reduceWithComma texts with
          | some content => some (0, client.sendBuffer env ("[" ++ content ++ "]"))
          | none => some (0, client, ⟨[], none⟩)

/-- With an empty buffer there is nothing to map. -/
theorem flushWithin_of_empty
    (budget : Nat) (env : Environment) {client : ObservabilityClient A}
    (empty : client.buffer = []) :
    client.flushWithin budget env = some (0, client.flushEvents env) := by
  rw [flushEvents_of_empty env empty, flushWithin.eq_def]
  simp [empty, reduceWithComma]

/-- With an initialized context there is no recursive call. -/
theorem flushWithin_of_initialized
    (budget : Nat) (env : Environment) {client : ObservabilityClient A}
    (initialized : client.logContextInitialized = true) :
    client.flushWithin budget env = some (0, client.flushEvents env) := by
  by_cases empty : client.buffer = []
  · exact flushWithin_of_empty budget env empty
  · have mappedAll := mapM_enrich_of_initialized initialized client.buffer
    have textsNonempty :
        (client.buffer.map fun event =>
          Gson.render A (client.enrichedObject event)) ≠ [] := by
      simpa using empty
    rw [flushEvents_of_initialized env empty initialized, flushWithin.eq_def]
    simp only [mappedAll, reduceWithComma_of_ne_nil textsNonempty]
    rfl

/-- The call reaches the recursive call. -/
def Recurses (env : Environment) (client : ObservabilityClient A) : Prop :=
  client.buffer ≠ [] ∧ client.logContextInitialized = false ∧
    (client.initLogContext (env.sparkEnv 0)).logContextInitialized = true

theorem flushWithin_of_uninitialized
    (budget : Nat) (env : Environment) {client : ObservabilityClient A}
    (nonempty : client.buffer ≠ [])
    (uninitialized : client.logContextInitialized = false) :
    client.flushWithin (budget + 1) env =
      if (client.initLogContext (env.sparkEnv 0)).logContextInitialized then
        some (1,
          (client.initLogContext (env.sparkEnv 0)).flushEvents
            (afterContextRead env))
      else
        some (0, client.initLogContext (env.sparkEnv 0), ⟨[], none⟩) := by
  obtain ⟨event, rest, shape⟩ := List.exists_cons_of_ne_nil nonempty
  have mappedNone : client.buffer.mapM client.enrich = none := by
    simp [shape, enrich, uninitialized]
  rw [flushWithin.eq_def]
  simp only [mappedNone]
  split
  · next ready =>
      rw [flushWithin_of_initialized budget (afterContextRead env) ready]
      rfl
  · rfl

/-- What one call of `flushEvents` does at most. -/
structure FlushesOnce
    (env : Environment) (client : ObservabilityClient A) : Prop where
  /-- One recursive call is enough, and it is made only by a call that
  initializes the context. -/
  nesting :
    ∃ nested ≤ 1,
      client.flushWithin 1 env = some (nested, client.flushEvents env) ∧
        (nested = 1 ↔ client.Recurses env)
  /-- The outer call returns what the inner call returns. -/
  nothingMore :
    client.Recurses env →
      client.flushEvents env =
        (client.initLogContext (env.sparkEnv 0)).flushEvents
          (afterContextRead env)
  sendsOnce : (client.flushEvents env).2.attempts.length ≤ 1
  /-- What is sent is the buffer, which is not empty, with a context that is
  fully known. -/
  sendsReady :
    ∀ attempt ∈ (client.flushEvents env).2.attempts,
      ∃ ready : ObservabilityClient A,
        ready.logContextInitialized = true ∧
          attempt.records = client.buffer ∧ client.buffer ≠ [] ∧
          attempt.request = httpRequest (ready.payload client.buffer)
  /-- Without a context nothing is sent, nothing is raised and only the
  context may change. -/
  notReady :
    client.buffer ≠ [] → client.logContextInitialized = false →
      (client.initLogContext (env.sparkEnv 0)).logContextInitialized = false →
        (client.flushEvents env).2 = ⟨[], none⟩ ∧
          SameDelivery (client.flushEvents env).1 client

theorem flushEvents_of_recurses
    (env : Environment) (client : ObservabilityClient A)
    (recurses : client.Recurses env) :
    client.flushEvents env =
      (client.initLogContext (env.sparkEnv 0)).flushEvents
        (afterContextRead env) := by
  obtain ⟨nonempty, uninitialized, ready⟩ := recurses
  have inner :
      (client.initLogContext (env.sparkEnv 0)).flushEvents
          (afterContextRead env) =
        (client.initLogContext (env.sparkEnv 0)).sendBuffer
          (afterContextRead env)
          ((client.initLogContext (env.sparkEnv 0)).payload client.buffer) :=
    flushEvents_of_initialized (afterContextRead env) nonempty ready
  rw [flushEvents_of_uninitialized env nonempty uninitialized, if_pos ready,
    inner]
  rfl

theorem flushEvents_nesting
    (env : Environment) (client : ObservabilityClient A) :
    ∃ nested ≤ 1,
      client.flushWithin 1 env = some (nested, client.flushEvents env) ∧
        (nested = 1 ↔ client.Recurses env) := by
  by_cases empty : client.buffer = []
  · refine ⟨0, Nat.zero_le 1, flushWithin_of_empty 1 env empty, ?_⟩
    exact iff_of_false Nat.zero_ne_one fun recurses => recurses.1 empty
  cases initialized : client.logContextInitialized with
  | true =>
      refine ⟨0, Nat.zero_le 1, flushWithin_of_initialized 1 env initialized, ?_⟩
      refine iff_of_false Nat.zero_ne_one fun recurses => ?_
      rw [recurses.2.1] at initialized
      cases initialized
  | false =>
      rw [flushWithin_of_uninitialized 0 env empty initialized]
      cases ready :
          (client.initLogContext (env.sparkEnv 0)).logContextInitialized with
      | true =>
          refine ⟨1, Nat.le_refl 1, ?_, ?_⟩
          · rw [if_pos rfl,
              flushEvents_of_recurses env client ⟨empty, initialized, ready⟩]
          · exact iff_of_true rfl ⟨empty, initialized, ready⟩
      | false =>
          refine ⟨0, Nat.zero_le 1, ?_, ?_⟩
          · rw [if_neg Bool.false_ne_true,
              flushEvents_of_uninitialized env empty initialized,
              if_neg (by simp [ready])]
          · refine iff_of_false Nat.zero_ne_one fun recurses => ?_
            rw [recurses.2.2] at ready
            cases ready

theorem flushEvents_attempts
    (env : Environment) (client : ObservabilityClient A) :
    (client.flushEvents env).2.attempts = [] ∨
      ∃ failure,
        (client.prepared env).logContextInitialized = true ∧
          client.buffer ≠ [] ∧
          (client.flushEvents env).2.attempts =
            [⟨client.buffer,
              httpRequest ((client.prepared env).payload client.buffer),
              failure⟩] := by
  rw [flushEvents_eq]
  split
  · exact Or.inl rfl
  · next nonempty =>
      split
      · next ready =>
          refine Or.inr ?_
          rw [sendBuffer]
          cases sendContent env.http with
          | ok =>
              exact ⟨none, ready, nonempty, by simp⟩
          | error exception =>
              refine ⟨some exception, ready, nonempty, ?_⟩
              simp only
              split <;> simp
      · exact Or.inl rfl

/-- One call of `flushEvents` ends, calls itself at most once, sends at most
once and only what is ready to be sent. -/
theorem flushEvents_flushesOnce
    (env : Environment) (client : ObservabilityClient A) :
    FlushesOnce env client where
  nesting := flushEvents_nesting env client
  nothingMore := flushEvents_of_recurses env client
  sendsOnce := by
    rcases flushEvents_attempts env client with
      noAttempt | ⟨failure, _, _, oneAttempt⟩
    · simp [noAttempt]
    · simp [oneAttempt]
  sendsReady := by
    intro attempt attempted
    rcases flushEvents_attempts env client with
      noAttempt | ⟨failure, ready, nonempty, oneAttempt⟩
    · simp [noAttempt] at attempted
    · rw [oneAttempt, List.mem_singleton] at attempted
      subst attempted
      exact ⟨client.prepared env, ready, rfl, nonempty, rfl⟩
  notReady := by
    intro nonempty uninitialized notReady
    rw [flushEvents_of_uninitialized env nonempty uninitialized,
      if_neg (by simp [notReady])]
    exact ⟨rfl, rfl, rfl, rfl, rfl, rfl⟩

end ObservabilityClient

end SparkObservability
