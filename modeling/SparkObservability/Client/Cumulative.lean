import Mathlib.Data.List.Chain
import SparkObservability.Client.Delivery

/-!
# Retries are cumulative

A send that failed is never given up: the next attempt of the client carries
the same records again, in the same order and rendered in the same way, with
the records added since then behind them.
-/

namespace SparkObservability

universe u

variable {A : Type u}

open ObservabilityClient

/-- The text of the second body begins with that of the first one, up to the
closing bracket. -/
def ExtendsBody (first second : String) : Prop :=
  ∃ text more, first = text ++ "]" ∧ second = text ++ more

/-- The second attempt repeats what failed in the first one. -/
def RepeatsFailed (first second : SendAttempt A) : Prop :=
  first.failure ≠ none →
    first.records <+: second.records ∧
      ExtendsBody first.request.body second.request.body

/-- What a client keeps of its last attempt, if that one failed. -/
structure StillHolds [Gson A] [EventClass A]
    (attempt : SendAttempt A) (client : ObservabilityClient A) : Prop where
  records : attempt.records <+: client.buffer
  nonempty : attempt.records ≠ []
  initialized : client.logContextInitialized = true
  body : attempt.request.body = client.payload attempt.records

section Holding

variable [Gson A] [EventClass A] {attempt : SendAttempt A}
  {client : ObservabilityClient A}

/-- The payload for more records extends the payload for the first of
them. -/
theorem extendsBody_payload
    (client : ObservabilityClient A) {events more : List A}
    (nonempty : events ≠ []) (extended : events <+: more) :
    ExtendsBody (client.payload events) (client.payload more) := by
  obtain ⟨rest, rfl⟩ := extended
  refine
    ⟨"[" ++ String.intercalate ","
        (events.map fun event =>
          Gson.render A (client.enrichedObject event)), ?_⟩
  by_cases done : rest = []
  · exact ⟨"]", rfl, by simp [payload, done]⟩
  · refine
      ⟨"," ++ String.intercalate ","
          (rest.map fun event =>
            Gson.render A (client.enrichedObject event)) ++ "]", rfl, ?_⟩
    have bothTexts :=
      String.intercalate_append_of_ne_nil (s := ",")
        (l := events.map fun event =>
          Gson.render A (client.enrichedObject event))
        (m := rest.map fun event =>
          Gson.render A (client.enrichedObject event))
        (by simpa using nonempty) (by simpa using done)
    rw [payload, List.map_append, bothTexts]
    simp only [String.append_assoc]

theorem StillHolds.congr
    (holds : StillHolds attempt client) {other : ObservabilityClient A}
    (same : SameSetup other client) (grows : client.buffer <+: other.buffer) :
    StillHolds attempt other where
  records := holds.records.trans grows
  nonempty := holds.nonempty
  initialized := same.initialized holds.initialized
  body := by
    rw [payload_congr same holds.initialized]
    exact holds.body

end Holding

theorem buffer_isPrefix_entry
    (client : ObservabilityClient A) (call : ClientCall A) :
    client.buffer <+: (call.entry client).buffer := by
  cases call with
  | add env event => exact List.prefix_append _ _
  | flushEvents env => exact List.prefix_refl _
  | setLastFlush time => exact List.prefix_refl _

section Runs

variable [Gson A] [EventClass A]

/-- The attempts that the answers report, in order. -/
def attemptsOf (answers : List (Answer A)) : List (SendAttempt A) :=
  answers.flatMap Answer.attempts

/-- Every attempt repeats the one before it, if that one failed, and the next
attempt will. -/
structure Cumulates
    (attempts : List (SendAttempt A)) (client : ObservabilityClient A) :
    Prop where
  chain : attempts.IsChain RepeatsFailed
  held :
    ∀ last, attempts.getLast? = some last → last.failure ≠ none →
      StillHolds last client

/-- A client that is ready to send cumulates one more attempt. -/
theorem Cumulates.concat
    {attempts : List (SendAttempt A)} {client ready : ObservabilityClient A}
    (cumulates : Cumulates attempts client)
    (same : SameSetup ready client) (grows : client.buffer <+: ready.buffer)
    (failure : Option ClientException) :
    (attempts ++
        [(⟨ready.buffer, httpRequest (ready.payload ready.buffer),
          failure⟩ : SendAttempt A)]).IsChain RepeatsFailed := by
  rw [List.isChain_append]
  refine ⟨cumulates.chain, List.isChain_singleton _, ?_⟩
  intro last isLast attempt isFirst failed
  have holds := (cumulates.held last isLast failed).congr same grows
  simp only [List.head?_cons, Option.mem_def, Option.some.injEq] at isFirst
  subst isFirst
  refine ⟨holds.records, ?_⟩
  rw [holds.body]
  exact extendsBody_payload ready holds.nonempty holds.records

theorem cumulates_next
    {attempts : List (SendAttempt A)} {client : ObservabilityClient A}
    (cumulates : Cumulates attempts client) (call : ClientCall A) :
    Cumulates
      (attempts ++ ((clientMachine A).output client call).attempts)
      ((clientMachine A).next client call) := by
  have fromEntry := entry_sameSetup client call
  have grows := buffer_isPrefix_entry client call
  have fromReady (env : Environment) :=
    (prepared_sameSetup env (call.entry client)).trans fromEntry
  have readyGrows (env : Environment) :
      client.buffer <+: ((call.entry client).prepared env).buffer := by
    rw [prepared_buffer]
    exact grows
  have step := clientStep client call
  generalize (clientMachine A).next client call = next,
    (clientMachine A).output client call = answer
    at step ⊢
  cases step with
  | quiet _ kept =>
      rw [List.append_nil]
      refine ⟨cumulates.chain, fun last isLast failed => ?_⟩
      have holds := cumulates.held last isLast failed
      rcases kept with rfl | ⟨env, _, rfl⟩
      · exact holds.congr fromEntry grows
      · exact holds.congr (fromReady env) (readyGrows env)
  | acknowledged _ readyShape =>
      subst readyShape
      refine ⟨cumulates.concat (fromReady _) (readyGrows _) _, ?_⟩
      intro last isLast failed
      rw [List.getLast?_concat, Option.some.injEq] at isLast
      subst isLast
      exact absurd rfl failed
  | absorbed _ readyShape initialized nonempty =>
      subst readyShape
      refine ⟨cumulates.concat (fromReady _) (readyGrows _) _, ?_⟩
      intro last isLast _
      rw [List.getLast?_concat, Option.some.injEq] at isLast
      subst isLast
      exact ⟨List.prefix_refl _, nonempty, initialized, rfl⟩
  | raised _ readyShape initialized nonempty =>
      subst readyShape
      refine ⟨cumulates.concat (fromReady _) (readyGrows _) _, ?_⟩
      intro last isLast _
      rw [List.getLast?_concat, Option.some.injEq] at isLast
      subst isLast
      exact ⟨List.prefix_refl _, nonempty, initialized, rfl⟩

theorem cumulates_after
    (batchSize batchTime created : Int) (calls : List (ClientCall A)) :
    Cumulates
      (attemptsOf
        ((clientMachine A).outputs
          (create batchSize batchTime created) calls))
      ((clientMachine A).after
        (create batchSize batchTime created) calls) := by
  refine (clientMachine A).run_induction
    (motive := fun _ answers client => Cumulates (attemptsOf answers) client)
    ?_ ?_ calls
  · exact ⟨List.isChain_nil, fun _ isLast => by cases isLast⟩
  · intro calls call cumulates
    rw [attemptsOf, List.flatMap_append, List.flatMap_singleton]
    exact cumulates_next cumulates call

/-- Of any two attempts that follow each other in a run, the second one
repeats the first one if that failed: the same records come first, and the
request begins with the same text. -/
theorem retries_repeat_failed_sends
    (batchSize batchTime created : Int) (calls : List (ClientCall A)) :
    (attemptsOf
      ((clientMachine A).outputs
        (create batchSize batchTime created) calls)).IsChain RepeatsFailed :=
  (cumulates_after batchSize batchTime created calls).chain

end Runs

end SparkObservability
