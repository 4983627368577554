import SparkObservability.Ingestion.Pipelines

/-!
# Every stored stage has its tasks

A send carries everything that has been passed and not been acknowledged.
Hence whatever arrives with a stage record, the task records behind its
numbers arrive with it or have been acknowledged before.  The two indexes of
the metrics fit together, whichever of the failed requests arrived, as long as
only requests that arrive whole are acknowledged.
-/

namespace SparkObservability

universe u

section Attempts

open ObservabilityClient

variable {A : Type u} [Gson A] [EventClass A]

/-- All attempts to send that are made in a run. -/
def attemptsMade (answers : List (Answer A)) : List (SendAttempt A) :=
  answers.flatMap Answer.attempts

/-- A record that was in an acknowledged request. -/
def AcknowledgedIn (attempts : List (SendAttempt A)) (record : A) : Prop :=
  ∃ attempt ∈ attempts, attempt.failure = none ∧ record ∈ attempt.records

omit [Gson A] [EventClass A] in
theorem acknowledgedIn_of_delivered
    {answers : List (Answer A)} {record : A}
    (delivered : record ∈ deliveredRecords answers) :
    AcknowledgedIn (attemptsMade answers) record := by
  simp only [deliveredRecords, Answer.delivered, List.mem_flatMap]
    at delivered
  obtain ⟨answer, isAnswer, attempt, attempted, sent⟩ := delivered
  split at sent
  next acknowledged =>
    exact ⟨attempt, List.mem_flatMap.2 ⟨answer, isAnswer, attempted⟩,
      acknowledged, sent⟩
  next => cases sent

omit [Gson A] [EventClass A] in
theorem AcknowledgedIn.mono
    {attempts more : List (SendAttempt A)} {record : A}
    (acknowledged : AcknowledgedIn attempts record)
    (known : attempts ⊆ more) : AcknowledgedIn more record := by
  obtain ⟨attempt, isAttempt, succeeded, sent⟩ := acknowledged
  exact ⟨attempt, known isAttempt, succeeded, sent⟩

/-- The records of an attempt directly follow those acknowledged before. -/
def FollowsAcknowledged (attempts : List (SendAttempt A))
    (attempt : SendAttempt A) (added : List A) : Prop :=
  ∃ acknowledged later,
    added = acknowledged ++ attempt.records ++ later ∧
      ∀ record ∈ acknowledged, AcknowledgedIn attempts record

omit [Gson A] [EventClass A] in
theorem FollowsAcknowledged.append
    {attempts more : List (SendAttempt A)} {attempt : SendAttempt A}
    {added : List A} (follows : FollowsAcknowledged attempts attempt added)
    (known : attempts ⊆ more) (addedLater : List A) :
    FollowsAcknowledged more attempt (added ++ addedLater) := by
  obtain ⟨acknowledged, later, shape, succeeded⟩ := follows
  refine ⟨acknowledged, later ++ addedLater, ?_, ?_⟩
  · rw [shape, List.append_assoc]
  · intro record member
    exact (succeeded record member).mono known

omit [Gson A] [EventClass A] in
theorem attemptsMade_append (first second : List (Answer A)) :
    attemptsMade (first ++ second) =
      attemptsMade first ++ attemptsMade second :=
  List.flatMap_append

theorem follows_of_attempted
    (batchSize batchTime created : Int) (calls : List (ClientCall A)) :
    let attempts :=
      attemptsMade
        ((clientMachine A).outputs (create batchSize batchTime created) calls)
    ∀ attempt ∈ attempts,
      FollowsAcknowledged attempts attempt (addedRecords calls) := by
  induction calls using List.reverseRecOn with
  | nil =>
      simp [attemptsMade]
  | append_singleton calls call inductionHypothesis =>
      intro attempts attempt made
      have shape :
          attempts =
            attemptsMade
                ((clientMachine A).outputs
                  (create batchSize batchTime created) calls) ++
              ((clientMachine A).output
                ((clientMachine A).after
                  (create batchSize batchTime created) calls)
                call).attempts := by
        simp only [attempts]
        rw [Machine.outputs_append, attemptsMade_append]
        simp [attemptsMade]
      rw [addedRecords_append]
      rw [shape, List.mem_append] at made
      have known :
          attemptsMade
              ((clientMachine A).outputs
                (create batchSize batchTime created) calls) ⊆ attempts := by
        rw [shape]
        exact List.subset_append_left _ _
      rcases made with earlier | last
      · exact (inductionHypothesis attempt earlier).append known _
      · refine ⟨_, [], ?_, fun record delivered =>
          (acknowledgedIn_of_delivered delivered).mono known⟩
        rw [(attempt_carries_buffer last).1, entry_buffer, List.append_nil,
          ← List.append_assoc, delivered_append_buffer]

end Attempts

section Storing

open CustomMetricsListener

variable [Gson CustomMetrics]

/-- The tasks behind a stage record that is sent are sent with it or have
been acknowledged before. -/
theorem tasks_of_sent_stage
    (batchSize batchTime created : Int)
    (inputs : List (ListenerEnvironment × SparkListenerEvent)) :
    let attempts :=
      attemptsMade
        ((listenerMachine.outputs (create batchSize batchTime created)
          inputs).flatMap Reaction.answers)
    ∀ attempt ∈ attempts, ∀ metrics,
      .stageAgg metrics ∈ attempt.records →
        ∃ tasks,
          Aggregates tasks metrics ∧
            ∀ task ∈ tasks,
              .task task ∈ attempt.records ∨
                AcknowledgedIn attempts (.task task) := by
  intro attempts attempt made metrics sent
  have sameAnswers :=
    (listener_drives_client (create batchSize batchTime created) inputs).2
  simp only [attempts, sameAnswers] at made ⊢
  obtain ⟨acknowledged, later, added, succeeded⟩ :=
    follows_of_attempted batchSize batchTime created _ attempt made
  obtain ⟨front, back, carried⟩ := List.append_of_mem sent
  have shape :
      passedRecords
          (listenerMachine.outputs (create batchSize batchTime created)
            inputs) =
        (acknowledged ++ front) ++ .stageAgg metrics :: (back ++ later) := by
    rw [← addedRecords_flatMap_calls, added, carried]
    simp
  obtain ⟨tasks, sublist, aggregates⟩ :=
    sources_of_passed batchSize batchTime created inputs shape
  refine ⟨tasks, aggregates, ?_⟩
  intro task member
  have passed := sublist.subset (List.mem_map_of_mem member)
  rcases List.mem_append.1 passed with before | together
  · exact Or.inr (succeeded _ before)
  · exact Or.inl (carried ▸ List.mem_append_left _ together)

/-- However many of the failed requests arrive, whole or cut off, beside the
acknowledged ones: if these arrive whole, then whatever is stored in the index
of the stages is the aggregate of tasks that are stored in the index of the
tasks. -/
theorem stored_stages_have_their_tasks
    (lawful : Gson.Lawful CustomMetrics) (writes : Gson.WritesFields)
    [DataPrepper] (prepper : DataPrepper.Lawful)
    (batchSize batchTime created : Int)
    (inputs : List (ListenerEnvironment × SparkListenerEvent))
    (arrived : List (SendAttempt CustomMetrics))
    (made :
      ∀ attempt ∈ arrived,
        attempt ∈
          attemptsMade
            ((listenerMachine.outputs (create batchSize batchTime created)
              inputs).flatMap Reaction.answers))
    (confirmed :
      ∀ attempt ∈
          attemptsMade
            ((listenerMachine.outputs (create batchSize batchTime created)
              inputs).flatMap Reaction.answers),
        attempt.failure = none →
          attempt ∈ arrived ∧ attempt.request.ArrivesWhole) :
    let document :=
      (listenerMachine.after (create batchSize batchTime created)
        inputs).client.document
    let written :=
      DataPrepper.written metricsPipeline
        (arrived.map fun attempt => attempt.request.transmitted)
    ∀ stored ∈ written "spark-stage-agg-metrics",
      ∃ metrics tasks,
        stored = document (.stageAgg metrics) ∧
          Aggregates tasks metrics ∧
          ∀ task ∈ tasks,
            document (.task task) ∈ written "spark-task-metrics" := by
  intro document written stored isStored
  have byType :=
    storedByType_of_requests lawful writes prepper _
      (measured_recordsOf batchSize batchTime created inputs made)
      (documentsOf_recordsOf batchSize batchTime created inputs lawful made)
  obtain ⟨metrics, isStage, rfl⟩ :=
    List.mem_map.1 (byType.stageAggs.mem_iff.1 isStored)
  obtain ⟨record, sent, isMetrics⟩ := List.mem_filterMap.1 isStage
  obtain ⟨attempt, isWhole, carried⟩ := List.mem_flatMap.1 sent
  have stageCarried : .stageAgg metrics ∈ attempt.records := by
    cases record with
    | stageAgg => cases isMetrics; exact carried
    | task => cases isMetrics
    | lightTask => cases isMetrics
  obtain ⟨tasks, aggregates, known⟩ :=
    tasks_of_sent_stage batchSize batchTime created inputs attempt
      (made attempt (List.mem_of_mem_filter isWhole)) metrics stageCarried
  refine ⟨metrics, tasks, rfl, aggregates, ?_⟩
  intro task member
  have taskSent : .task task ∈ recordsOf (wholeOf arrived) := by
    rcases known task member with together | ⟨earlier, isMade, succeeded, holds⟩
    · exact List.mem_flatMap.2 ⟨attempt, isWhole, together⟩
    · obtain ⟨isArrived, whole⟩ := confirmed earlier isMade succeeded
      exact List.mem_flatMap.2
        ⟨earlier, List.mem_filter.2 ⟨isArrived, decide_eq_true whole⟩, holds⟩
  exact byType.tasks.mem_iff.2
    (List.mem_map.2
      ⟨task, List.mem_filterMap.2 ⟨.task task, taskSent, rfl⟩, rfl⟩)

end Storing

/-- The answer to the request with the stage is a failure. -/
def halfAnsweredJob : List (ListenerEnvironment × SparkListenerEvent) :=
  [arriving 11 (.jobStart ⟨7, [1]⟩), arriving 12 (finishedTask 1 0 5),
    (.running (13 * nanosPerSecond) (.response 503 none),
      .stageCompleted ⟨1⟩)]

theorem stored_stages_have_their_tasks_halfAnsweredJob :
    letI := metricsWriter
    letI := plainPrepper
    let arrived :=
      attemptsMade
        ((listenerMachine.outputs (CustomMetricsListener.create 1 60 0)
          halfAnsweredJob).flatMap Reaction.answers)
    let document :=
      (listenerMachine.after (CustomMetricsListener.create 1 60 0)
        halfAnsweredJob).client.document
    let written :=
      DataPrepper.written metricsPipeline
        (arrived.map fun attempt => attempt.request.transmitted)
    arrived.map (fun attempt =>
          (attempt.failure.isNone,
            attempt.records.map CustomMetrics.metricsType)) =
        [(true, ["taskMetrics"]), (false, ["stageAggMetrics"])] ∧
      ∀ stored ∈ written "spark-stage-agg-metrics",
        ∃ metrics tasks,
          stored = document (.stageAgg metrics) ∧
            Aggregates tasks metrics ∧
            ∀ task ∈ tasks,
              document (.task task) ∈ written "spark-task-metrics" := by
  let writer := metricsWriter
  let prepper := plainPrepper
  intro arrived document written
  have whole : ∀ attempt ∈ arrived, attempt.request.ArrivesWhole :=
    whole_of_metricsWriter (by decide +kernel)
  constructor
  · decide +kernel
  · exact stored_stages_have_their_tasks lawful_metricsWriter
      writesFields_metricsWriter lawful_plainPrepper 1 60 0 halfAnsweredJob
      arrived (fun _ made => made) fun attempt made _ =>
        ⟨made, whole attempt made⟩

end SparkObservability
