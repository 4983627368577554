import SparkObservability.Listener.Tracking

/-!
# Tasks of repeated and finished stage attempts

The first completion of a stage that finds pending tasks takes the stage out
of the mapping, and only a new job start puts it back.  A later attempt and a
late task of the same stage are then rejected.  The module proves that this
is the only way to lose a task while `client.add` returns.
-/

namespace SparkObservability

open CustomMetricsListener

/-- A task that ends with metrics is recorded once and under a job that
listed its stage, and its callback returns. -/
def Delivered
    (history : List SparkListenerEvent) (reaction : Reaction) :
    SparkListenerEvent → Prop
  | .taskEnd taskEnded =>
      taskEnded.taskMetrics.isSome →
        reaction.raised = none ∧
          ∃ metrics, reaction.passed = [.task metrics] ∧
            metrics.stageId = taskEnded.stageId ∧
            metrics.stageAttemptId = taskEnded.stageAttemptId ∧
            ∃ event ∈ history, event.ListsFor metrics.stageId metrics.jobId
  | _ => True

section Runs

variable [Gson CustomMetrics]

/-- All tasks of a run that end with metrics are delivered. -/
def EveryTaskDelivered
    (initial : CustomMetricsListener)
    (inputs : List (ListenerEnvironment × SparkListenerEvent)) : Prop :=
  ∀ before env event later,
    inputs = before ++ (env, event) :: later →
      Delivered (before.map Prod.snd)
        (listenerMachine.output (listenerMachine.after initial before)
          (env, event))
        event

theorem everyTaskDelivered_concat_iff
    (initial : CustomMetricsListener)
    (inputs : List (ListenerEnvironment × SparkListenerEvent))
    (env : ListenerEnvironment) (event : SparkListenerEvent) :
    EveryTaskDelivered initial (inputs ++ [(env, event)]) ↔
      EveryTaskDelivered initial inputs ∧
        Delivered (inputs.map Prod.snd)
          (listenerMachine.output (listenerMachine.after initial inputs)
            (env, event))
          event := by
  constructor
  · intro delivered
    refine ⟨?_, delivered inputs env event [] rfl⟩
    intro before otherEnv other later shape
    exact delivered before otherEnv other (later ++ [(env, event)])
      (by simp [shape])
  · intro delivered before otherEnv other later shape
    rcases delivered with ⟨earlier, last⟩
    rcases concat_eq_cut_iff.1 shape with
      ⟨rfl, same, _⟩ | ⟨rest, inputsShape, _⟩
    · obtain ⟨rfl, rfl⟩ := Prod.mk.inj same
      exact last
    · exact earlier before otherEnv other rest inputsShape

/-- While the listener keeps track, a task is delivered exactly when its
stage is listed. -/
theorem delivered_iff_taskListed
    {history : List SparkListenerEvent} {passed : List CustomMetrics}
    {listener : CustomMetricsListener}
    (tracks : Tracks history listener)
    (backed : Backed history passed listener)
    {env : ListenerEnvironment} {event : SparkListenerEvent}
    (returned :
      (listenerMachine.output listener (env, event)).AddReturned) :
    Delivered history (listenerMachine.output listener (env, event)) event ↔
      TaskListed history event := by
  have step := listenerStep env listener event
  generalize listenerMachine.next listener (env, event) = next,
    listenerMachine.output listener (env, event) = answer
    at step returned ⊢
  cases event with
  | taskEnd taskEnded =>
      refine forall_congr' fun reported => ?_
      rw [← tracks.mapped]
      cases step with
      | unmeasured unmeasured => exact unmeasured.elim
      | taskRejected rejected =>
          refine iff_of_false (fun delivered => by simp at delivered) ?_
          intro mapped
          obtain ⟨metrics, collected⟩ :=
            (collectTask_ok_iff env listener taskEnded).2 ⟨mapped, reported⟩
          rw [collected] at rejected
          cases rejected
      | taskInterrupted _ raised =>
          rw [Reaction.addReturned_add_iff, raised] at returned
          cases returned
      | @taskRecorded _ metrics collected =>
          have fields := collectedTask_of_ok collected
          have mostRecent := backed.mapping _ _ fields.jobId
          rw [← fields.stageId] at mostRecent
          refine iff_of_true ⟨rfl, metrics, rfl, fields.stageId,
            fields.stageAttemptId, mostRecent.exists_event⟩ ?_
          rw [fields.jobId]
          rfl
  | applicationStart => exact Iff.rfl
  | applicationEnd => exact Iff.rfl
  | jobStart => exact Iff.rfl
  | jobEnd => exact Iff.rfl
  | stageCompleted => exact Iff.rfl

/-- In a run in which every `client.add` returns, all tasks with metrics are
delivered exactly when each of them belongs to a stage that is listed when
the task ends: some job start listed it, and no completion of the stage since
then has found pending tasks. -/
theorem tasks_delivered_iff_listed
    (batchSize batchTime created : Int)
    (inputs : List (ListenerEnvironment × SparkListenerEvent))
    (returned :
      ∀ reaction ∈
          listenerMachine.outputs (create batchSize batchTime created) inputs,
        reaction.AddReturned) :
    EveryTaskDelivered (create batchSize batchTime created) inputs ↔
      Along TaskListed [] (inputs.map Prod.snd) := by
  induction inputs using List.reverseRecOn with
  | nil =>
      refine iff_of_true ?_ trivial
      intro before env event later shape
      simp at shape
  | append_singleton inputs input inductionHypothesis =>
      obtain ⟨env, event⟩ := input
      rw [Machine.outputs_append, List.forall_mem_append] at returned
      rw [everyTaskDelivered_concat_iff, List.map_append, along_append,
        inductionHypothesis returned.1]
      refine and_congr_right ?_
      intro listed
      have tracks :=
        tracks_after batchSize batchTime created inputs returned.1 listed
      have backed := backed_after batchSize batchTime created inputs
      have last := returned.2 _ (List.Mem.head _)
      rw [delivered_iff_taskListed tracks backed last]
      simp [Along]

end Runs

/-- A stage completes its first attempt, and a task of the next attempt
ends. -/
def retriedStage : List (ListenerEnvironment × SparkListenerEvent) :=
  [arriving 11 (.jobStart ⟨7, [1]⟩), arriving 12 (finishedTask 1 0 5),
    arriving 13 (.stageCompleted ⟨1⟩), arriving 14 (finishedTask 1 1 5)]

/-- The task of the second attempt meets an empty mapping. -/
theorem retried_stage_loses_task :
    letI := plainMetricsGson
    let listener := create 100 60 0
    let last := listenerMachine.after listener (retriedStage.take 3)
    let reaction := listenerMachine.output last (arriving 14 (finishedTask 1 1 5))
    (∀ reaction ∈ listenerMachine.outputs listener retriedStage,
        reaction.AddReturned) ∧
      reaction.raised = some (.noSuchElement 1) ∧ reaction.passed = [] ∧
      ¬ EveryTaskDelivered listener retriedStage := by
  let gson := plainMetricsGson
  refine ⟨by decide +kernel, by decide +kernel, by decide +kernel, ?_⟩
  intro delivered
  have returned :=
    (delivered (retriedStage.take 3) _ _ [] rfl rfl).1
  revert returned
  decide +kernel

theorem tasks_delivered_iff_listed_one_attempt :
    letI := plainMetricsGson
    let inputs := retriedStage.take 3
    EveryTaskDelivered (create 100 60 0) inputs ↔
      Along TaskListed [] (inputs.map Prod.snd) :=
  letI := plainMetricsGson
  tasks_delivered_iff_listed 100 60 0 (retriedStage.take 3)
    (by decide +kernel)

end SparkObservability
