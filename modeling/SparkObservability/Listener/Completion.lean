import SparkObservability.Listener.Isolation

/-!
# The completion of a stage

`onStageCompleted` reduces the pending tasks before it cleans up, so it
raises and leaves its entry in the mapping when there are none.  In runs in
which stages execute one after another that happens exactly for a stage
without a task that reported metrics.
-/

namespace SparkObservability

open CustomMetricsListener

/-- The tasks that ended in a run, in order. -/
def endedTasks (events : List SparkListenerEvent) :
    List SparkListenerTaskEnd :=
  events.filterMap SparkListenerEvent.endedTask?

/-- No event completed the stage. -/
def Uncompleted (history : List SparkListenerEvent) (stageId : Int) : Prop :=
  ∀ event ∈ history, ¬ event.Completes stageId

instance (history : List SparkListenerEvent) (stageId : Int) :
    Decidable (Uncompleted history stageId) :=
  inferInstanceAs (Decidable (∀ _ ∈ _, _))

/-- The stage is listed and runs its only attempt, and every other stage
that has started has completed. -/
def Runs (history : List SparkListenerEvent) (stageId : Int) : Prop :=
  (∃ event ∈ history, event.Lists stageId) ∧
    Uncompleted history stageId ∧
    ∀ task ∈ endedTasks history,
      task.stageId ≠ stageId → ¬ Uncompleted history task.stageId

instance (history : List SparkListenerEvent) (stageId : Int) :
    Decidable (Runs history stageId) :=
  inferInstanceAs (Decidable (_ ∧ _ ∧ ∀ _ ∈ _, _))

/-- Stages execute one after another and in one attempt, each with any
number of tasks. -/
def OneByOne (history : List SparkListenerEvent) :
    SparkListenerEvent → Prop
  | .taskEnd taskEnded => Runs history taskEnded.stageId
  | .stageCompleted stageCompleted => Runs history stageCompleted.stageId
  | _ => True

instance (history : List SparkListenerEvent) (event : SparkListenerEvent) :
    Decidable (OneByOne history event) :=
  match event with
  | .applicationStart => instDecidableTrue
  | .applicationEnd => instDecidableTrue
  | .jobStart _ => instDecidableTrue
  | .jobEnd => instDecidableTrue
  | .stageCompleted _ => inferInstanceAs (Decidable (Runs _ _))
  | .taskEnd _ => inferInstanceAs (Decidable (Runs _ _))

theorem OneByOne.taskListed
    {history : List SparkListenerEvent} {event : SparkListenerEvent}
    (oneByOne : OneByOne history event) :
    TaskListed history event := by
  cases event with
  | taskEnd taskEnded =>
      intro _
      exact listed_of_not_completed oneByOne.1 oneByOne.2.1
  | applicationStart => trivial
  | applicationEnd => trivial
  | jobStart => trivial
  | jobEnd => trivial
  | stageCompleted => trivial

@[simp]
theorem endedTasks_concat
    (history : List SparkListenerEvent) (event : SparkListenerEvent) :
    endedTasks (history ++ [event]) =
      endedTasks history ++ event.endedTask?.toList := by
  cases event <;> simp [endedTasks, SparkListenerEvent.endedTask?]

theorem uncompleted_concat_iff
    (history : List SparkListenerEvent) (event : SparkListenerEvent)
    (stageId : Int) :
    Uncompleted (history ++ [event]) stageId ↔
      Uncompleted history stageId ∧ ¬ event.Completes stageId := by
  rw [Uncompleted, List.forall_mem_append, List.forall_mem_singleton,
    Uncompleted]

/-- While stages execute one by one, the pending tasks are those of stages
that are not yet completed. -/
theorem mem_pendingTasks_iff
    {history : List SparkListenerEvent}
    (oneByOne : Along OneByOne [] history) (task : SparkListenerTaskEnd) :
    task ∈ pendingTasks history ↔
      task ∈ endedTasks history ∧ task.taskMetrics.isSome ∧
        Uncompleted history task.stageId := by
  induction history using List.reverseRecOn with
  | nil => simp [pendingTasks, endedTasks]
  | append_singleton history event inductionHypothesis =>
      rw [along_append] at oneByOne
      have earlier := inductionHypothesis oneByOne.1
      have last : OneByOne history event := oneByOne.2.1
      rw [pendingTasks_concat, endedTasks_concat, uncompleted_concat_iff]
      cases event with
      | taskEnd taskEnded =>
          have runs : Runs history taskEnded.stageId := last
          have notCompletes :
              ¬ (SparkListenerEvent.taskEnd taskEnded).Completes
                task.stageId := id
          by_cases isLast : task = taskEnded
          · subst isLast
            by_cases reported : task.taskMetrics.isSome
            · simp [pendingStep, reported, SparkListenerEvent.endedTask?,
                runs.2.1, notCompletes]
            · have notPending : task ∉ pendingTasks history :=
                fun pending => reported (earlier.1 pending).2.1
              simp [pendingStep, reported, notPending]
          · have samePending :
                task ∈ pendingStep (pendingTasks history)
                    (.taskEnd taskEnded) ↔
                  task ∈ pendingTasks history := by
              by_cases reported : taskEnded.taskMetrics.isSome
              · simp [pendingStep, reported, isLast]
              · simp [pendingStep, reported]
            rw [samePending, earlier]
            simp [SparkListenerEvent.endedTask?, isLast, notCompletes]
      | stageCompleted stageCompleted =>
          have runs : Runs history stageCompleted.stageId := last
          refine iff_of_false (List.not_mem_nil) ?_
          intro stillPending
          rcases stillPending with ⟨ended, _, uncompleted, notCompletes⟩
          have inHistory : task ∈ endedTasks history := by
            simpa [SparkListenerEvent.endedTask?] using ended
          have other : task.stageId ≠ stageCompleted.stageId :=
            fun same => notCompletes same.symm
          exact runs.2.2 task inHistory other uncompleted
      | applicationStart =>
          simpa [pendingStep, SparkListenerEvent.endedTask?,
            SparkListenerEvent.Completes] using earlier
      | applicationEnd =>
          simpa [pendingStep, SparkListenerEvent.endedTask?,
            SparkListenerEvent.Completes] using earlier
      | jobStart =>
          simpa [pendingStep, SparkListenerEvent.endedTask?,
            SparkListenerEvent.Completes] using earlier
      | jobEnd =>
          simpa [pendingStep, SparkListenerEvent.endedTask?,
            SparkListenerEvent.Completes] using earlier

section Runs

variable [Gson CustomMetrics]

/-- The callback returns and leaves no pending task and no entry for the
stage. -/
def CompletesCleanly
    (listener : CustomMetricsListener) (env : ListenerEnvironment)
    (stageCompleted : SparkListenerStageCompleted) : Prop :=
  (listenerMachine.output listener
      (env, .stageCompleted stageCompleted)).raised = none ∧
    (listenerMachine.next listener
      (env, .stageCompleted stageCompleted)).taskMetricsBuffer = [] ∧
    (listenerMachine.next listener
      (env, .stageCompleted stageCompleted)).stageToJobMapping
        stageCompleted.stageId = none

theorem completesCleanly_iff_pending
    {history : List SparkListenerEvent} {listener : CustomMetricsListener}
    (tracks : Tracks history listener)
    {env : ListenerEnvironment}
    {stageCompleted : SparkListenerStageCompleted}
    (returned :
      (listenerMachine.output listener
        (env, .stageCompleted stageCompleted)).AddReturned) :
    CompletesCleanly listener env stageCompleted ↔
      pendingTasks history ≠ [] := by
  rw [CompletesCleanly]
  rcases stageCompleted_ends tracks returned with
    ⟨nothing, raised⟩ | ⟨pending, notRaised, emptied, forgotten, _⟩
  · exact iff_of_false (fun clean => raised clean.1) (not_not.2 nothing)
  · exact iff_of_true ⟨notRaised, emptied, forgotten⟩ pending

/-- In a run in which stages execute one by one and every `client.add`
returns, a completion returns and cleans up exactly when its stage had a task
that ended with metrics. -/
theorem stage_completes_cleanly_iff
    (batchSize batchTime created : Int)
    (inputs : List (ListenerEnvironment × SparkListenerEvent))
    (oneByOne : Along OneByOne [] (inputs.map Prod.snd))
    (returned :
      ∀ reaction ∈
          listenerMachine.outputs (create batchSize batchTime created) inputs,
        reaction.AddReturned)
    (before : List (ListenerEnvironment × SparkListenerEvent))
    (env : ListenerEnvironment)
    (stageCompleted : SparkListenerStageCompleted)
    (later : List (ListenerEnvironment × SparkListenerEvent))
    (shape : inputs = before ++ (env, .stageCompleted stageCompleted) :: later) :
    CompletesCleanly
        (listenerMachine.after (create batchSize batchTime created) before)
        env stageCompleted ↔
      ∃ task ∈ tasksOf stageCompleted.stageId (before.map Prod.snd),
        task.taskMetrics.isSome := by
  rw [shape, List.map_append, along_append] at oneByOne
  obtain ⟨earlier, last, _⟩ := oneByOne
  rw [List.nil_append] at last
  rw [shape, Machine.outputs_append, Machine.outputs_cons,
    List.forall_mem_append, List.forall_mem_cons] at returned
  have listed : Along TaskListed [] (before.map Prod.snd) :=
    earlier.mono fun _ _ => OneByOne.taskListed
  have tracks :=
    tracks_after batchSize batchTime created before returned.1 listed
  rw [completesCleanly_iff_pending tracks returned.2.1]
  constructor
  · intro somePending
    obtain ⟨task, pending⟩ := List.exists_mem_of_ne_nil _ somePending
    obtain ⟨ended, reported, uncompleted⟩ :=
      (mem_pendingTasks_iff earlier task).1 pending
    refine ⟨task, ?_, reported⟩
    apply List.mem_filter.2 ⟨ended, ?_⟩
    by_contra other
    exact last.2.2 task ended (by simpa using other) uncompleted
  · intro someTask
    obtain ⟨task, ofStage, reported⟩ := someTask
    obtain ⟨ended, sameStage⟩ := List.mem_filter.1 ofStage
    apply List.ne_nil_of_mem
    apply (mem_pendingTasks_iff earlier task).2 ⟨ended, reported, ?_⟩
    rw [of_decide_eq_true sameStage]
    exact last.2.1

end Runs

/-- A job of two stages, the first of which has no partitions. -/
def emptyStage : List (ListenerEnvironment × SparkListenerEvent) :=
  [arriving 11 (.jobStart ⟨7, [1, 2]⟩), arriving 12 (.stageCompleted ⟨1⟩),
    arriving 13 (finishedTask 2 0 5), arriving 14 (.stageCompleted ⟨2⟩)]

/-- The completion of the empty stage raises, and its entry stays. -/
theorem empty_stage_completion_raises :
    letI := plainMetricsGson
    let listener := create 100 60 0
    let started := listenerMachine.after listener (emptyStage.take 1)
    let completion := arriving 12 (.stageCompleted ⟨1⟩)
    Along OneByOne [] (emptyStage.map Prod.snd) ∧
      (∀ reaction ∈ listenerMachine.outputs listener emptyStage,
        reaction.AddReturned) ∧
      (listenerMachine.output started completion).raised =
        some .emptyCollection ∧
      (listenerMachine.after listener emptyStage).stageToJobMapping 1 =
        some "7" ∧
      ¬ CompletesCleanly started completion.1 ⟨1⟩ := by
  let gson := plainMetricsGson
  refine ⟨by decide +kernel, by decide +kernel, by decide +kernel,
    by decide +kernel, ?_⟩
  intro clean
  have returned := clean.1
  revert returned
  decide +kernel

theorem stage_completes_cleanly_iff_second_stage :
    letI := plainMetricsGson
    CompletesCleanly
        (listenerMachine.after (create 100 60 0) (emptyStage.take 3))
        (arriving 14 (.stageCompleted ⟨2⟩)).1 ⟨2⟩ ↔
      ∃ task ∈ tasksOf 2 ((emptyStage.take 3).map Prod.snd),
        task.taskMetrics.isSome :=
  letI := plainMetricsGson
  stage_completes_cleanly_iff 100 60 0 emptyStage (by decide +kernel)
    (by decide +kernel) (emptyStage.take 3) _ ⟨2⟩ [] rfl

end SparkObservability
