import SparkObservability.Listener.Isolation

/-!
# What a listener keeps between jobs

Every listed stage gets an entry in the mapping, and only the completion of
the stage takes it away.  A stage that is listed and then skipped is never
completed, so its entry stays for as long as the listener lives.
-/

namespace SparkObservability

open CustomMetricsListener

theorem exists_cut_of_mem_pendingTasks
    {history : List SparkListenerEvent} {task : SparkListenerTaskEnd}
    (pending : task ∈ pendingTasks history) :
    ∃ before later,
      history = before ++ .taskEnd task :: later ∧
        ∀ event ∈ later, ¬ event.Completes task.stageId := by
  induction history using List.reverseRecOn with
  | nil => simp [pendingTasks] at pending
  | append_singleton history event inductionHypothesis =>
      have extend
          (earlier : task ∈ pendingTasks history)
          (notCompletes : ¬ event.Completes task.stageId) :
          ∃ before later,
            history ++ [event] = before ++ .taskEnd task :: later ∧
              ∀ event ∈ later, ¬ event.Completes task.stageId := by
        obtain ⟨before, later, shape, uncompleted⟩ :=
          inductionHypothesis earlier
        refine ⟨before, later ++ [event], by simp [shape], ?_⟩
        rw [List.forall_mem_append, List.forall_mem_singleton]
        exact ⟨uncompleted, notCompletes⟩
      rw [pendingTasks_concat] at pending
      cases event with
      | taskEnd taskEnded =>
          by_cases reported : taskEnded.taskMetrics.isSome
          · simp only [pendingStep, reported, if_true] at pending
            rcases List.mem_append.1 pending with earlier | isLast
            · exact extend earlier id
            · rw [List.mem_singleton.1 isLast]
              exact ⟨history, [], rfl, by simp⟩
          · simp only [pendingStep, reported] at pending
            exact extend (by simpa using pending) id
      | stageCompleted => exact absurd pending List.not_mem_nil
      | applicationStart => exact extend pending id
      | applicationEnd => exact extend pending id
      | jobStart => exact extend pending id
      | jobEnd => exact extend pending id

/-- Some event completes the stage. -/
def Completed (stageId : Int) (events : List SparkListenerEvent) : Prop :=
  ∃ completion ∈ events, completion.Completes stageId

instance (stageId : Int) (events : List SparkListenerEvent) :
    Decidable (Completed stageId events) :=
  inferInstanceAs (Decidable (∃ _ ∈ _, _))

/-- Every stage that ran completes after its tasks. -/
def AllTasksCompleted (events : List SparkListenerEvent) : Prop :=
  Followed
    (fun event later =>
      ∀ task ∈ event.endedTask?, Completed task.stageId later)
    events

instance (events : List SparkListenerEvent) :
    Decidable (AllTasksCompleted events) :=
  inferInstanceAs (Decidable (Followed _ _))

/-- The stages that a job start lists. -/
def SparkListenerEvent.listedStages : SparkListenerEvent → List Int
  | .jobStart started => started.stageIds
  | _ => []

/-- Every listed stage completes after it was listed. -/
def AllListedCompleted (events : List SparkListenerEvent) : Prop :=
  Followed
    (fun event later =>
      ∀ stageId ∈ event.listedStages, Completed stageId later)
    events

instance (events : List SparkListenerEvent) :
    Decidable (AllListedCompleted events) :=
  inferInstanceAs (Decidable (Followed _ _))

theorem mem_listedStages_iff
    (event : SparkListenerEvent) (stageId : Int) :
    stageId ∈ event.listedStages ↔ event.Lists stageId := by
  cases event <;>
    simp [SparkListenerEvent.listedStages, SparkListenerEvent.Lists]

theorem pendingTasks_eq_nil_of_allTasksCompleted
    {history : List SparkListenerEvent}
    (completed : AllTasksCompleted history) :
    pendingTasks history = [] := by
  rw [List.eq_nil_iff_forall_not_mem]
  intro task pending
  obtain ⟨before, later, shape, uncompleted⟩ :=
    exists_cut_of_mem_pendingTasks pending
  obtain ⟨completion, member, completes⟩ :=
    (followed_iff_cut _).1 completed before _ later shape task rfl
  exact uncompleted completion member completes

/-- What the events of a run without exceptions have in common: a task with
metrics belongs to a listed stage, and a completion finds pending tasks. -/
def Expected (history : List SparkListenerEvent)
    (event : SparkListenerEvent) : Prop :=
  TaskListed history event ∧
    ∀ stageId, event.Completes stageId → pendingTasks history ≠ []

/-- In such a run no stage is listed any more exactly when every listed stage
has completed. -/
theorem allListedCompleted_iff_not_listed
    {history : List SparkListenerEvent}
    (expected : Along Expected [] history) :
    AllListedCompleted history ↔ ∀ stageId, ¬ Listed history stageId := by
  have cuts := (along_iff_cut [] history).1 expected
  rw [AllListedCompleted, followed_iff_cut]
  constructor
  · intro completed stageId
    rw [Listed, Since.not_iff_closed]
    intro before event later shape lists
    obtain ⟨completion, member, completes⟩ :=
      completed before event later shape stageId
        ((mem_listedStages_iff event stageId).2 lists)
    obtain ⟨between, rest, laterShape⟩ := List.mem_iff_append.1 member
    have wholeShape :
        history = (before ++ event :: between) ++ completion :: rest := by
      rw [shape, laterShape, List.append_assoc, List.cons_append]
    have pending := (cuts _ _ _ wholeShape).2 stageId completes
    exact ⟨between, completion, rest, laterShape, completes, pending⟩
  · intro notListed before event later shape stageId listed
    have lists := (mem_listedStages_iff event stageId).1 listed
    have closed := notListed stageId
    rw [Listed, Since.not_iff_closed] at closed
    obtain ⟨between, closing, rest, laterShape, completes, _⟩ :=
      closed before event later shape lists
    exact ⟨closing, by simp [laterShape], completes⟩

section Runs

variable [Gson CustomMetrics]

/-- A callback that returns has collected what it had to. -/
theorem expected_of_not_raised
    {history : List SparkListenerEvent} {listener : CustomMetricsListener}
    (tracks : Tracks history listener)
    {env : ListenerEnvironment} {event : SparkListenerEvent}
    (notRaised :
      (listenerMachine.output listener (env, event)).raised = none) :
    (listenerMachine.output listener (env, event)).AddReturned ∧
      Expected history event := by
  have step := listenerStep env listener event
  generalize listenerMachine.next listener (env, event) = next,
    listenerMachine.output listener (env, event) = answer
    at step notRaised ⊢
  cases step with
  | jobStarted jobStart =>
      refine ⟨?_, trivial, fun _ => False.elim⟩
      simp [Reaction.AddReturned, Reaction.passed, Reaction.calls,
        addedRecords]
  | unmeasured unmeasured noRecord =>
      refine ⟨fun passed => absurd noRecord passed, ?_⟩
      cases event with
      | applicationStart => exact ⟨trivial, fun _ => False.elim⟩
      | applicationEnd => exact ⟨trivial, fun _ => False.elim⟩
      | jobEnd => exact ⟨trivial, fun _ => False.elim⟩
      | jobStart => exact unmeasured.elim
      | stageCompleted => exact unmeasured.elim
      | taskEnd => exact unmeasured.elim
  | taskRejected => cases notRaised
  | stageRejected => cases notRaised
  | taskInterrupted => cases notRaised
  | stageInterrupted => cases notRaised
  | taskRecorded collected returned =>
      refine ⟨?_, ?_, fun _ => False.elim⟩
      · rwa [Reaction.addReturned_add_iff]
      · intro _
        have mapped := (collectedTask_of_ok collected).jobId
        rw [← tracks.mapped, mapped]
        rfl
  | stageRecorded collected returned =>
      refine ⟨?_, trivial, fun _ _ => ?_⟩
      · rwa [Reaction.addReturned_add_iff]
      · obtain ⟨first, rest, shape, _⟩ := (collectedStage_of_ok collected).head
        exact mt tracks.buffer_eq_nil_iff.2 (by simp [shape])

/-- A run without exceptions keeps track. -/
theorem tracks_of_not_raised
    (batchSize batchTime created : Int)
    (inputs : List (ListenerEnvironment × SparkListenerEvent))
    (notRaised :
      ∀ reaction ∈
          listenerMachine.outputs (create batchSize batchTime created) inputs,
        reaction.raised = none) :
    Tracks (inputs.map Prod.snd)
        (listenerMachine.after
          (create batchSize batchTime created) inputs) ∧
      Along Expected [] (inputs.map Prod.snd) := by
  revert notRaised
  refine listenerMachine.run_induction
    (motive := fun inputs reactions listener =>
      (∀ reaction ∈ reactions, reaction.raised = none) →
        Tracks (inputs.map Prod.snd) listener ∧
          Along Expected [] (inputs.map Prod.snd))
    ?_ ?_ inputs
  · intro _
    exact ⟨tracks_after batchSize batchTime created [] (by simp) trivial,
      trivial⟩
  · intro inputs input inductionHypothesis notRaised
    rcases input with ⟨env, event⟩
    rw [List.forall_mem_append] at notRaised
    obtain ⟨tracks, along⟩ := inductionHypothesis notRaised.1
    obtain ⟨returned, expected⟩ :=
      expected_of_not_raised tracks (notRaised.2 _ (List.Mem.head _))
    rw [List.map_append, along_append]
    exact ⟨tracks_next tracks returned expected.1, along, expected, trivial⟩

/-- Once every stage that ran has completed and no callback has raised, the
listener has forgotten everything exactly when every listed stage has
completed. -/
theorem nothing_left_over_iff
    (batchSize batchTime created : Int)
    (inputs : List (ListenerEnvironment × SparkListenerEvent))
    (notRaised :
      ∀ reaction ∈
          listenerMachine.outputs (create batchSize batchTime created) inputs,
        reaction.raised = none)
    (tasksCompleted : AllTasksCompleted (inputs.map Prod.snd)) :
    ((∀ stageId,
          (listenerMachine.after (create batchSize batchTime created)
            inputs).stageToJobMapping stageId = none) ∧
        (listenerMachine.after (create batchSize batchTime created)
          inputs).taskMetricsBuffer = []) ↔
      AllListedCompleted (inputs.map Prod.snd) := by
  obtain ⟨tracks, expected⟩ :=
    tracks_of_not_raised batchSize batchTime created inputs notRaised
  have bufferEmpty :=
    tracks.buffer_eq_nil_iff.2
      (pendingTasks_eq_nil_of_allTasksCompleted tasksCompleted)
  rw [allListedCompleted_iff_not_listed expected,
    and_iff_left bufferEmpty]
  refine forall_congr' fun stageId => ?_
  rw [← tracks.mapped, Bool.not_eq_true, Option.isSome_eq_false_iff,
    Option.isNone_iff_eq_none]

end Runs

/-- The second job lists stage 2, which is skipped, and runs stage 3. -/
def skippedStage : List (ListenerEnvironment × SparkListenerEvent) :=
  [arriving 11 (.jobStart ⟨7, [1]⟩), arriving 12 (finishedTask 1 0 5),
    arriving 13 (.stageCompleted ⟨1⟩), arriving 14 .jobEnd,
    arriving 15 (.jobStart ⟨8, [2, 3]⟩), arriving 16 (finishedTask 3 0 5),
    arriving 17 (.stageCompleted ⟨3⟩), arriving 18 .jobEnd]

/-- The entry of the skipped stage survives both jobs. -/
theorem skipped_stage_left_over :
    letI := plainMetricsGson
    let listener := create 100 60 0
    (∀ reaction ∈ listenerMachine.outputs listener skippedStage,
        reaction.raised = none) ∧
      AllTasksCompleted (skippedStage.map Prod.snd) ∧
      (listenerMachine.after listener skippedStage).stageToJobMapping 2 =
        some "8" := by
  refine ⟨?_, ?_, ?_⟩ <;> decide +kernel

theorem nothing_left_over_iff_first_job :
    letI := plainMetricsGson
    let reached :=
      listenerMachine.after (create 100 60 0) (skippedStage.take 4)
    ((∀ stageId, reached.stageToJobMapping stageId = none) ∧
        reached.taskMetricsBuffer = []) ↔
      AllListedCompleted ((skippedStage.take 4).map Prod.snd) :=
  letI := plainMetricsGson
  nothing_left_over_iff 100 60 0 (skippedStage.take 4) (by decide +kernel)
    (by decide +kernel)

end SparkObservability
