import SparkObservability.Listener.Attribution

/-!
# What an undisturbed listener knows about the past

In a run in which every `client.add` returns and every task belongs to a
stage that is listed when it ends, the state of the listener is a function of
the events: the mapping knows the stages that are listed, and the buffer
holds the tasks that ended since the last completion.
-/

namespace SparkObservability

open CustomMetricsListener

/-! ## Readings of the history -/

/-- The effect of one event on the tasks that wait for a completion. -/
def pendingStep (pending : List SparkListenerTaskEnd) :
    SparkListenerEvent → List SparkListenerTaskEnd
  | .taskEnd taskEnded =>
      if taskEnded.taskMetrics.isSome then pending ++ [taskEnded] else pending
  | .stageCompleted _ => []
  | _ => pending

/-- The tasks with metrics that ended since the last completion of any
stage. -/
def pendingTasks (history : List SparkListenerEvent) :
    List SparkListenerTaskEnd :=
  history.foldl pendingStep []

@[simp]
theorem pendingTasks_concat
    (history : List SparkListenerEvent) (event : SparkListenerEvent) :
    pendingTasks (history ++ [event]) =
      pendingStep (pendingTasks history) event := by
  simp [pendingTasks]

theorem SparkListenerEvent.Unmeasured.pendingStep_eq
    {event : SparkListenerEvent} (unmeasured : event.Unmeasured)
    (pending : List SparkListenerTaskEnd) :
    pendingStep pending event = pending := by
  cases event <;> first | rfl | exact unmeasured.elim

/-- The event completes the stage. -/
def SparkListenerEvent.Completes (stageId : Int) : SparkListenerEvent → Prop
  | .stageCompleted completed => completed.stageId = stageId
  | _ => False

/-- A started job listed the stage, and no completion of the stage since then
has found pending tasks. -/
def Listed (history : List SparkListenerEvent) (stageId : Int) : Prop :=
  Since (fun _ event => event.Lists stageId)
    (fun earlier event =>
      event.Completes stageId ∧ pendingTasks earlier ≠ [])
    history

theorem listed_concat_iff
    (history : List SparkListenerEvent) (event : SparkListenerEvent)
    (stageId : Int) :
    Listed (history ++ [event]) stageId ↔
      event.Lists stageId ∨
        (Listed history stageId ∧
          ¬ (event.Completes stageId ∧ pendingTasks history ≠ [])) :=
  Since.concat_iff history event

/-- If a task ends with metrics, its stage is listed. -/
def TaskListed (history : List SparkListenerEvent) :
    SparkListenerEvent → Prop
  | .taskEnd taskEnded =>
      taskEnded.taskMetrics.isSome → Listed history taskEnded.stageId
  | _ => True

/-- The two columns that are aggregated over tasks. -/
def inputColumn (tasks : List SparkListenerTaskEnd) : List Rat :=
  (tasks.filterMap (·.taskMetrics)).map fun taskMetrics =>
    (taskMetrics.inputMetrics.bytesRead : Rat)

def shuffleColumn (tasks : List SparkListenerTaskEnd) : List Rat :=
  (tasks.filterMap (·.taskMetrics)).map fun taskMetrics =>
    (taskMetrics.shuffleReadMetrics.totalBytesRead : Rat)

/-! ## The invariant of undisturbed runs -/

structure Tracks
    (history : List SparkListenerEvent) (listener : CustomMetricsListener) :
    Prop where
  mapped :
    ∀ stageId,
      (listener.stageToJobMapping stageId).isSome ↔ Listed history stageId
  stages :
    listener.taskMetricsBuffer.map (·.stageId) =
      (pendingTasks history).map (·.stageId)
  input :
    listener.taskMetricsBuffer.map (·.inputBytesRead) =
      inputColumn (pendingTasks history)
  shuffle :
    listener.taskMetricsBuffer.map (·.shuffleBytesRead) =
      shuffleColumn (pendingTasks history)

theorem Tracks.buffer_eq_nil_iff
    {history : List SparkListenerEvent} {listener : CustomMetricsListener}
    (tracks : Tracks history listener) :
    listener.taskMetricsBuffer = [] ↔ pendingTasks history = [] := by
  have lengths := congrArg List.length tracks.stages
  rw [List.length_map, List.length_map] at lengths
  rw [← List.length_eq_zero_iff, lengths, List.length_eq_zero_iff]

/-- An event that neither lists nor completes a stage and leaves the pending
tasks alone is not seen by a listener that only calls its client. -/
theorem Tracks.concat_of_unseen
    {history : List SparkListenerEvent} {listener : CustomMetricsListener}
    (tracks : Tracks history listener) {event : SparkListenerEvent}
    (notLists : ∀ stageId, ¬ event.Lists stageId)
    (keeps :
      ∀ stageId, ¬ (event.Completes stageId ∧ pendingTasks history ≠ []))
    (samePending :
      pendingStep (pendingTasks history) event = pendingTasks history)
    (client : ObservabilityClient CustomMetrics) :
    Tracks (history ++ [event]) { listener with client := client } := by
  refine ⟨?_, ?_, ?_, ?_⟩
  · intro stageId
    rw [listed_concat_iff, tracks.mapped]
    constructor
    · intro listed
      exact Or.inr ⟨listed, keeps stageId⟩
    · intro nowListed
      rcases nowListed with lists | ⟨listed, _⟩
      · exact absurd lists (notLists stageId)
      · exact listed
  · rw [pendingTasks_concat, samePending]
    exact tracks.stages
  · rw [pendingTasks_concat, samePending]
    exact tracks.input
  · rw [pendingTasks_concat, samePending]
    exact tracks.shuffle

theorem Tracks.onJobStart
    {history : List SparkListenerEvent} {listener : CustomMetricsListener}
    (tracks : Tracks history listener) (jobStart : SparkListenerJobStart) :
    Tracks (history ++ [.jobStart jobStart])
      (listener.onJobStart jobStart).1 where
  mapped stageId := by
    rw [onJobStart_mapping, listed_concat_iff]
    have notCompletes :
        ¬ (SparkListenerEvent.jobStart jobStart).Completes stageId := id
    by_cases listed : stageId ∈ jobStart.stageIds
    · have lists :
          (SparkListenerEvent.jobStart jobStart).Lists stageId := listed
      simp [listed, lists]
    · have notLists :
          ¬ (SparkListenerEvent.jobStart jobStart).Lists stageId := listed
      simp [listed, notLists, notCompletes, tracks.mapped]
  stages := by
    rw [pendingTasks_concat]
    exact tracks.stages
  input := by
    rw [pendingTasks_concat]
    exact tracks.input
  shuffle := by
    rw [pendingTasks_concat]
    exact tracks.shuffle

theorem Tracks.recordTask
    {history : List SparkListenerEvent} {listener : CustomMetricsListener}
    (tracks : Tracks history listener)
    {taskEnded : SparkListenerTaskEnd} {metrics : CustomTaskMetrics}
    (collected : CollectedTask listener taskEnded metrics)
    (env : ListenerEnvironment) (client : ObservabilityClient CustomMetrics) :
    Tracks (history ++ [.taskEnd taskEnded])
      { listener with
        client := client
        taskMetricsBuffer :=
          listener.taskMetricsBuffer ++ [lightMetrics env metrics] } := by
  obtain ⟨taskMetrics, reported, inputShape, shuffleShape⟩ :=
    collected.taskMetrics
  have pendingShape :
      pendingTasks (history ++ [.taskEnd taskEnded]) =
        pendingTasks history ++ [taskEnded] := by
    simp [pendingStep, reported]
  refine ⟨?_, ?_, ?_, ?_⟩
  · intro stageId
    rw [listed_concat_iff]
    simp [SparkListenerEvent.Lists, SparkListenerEvent.Completes,
      tracks.mapped]
  · rw [pendingShape, List.map_append, List.map_append, tracks.stages]
    simp [lightMetrics, collected.stageId]
  · rw [pendingShape, List.map_append, tracks.input]
    simp [inputColumn, lightMetrics, reported, inputShape]
  · rw [pendingShape, List.map_append, tracks.shuffle]
    simp [shuffleColumn, lightMetrics, reported, shuffleShape]

theorem Tracks.recordStage
    {history : List SparkListenerEvent} {listener : CustomMetricsListener}
    (tracks : Tracks history listener)
    (nonempty : listener.taskMetricsBuffer ≠ [])
    (stageCompleted : SparkListenerStageCompleted)
    (client : ObservabilityClient CustomMetrics) :
    Tracks (history ++ [.stageCompleted stageCompleted])
      { listener with
        client := client
        stageToJobMapping :=
          Function.update listener.stageToJobMapping
            stageCompleted.stageId none
        taskMetricsBuffer := [] } := by
  have pending : pendingTasks history ≠ [] :=
    mt tracks.buffer_eq_nil_iff.2 nonempty
  refine ⟨?_, by simp [pendingStep], ?_, ?_⟩
  · intro stageId
    rw [listed_concat_iff]
    by_cases isCompleted : stageId = stageCompleted.stageId
    · simp [isCompleted, SparkListenerEvent.Lists,
        SparkListenerEvent.Completes, pending]
    · have others : stageCompleted.stageId ≠ stageId := Ne.symm isCompleted
      simp [isCompleted, others, SparkListenerEvent.Lists,
        SparkListenerEvent.Completes, tracks.mapped]
  · simp [pendingStep, inputColumn]
  · simp [pendingStep, shuffleColumn]

section Runs

variable [Gson CustomMetrics]

/-- One undisturbed event keeps track. -/
theorem tracks_next
    {history : List SparkListenerEvent} {listener : CustomMetricsListener}
    (tracks : Tracks history listener)
    {env : ListenerEnvironment} {event : SparkListenerEvent}
    (returned : (listenerMachine.output listener (env, event)).AddReturned)
    (listed : TaskListed history event) :
    Tracks (history ++ [event])
      (listenerMachine.next listener (env, event)) := by
  have step := listenerStep env listener event
  generalize listenerMachine.next listener (env, event) = next,
    listenerMachine.output listener (env, event) = answer
    at step returned ⊢
  cases step with
  | jobStarted jobStart => exact tracks.onJobStart jobStart
  | unmeasured unmeasured =>
      refine tracks.concat_of_unseen unmeasured.not_lists ?_
        (unmeasured.pendingStep_eq _) _
      intro stageId closes
      have completes := closes.1
      cases event <;> first | exact completes | exact unmeasured
  | @taskRejected taskEnded _ rejected =>
      have noMetrics : taskEnded.taskMetrics = none := by
        by_contra notNone
        have reported := Option.isSome_iff_ne_none.2 notNone
        obtain ⟨metrics, collected⟩ :=
          (collectTask_ok_iff env listener taskEnded).2
            ⟨(tracks.mapped _).2 (listed reported), reported⟩
        rw [collected] at rejected
        cases rejected
      refine tracks.concat_of_unseen (fun _ => id) ?_ ?_ listener.client
      · intro stageId closes
        exact closes.1
      · simp [pendingStep, noMetrics]
  | @stageRejected stageCompleted _ rejected =>
      have nonePending : pendingTasks history = [] := by
        rw [← tracks.buffer_eq_nil_iff]
        by_contra nonempty
        obtain ⟨metrics, collected, _⟩ :=
          collectStage_of_nonempty env nonempty
        rw [collected] at rejected
        cases rejected
      refine tracks.concat_of_unseen (fun _ => id)
        (fun _ both => both.2 nonePending) ?_ listener.client
      simp [pendingStep, nonePending]
  | taskInterrupted _ raised =>
      rw [Reaction.addReturned_add_iff, raised] at returned
      cases returned
  | stageInterrupted _ raised =>
      rw [Reaction.addReturned_add_iff, raised] at returned
      cases returned
  | taskRecorded collected =>
      exact tracks.recordTask (collectedTask_of_ok collected) env _
  | stageRecorded collected =>
      obtain ⟨first, rest, shape, _⟩ := (collectedStage_of_ok collected).head
      exact tracks.recordStage (by simp [shape]) _ _

/-- An undisturbed run keeps track from the start. -/
theorem tracks_after
    (batchSize batchTime created : Int)
    (inputs : List (ListenerEnvironment × SparkListenerEvent))
    (returned :
      ∀ reaction ∈
          listenerMachine.outputs (create batchSize batchTime created) inputs,
        reaction.AddReturned)
    (listed : Along TaskListed [] (inputs.map Prod.snd)) :
    Tracks (inputs.map Prod.snd)
      (listenerMachine.after
        (create batchSize batchTime created) inputs) := by
  revert returned listed
  refine listenerMachine.run_induction
    (motive := fun inputs reactions listener =>
      (∀ reaction ∈ reactions, reaction.AddReturned) →
        Along TaskListed [] (inputs.map Prod.snd) →
          Tracks (inputs.map Prod.snd) listener)
    ?_ ?_ inputs
  · intro _ _
    refine ⟨?_, rfl, rfl, rfl⟩
    intro stageId
    exact iff_of_false (by simp [create]) Since.not_nil
  · intro inputs input inductionHypothesis returned listed
    rcases input with ⟨env, event⟩
    rw [List.forall_mem_append] at returned
    rw [List.map_append, along_append] at listed
    rw [List.map_append]
    have tracks := inductionHypothesis returned.1 listed.1
    exact tracks_next tracks (returned.2 _ (List.Mem.head _)) listed.2.1

end Runs

end SparkObservability
