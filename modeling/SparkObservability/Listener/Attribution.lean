import SparkObservability.History
import SparkObservability.Listener.Callbacks

/-!
# Which job a record is attributed to

Along every run the mapping only knows the most recent job that listed a
stage, and the buffer only knows jobs and stages of task records that were
passed to the client.  Both survive callbacks that raise halfway.
-/

namespace SparkObservability

open CustomMetricsListener

namespace SparkListenerEvent

/-- The event starts a job that lists the stage. -/
def Lists (stageId : Int) : SparkListenerEvent → Prop
  | .jobStart started => stageId ∈ started.stageIds
  | _ => False

/-- The event starts the given job, which lists the stage. -/
def ListsFor (stageId : Int) (jobId : String) : SparkListenerEvent → Prop
  | .jobStart started =>
      stageId ∈ started.stageIds ∧ toString started.jobId = jobId
  | _ => False

instance (stageId : Int) (event : SparkListenerEvent) :
    Decidable (event.Lists stageId) :=
  match event with
  | .applicationStart => instDecidableFalse
  | .applicationEnd => instDecidableFalse
  | .jobStart started =>
      inferInstanceAs (Decidable (stageId ∈ started.stageIds))
  | .jobEnd => instDecidableFalse
  | .stageCompleted _ => instDecidableFalse
  | .taskEnd _ => instDecidableFalse

theorem Unmeasured.not_lists {event : SparkListenerEvent}
    (unmeasured : event.Unmeasured) (stageId : Int) :
    ¬ event.Lists stageId := by
  cases event <;> first | exact id | exact unmeasured.elim

end SparkListenerEvent

/-- The most recent job start of the history that lists the stage is that of
the given job. -/
def MostRecentJob
    (history : List SparkListenerEvent) (stageId : Int) (jobId : String) :
    Prop :=
  Since (fun _ event => event.ListsFor stageId jobId)
    (fun _ event => event.Lists stageId) history

theorem MostRecentJob.exists_event
    {history : List SparkListenerEvent} {stageId : Int} {jobId : String}
    (mostRecent : MostRecentJob history stageId jobId) :
    ∃ event ∈ history, event.ListsFor stageId jobId := by
  obtain ⟨before, event, later, rfl, listed⟩ := mostRecent.exists_opening
  exact ⟨event, by simp, listed⟩

theorem MostRecentJob.concat
    {history : List SparkListenerEvent} {stageId : Int} {jobId : String}
    (mostRecent : MostRecentJob history stageId jobId)
    {event : SparkListenerEvent} (notListed : ¬ event.Lists stageId) :
    MostRecentJob (history ++ [event]) stageId jobId :=
  (Since.concat_iff history event).2 (Or.inr ⟨mostRecent, notListed⟩)

theorem foldl_update_apply
    (stageIds : List Int) (jobId : String)
    (mapping : Int → Option String) (stageId : Int) :
    stageIds.foldl
        (fun mapping stageId => Function.update mapping stageId (some jobId))
        mapping stageId =
      if stageId ∈ stageIds then some jobId else mapping stageId := by
  induction stageIds generalizing mapping with
  | nil => simp
  | cons first rest inductionHypothesis =>
      rw [List.foldl_cons, inductionHypothesis]
      by_cases inRest : stageId ∈ rest
      · simp [inRest]
      · by_cases isFirst : stageId = first
        · simp [isFirst]
        · simp [inRest, isFirst]

/-- A started job takes over the stages it lists and no others. -/
theorem onJobStart_mapping
    (listener : CustomMetricsListener) (jobStart : SparkListenerJobStart)
    (stageId : Int) :
    (listener.onJobStart jobStart).1.stageToJobMapping stageId =
      if stageId ∈ jobStart.stageIds then
        some (toString jobStart.jobId)
      else
        listener.stageToJobMapping stageId :=
  foldl_update_apply jobStart.stageIds (toString jobStart.jobId)
    listener.stageToJobMapping stageId

/-- Some passed task record has the given job and stage. -/
def PassedTask
    (passed : List CustomMetrics) (jobId : String) (stageId : Int) : Prop :=
  ∃ task, CustomMetrics.task task ∈ passed ∧
    task.jobId = jobId ∧ task.stageId = stageId

theorem PassedTask.append
    {passed : List CustomMetrics} {jobId : String} {stageId : Int}
    (known : PassedTask passed jobId stageId) (more : List CustomMetrics) :
    PassedTask (passed ++ more) jobId stageId := by
  obtain ⟨task, member, fields⟩ := known
  exact ⟨task, List.mem_append_left more member, fields⟩

/-- What a record may say about jobs and stages, given the events and the
passed records before it. -/
def Attributed
    (history : List SparkListenerEvent) (passed : List CustomMetrics) :
    CustomMetrics → Prop
  | .task metrics => MostRecentJob history metrics.stageId metrics.jobId
  | .lightTask _ => False
  | .stageAgg metrics => PassedTask passed metrics.jobId metrics.stageId

/-- The job of a record was started with the stage of the record. -/
def NamesListedJob (history : List SparkListenerEvent) :
    CustomMetrics → Prop
  | .task metrics =>
      ∃ event ∈ history, event.ListsFor metrics.stageId metrics.jobId
  | .lightTask metrics =>
      ∃ event ∈ history, event.ListsFor metrics.stageId metrics.jobId
  | .stageAgg metrics =>
      ∃ event ∈ history, event.ListsFor metrics.stageId metrics.jobId

theorem NamesListedJob.append
    {history : List SparkListenerEvent} {record : CustomMetrics}
    (listed : NamesListedJob history record)
    (more : List SparkListenerEvent) :
    NamesListedJob (history ++ more) record := by
  cases record <;>
    obtain ⟨event, member, lists⟩ := listed <;>
    exact ⟨event, List.mem_append_left more member, lists⟩

theorem Attributed.namesListedJob
    {history : List SparkListenerEvent} {passed : List CustomMetrics}
    (earlier : ∀ record ∈ passed, NamesListedJob history record)
    {record : CustomMetrics}
    (attributed : Attributed history passed record) :
    NamesListedJob history record := by
  cases record with
  | task metrics => exact MostRecentJob.exists_event attributed
  | lightTask metrics => exact attributed.elim
  | stageAgg metrics =>
      obtain ⟨task, member, sameJob, sameStage⟩ := attributed
      obtain ⟨event, inHistory, lists⟩ := earlier (.task task) member
      rw [sameJob, sameStage] at lists
      exact ⟨event, inHistory, lists⟩

/-- The invariant of the listener: what it knows is backed by the events and
by the records passed so far. -/
structure Backed
    (history : List SparkListenerEvent) (passed : List CustomMetrics)
    (listener : CustomMetricsListener) : Prop where
  mapping :
    ∀ stageId jobId, listener.stageToJobMapping stageId = some jobId →
      MostRecentJob history stageId jobId
  buffer :
    ∀ metrics ∈ listener.taskMetricsBuffer,
      PassedTask passed metrics.jobId metrics.stageId
  passed : ∀ record ∈ passed, NamesListedJob history record

section Runs

variable [Gson CustomMetrics]

/-- Every record that a callback passes is attributed. -/
theorem attributed_of_passed
    {history : List SparkListenerEvent} {passed : List CustomMetrics}
    {listener : CustomMetricsListener}
    (backed : Backed history passed listener)
    {env : ListenerEnvironment} {event : SparkListenerEvent}
    {record : CustomMetrics}
    (isPassed :
      record ∈ (listenerMachine.output listener (env, event)).passed) :
    Attributed history passed record := by
  have step := listenerStep env listener event
  generalize listenerMachine.next listener (env, event) = next,
    listenerMachine.output listener (env, event) = answer
    at step isPassed
  have ofTask {taskEnded : SparkListenerTaskEnd} {metrics : CustomTaskMetrics}
      (collected :
        listener.collectTaskCustomMetrics env taskEnded = .ok metrics) :
      Attributed history passed (.task metrics) := by
    have fields := collectedTask_of_ok collected
    apply backed.mapping
    rw [fields.stageId]
    exact fields.jobId
  have ofStage {metrics : CustomStageAggMetrics}
      (collected : listener.collectStageCustomMetrics env = .ok metrics) :
      Attributed history passed (.stageAgg metrics) := by
    obtain ⟨first, rest, shape, _, _, sameJob, sameStage⟩ :=
      (collectedStage_of_ok collected).head
    have known := backed.buffer first (by simp [shape])
    rw [← sameJob, ← sameStage] at known
    exact known
  cases step with
  | jobStarted => exact absurd isPassed List.not_mem_nil
  | unmeasured _ noRecord =>
      change record ∈ addedRecords [_] at isPassed
      rw [noRecord] at isPassed
      exact absurd isPassed List.not_mem_nil
  | taskRejected => exact absurd isPassed List.not_mem_nil
  | stageRejected => exact absurd isPassed List.not_mem_nil
  | taskInterrupted collected =>
      rw [List.mem_singleton.1 isPassed]
      exact ofTask collected
  | stageInterrupted collected =>
      rw [List.mem_singleton.1 isPassed]
      exact ofStage collected
  | taskRecorded collected =>
      rw [List.mem_singleton.1 isPassed]
      exact ofTask collected
  | stageRecorded collected =>
      rw [List.mem_singleton.1 isPassed]
      exact ofStage collected

/-- A callback keeps what the mapping knows backed. -/
theorem mapping_next
    {history : List SparkListenerEvent} {listener : CustomMetricsListener}
    (mapping :
      ∀ stageId jobId, listener.stageToJobMapping stageId = some jobId →
        MostRecentJob history stageId jobId)
    (env : ListenerEnvironment) (event : SparkListenerEvent)
    (stageId : Int) (jobId : String)
    (mapped :
      (listenerMachine.next listener (env, event)).stageToJobMapping stageId =
        some jobId) :
    MostRecentJob (history ++ [event]) stageId jobId := by
  have step := listenerStep env listener event
  generalize listenerMachine.next listener (env, event) = next,
    listenerMachine.output listener (env, event) = answer
    at step mapped
  cases step with
  | jobStarted jobStart =>
      have started :=
        (onJobStart_mapping listener jobStart stageId).symm.trans mapped
      by_cases listed : stageId ∈ jobStart.stageIds
      · rw [if_pos listed] at started
        apply (Since.concat_iff history _).2
        exact Or.inl ⟨listed, Option.some.inj started⟩
      · rw [if_neg listed] at started
        exact (mapping stageId jobId started).concat listed
  | unmeasured unmeasured =>
      exact (mapping stageId jobId mapped).concat
        (unmeasured.not_lists stageId)
  | taskRejected => exact (mapping stageId jobId mapped).concat id
  | stageRejected => exact (mapping stageId jobId mapped).concat id
  | taskInterrupted => exact (mapping stageId jobId mapped).concat id
  | stageInterrupted => exact (mapping stageId jobId mapped).concat id
  | taskRecorded => exact (mapping stageId jobId mapped).concat id
  | @stageRecorded stageCompleted =>
      by_cases isCompleted : stageId = stageCompleted.stageId
      · simp [isCompleted] at mapped
      · simp only [Function.update_of_ne isCompleted] at mapped
        exact (mapping stageId jobId mapped).concat id

/-- A callback only buffers light metrics of a task it passed. -/
theorem buffer_next
    {passed : List CustomMetrics} {listener : CustomMetricsListener}
    (buffer :
      ∀ metrics ∈ listener.taskMetricsBuffer,
        PassedTask passed metrics.jobId metrics.stageId)
    (env : ListenerEnvironment) (event : SparkListenerEvent)
    (metrics : CustomLightTaskMetrics)
    (member :
      metrics ∈
        (listenerMachine.next listener (env, event)).taskMetricsBuffer) :
    PassedTask
      (passed ++ (listenerMachine.output listener (env, event)).passed)
      metrics.jobId metrics.stageId := by
  have step := listenerStep env listener event
  generalize listenerMachine.next listener (env, event) = next,
    listenerMachine.output listener (env, event) = answer
    at step member ⊢
  cases step with
  | jobStarted => exact (buffer metrics member).append _
  | unmeasured => exact (buffer metrics member).append _
  | taskRejected => exact (buffer metrics member).append _
  | stageRejected => exact (buffer metrics member).append _
  | taskInterrupted => exact (buffer metrics member).append _
  | stageInterrupted => exact (buffer metrics member).append _
  | @taskRecorded taskEnded task =>
      rcases List.mem_append.1 member with inBuffer | isNew
      · exact (buffer metrics inBuffer).append _
      · rw [List.mem_singleton.1 isNew]
        exact ⟨task, List.mem_append_right _ (List.Mem.head _), rfl, rfl⟩
  | stageRecorded => exact absurd member List.not_mem_nil

theorem backed_after
    (batchSize batchTime created : Int)
    (inputs : List (ListenerEnvironment × SparkListenerEvent)) :
    Backed (inputs.map Prod.snd)
      (passedRecords
        (listenerMachine.outputs (create batchSize batchTime created) inputs))
      (listenerMachine.after (create batchSize batchTime created) inputs) := by
  refine listenerMachine.run_induction
    (motive := fun inputs reactions listener =>
      Backed (inputs.map Prod.snd) (passedRecords reactions) listener)
    ?_ ?_ inputs
  · refine ⟨?_, ?_, ?_⟩
    · intro stageId jobId mapped
      cases mapped
    · intro metrics member
      exact absurd member List.not_mem_nil
    · intro record member
      exact absurd member List.not_mem_nil
  · intro inputs input backed
    rcases input with ⟨env, event⟩
    have passedShape (reactions : List Reaction) (reaction : Reaction) :
        passedRecords (reactions ++ [reaction]) =
          passedRecords reactions ++ reaction.passed := by
      simp [passedRecords]
    rw [List.map_append, passedShape]
    refine ⟨mapping_next backed.mapping env event,
      buffer_next backed.buffer env event, ?_⟩
    intro record member
    rcases List.mem_append.1 member with earlier | isPassed
    · exact (backed.passed record earlier).append _
    · have attributed := attributed_of_passed backed isPassed
      exact (attributed.namesListedJob backed.passed).append _

/-- In every run, whatever the order of the events and whatever the callbacks
raise, a passed task record carries the most recent job that listed its stage
before it, a passed stage record carries the job and the stage of a task
record passed before it, and both name a job that listed their stage. -/
theorem job_attribution_sound
    (batchSize batchTime created : Int)
    (inputs : List (ListenerEnvironment × SparkListenerEvent)) :
    ∀ before env event later,
      inputs = before ++ (env, event) :: later →
        ∀ record ∈
            (listenerMachine.output
              (listenerMachine.after
                (create batchSize batchTime created) before)
              (env, event)).passed,
          Attributed (before.map Prod.snd)
              (passedRecords
                (listenerMachine.outputs
                  (create batchSize batchTime created) before))
              record ∧
            NamesListedJob (before.map Prod.snd) record := by
  intro before env event later _ record isPassed
  have backed := backed_after batchSize batchTime created before
  have attributed := attributed_of_passed backed isPassed
  exact ⟨attributed, attributed.namesListedJob backed.passed⟩

end Runs

/-- An event that arrives `seconds` seconds after the epoch. -/
def arriving (seconds : Int) (event : SparkListenerEvent) :
    ListenerEnvironment × SparkListenerEvent :=
  (.running (seconds * nanosPerSecond) (.response 200 none), event)

/-- A finished task that read the given number of bytes and wrote none. -/
def finishedTask (stageId stageAttemptId bytesRead : Int) :
    SparkListenerEvent :=
  .taskEnd
    { stageId := stageId
      stageAttemptId := stageAttemptId
      taskInfo := ⟨"0.0", "1", 0⟩
      taskMetrics :=
        some ⟨1, 1, 1, ⟨bytesRead, 1⟩, ⟨0, 0⟩, ⟨0, 0⟩, ⟨0, 0⟩⟩ }

theorem job_attribution_sound_first_task :
    letI := plainMetricsGson
    let started := arriving 11 (.jobStart ⟨7, [1]⟩)
    let finished := arriving 12 (finishedTask 1 0 5)
    let before := listenerMachine.after (create 100 10 0) [started]
    let record : CustomMetrics :=
      .task
        ⟨"app", "app-1", "7", 1, 0, "0.0", "1", 0, 5, 1, 1, 1, 1, 0, 0, 0, 0,
          0, 0, 12000⟩
    record ∈ (listenerMachine.output before finished).passed ∧
      Attributed [started.2] [] record ∧
      NamesListedJob [started.2] record := by
  let gson := plainMetricsGson
  intro started finished before record
  have isPassed :
      record ∈ (listenerMachine.output before finished).passed := by
    decide +kernel
  have sound :=
    job_attribution_sound 100 10 0 [started, finished] [started] finished.1
      finished.2 [] rfl record isPassed
  exact ⟨isPassed, sound⟩

end SparkObservability
