import SparkObservability.Listener.Tracking

/-!
# Stage records and concurrent stages

All stages share one buffer, which every completion aggregates and clears as
a whole.  As long as each completion finds only tasks of its own stage there,
the record of a stage aggregates exactly the tasks of that stage; a task of
another stage in the buffer is enough to mix two stages up.
-/

namespace SparkObservability

open CustomMetricsListener

/-! ## Stages of a run -/

def SparkListenerEvent.endedTask? :
    SparkListenerEvent → Option SparkListenerTaskEnd
  | .taskEnd ended => some ended
  | _ => none

/-- The tasks of a stage that end in a run, in order. -/
def tasksOf (stageId : Int) (events : List SparkListenerEvent) :
    List SparkListenerTaskEnd :=
  (events.filterMap SparkListenerEvent.endedTask?).filter
    (·.stageId = stageId)

@[simp]
theorem tasksOf_append
    (stageId : Int) (first second : List SparkListenerEvent) :
    tasksOf stageId (first ++ second) =
      tasksOf stageId first ++ tasksOf stageId second := by
  simp [tasksOf]

instance (stageId : Int) (event : SparkListenerEvent) :
    Decidable (event.Completes stageId) :=
  match event with
  | .applicationStart => instDecidableFalse
  | .applicationEnd => instDecidableFalse
  | .jobStart _ => instDecidableFalse
  | .jobEnd => instDecidableFalse
  | .stageCompleted completed =>
      inferInstanceAs (Decidable (completed.stageId = stageId))
  | .taskEnd _ => instDecidableFalse

/-- Stages run in one attempt: a task ends with metrics, after a job start
that lists its stage and before the completion of the stage, which comes once
and after at least one task. -/
def InOneAttempt (history : List SparkListenerEvent) :
    SparkListenerEvent → Prop
  | .taskEnd taskEnded =>
      taskEnded.taskMetrics.isSome ∧
        (∃ event ∈ history, event.Lists taskEnded.stageId) ∧
        ∀ event ∈ history, ¬ event.Completes taskEnded.stageId
  | .stageCompleted stageCompleted =>
      tasksOf stageCompleted.stageId history ≠ [] ∧
        ∀ event ∈ history, ¬ event.Completes stageCompleted.stageId
  | _ => True

instance (history : List SparkListenerEvent) (event : SparkListenerEvent) :
    Decidable (InOneAttempt history event) :=
  match event with
  | .applicationStart => instDecidableTrue
  | .applicationEnd => instDecidableTrue
  | .jobStart _ => instDecidableTrue
  | .jobEnd => instDecidableTrue
  | .stageCompleted _ => inferInstanceAs (Decidable (_ ∧ _))
  | .taskEnd _ => inferInstanceAs (Decidable (_ ∧ _))

/-- A completion comes when only tasks of its own stage are pending. -/
def OnlyOwnTasksPending (history : List SparkListenerEvent) :
    SparkListenerEvent → Prop
  | .stageCompleted stageCompleted =>
      ∀ task ∈ pendingTasks history, task.stageId = stageCompleted.stageId
  | _ => True

instance (history : List SparkListenerEvent) (event : SparkListenerEvent) :
    Decidable (OnlyOwnTasksPending history event) :=
  match event with
  | .applicationStart => instDecidableTrue
  | .applicationEnd => instDecidableTrue
  | .jobStart _ => instDecidableTrue
  | .jobEnd => instDecidableTrue
  | .stageCompleted _ => inferInstanceAs (Decidable (∀ _ ∈ _, _))
  | .taskEnd _ => instDecidableTrue

/-- A stage that is listed and not yet completed is listed since then. -/
theorem listed_of_not_completed
    {history : List SparkListenerEvent} {stageId : Int}
    (someJob : ∃ event ∈ history, event.Lists stageId)
    (notCompleted : ∀ event ∈ history, ¬ event.Completes stageId) :
    Listed history stageId := by
  obtain ⟨listing, member, lists⟩ := someJob
  obtain ⟨before, later, shape⟩ := List.mem_iff_append.1 member
  apply Since.of_never_closes shape lists
  intro earlier closing closingMember closes
  exact notCompleted closing closingMember closes.1

theorem InOneAttempt.taskListed
    {history : List SparkListenerEvent} {event : SparkListenerEvent}
    (inOneAttempt : InOneAttempt history event) :
    TaskListed history event := by
  cases event with
  | taskEnd taskEnded =>
      intro _
      exact listed_of_not_completed inOneAttempt.2.1 inOneAttempt.2.2
  | applicationStart => trivial
  | applicationEnd => trivial
  | jobStart => trivial
  | jobEnd => trivial
  | stageCompleted => trivial

/-- The tasks of a stage that is not yet completed are the pending ones of
that stage. -/
theorem tasksOf_eq_filter_pendingTasks
    {history : List SparkListenerEvent} {stageId : Int}
    (inOneAttempt : Along InOneAttempt [] history)
    (isolated : Along OnlyOwnTasksPending [] history)
    (notCompleted : ∀ event ∈ history, ¬ event.Completes stageId) :
    tasksOf stageId history =
      (pendingTasks history).filter (·.stageId = stageId) := by
  induction history using List.reverseRecOn with
  | nil => rfl
  | append_singleton history event inductionHypothesis =>
      rw [along_append] at inOneAttempt isolated
      rw [List.forall_mem_append] at notCompleted
      have earlier :=
        inductionHypothesis inOneAttempt.1 isolated.1 notCompleted.1
      have attempt : InOneAttempt history event := inOneAttempt.2.1
      have own : OnlyOwnTasksPending history event := isolated.2.1
      have open_ : ¬ event.Completes stageId :=
        notCompleted.2 event (List.Mem.head _)
      rw [tasksOf_append, pendingTasks_concat, earlier]
      cases event with
      | taskEnd taskEnded =>
          have reported : taskEnded.taskMetrics.isSome := attempt.1
          simp [pendingStep, reported, tasksOf,
            SparkListenerEvent.endedTask?]
      | stageCompleted stageCompleted =>
          have noneOfStage :
              (pendingTasks history).filter (·.stageId = stageId) = [] := by
            rw [List.filter_eq_nil_iff]
            intro task member ofStage
            apply open_
            rw [← of_decide_eq_true ofStage]
            exact (own task member).symm
          rw [noneOfStage]
          rfl
      | applicationStart => exact List.append_nil _
      | applicationEnd => exact List.append_nil _
      | jobStart => exact List.append_nil _
      | jobEnd => exact List.append_nil _

/-- At its completion exactly the tasks of the stage are pending. -/
theorem pendingTasks_at_completion
    {before later : List SparkListenerEvent}
    {stageCompleted : SparkListenerStageCompleted}
    (inOneAttempt :
      Along InOneAttempt [] (before ++ .stageCompleted stageCompleted :: later))
    (isolated :
      Along OnlyOwnTasksPending []
        (before ++ .stageCompleted stageCompleted :: later)) :
    pendingTasks before =
        tasksOf stageCompleted.stageId
          (before ++ .stageCompleted stageCompleted :: later) ∧
      pendingTasks before ≠ [] ∧
      ∀ task ∈ pendingTasks before,
        task.stageId = stageCompleted.stageId := by
  have cuts := (along_iff_cut [] _).1 inOneAttempt
  obtain ⟨someTask, notCompleted⟩ := cuts before _ later rfl
  have own : OnlyOwnTasksPending before (.stageCompleted stageCompleted) :=
    (along_iff_cut [] _).1 isolated before _ later rfl
  have tasksBefore :=
    tasksOf_eq_filter_pendingTasks
      ((along_append [] before _).1 inOneAttempt).1
      ((along_append [] before _).1 isolated).1 notCompleted
  have allOwn :
      (pendingTasks before).filter
          (·.stageId = stageCompleted.stageId) =
        pendingTasks before := by
    rw [List.filter_eq_self]
    intro task member
    exact decide_eq_true (own task member)
  rw [allOwn] at tasksBefore
  have noneLater :
      tasksOf stageCompleted.stageId
        (.stageCompleted stageCompleted :: later) = [] := by
    rw [tasksOf, List.filter_eq_nil_iff]
    intro task member ofStage
    obtain ⟨event, inLater, ended⟩ := List.mem_filterMap.1 member
    cases event with
    | taskEnd taskEnded =>
        cases ended
        rcases List.mem_cons.1 inLater with impossible | inLater
        · cases impossible
        · obtain ⟨between, rest, laterShape⟩ := List.mem_iff_append.1 inLater
          have attempt :=
            cuts (before ++ .stageCompleted stageCompleted :: between)
              (.taskEnd task) rest (by simp [laterShape])
          exact attempt.2.2 (.stageCompleted stageCompleted) (by simp)
            (of_decide_eq_true ofStage).symm
    | applicationStart => cases ended
    | applicationEnd => cases ended
    | jobStart => cases ended
    | jobEnd => cases ended
    | stageCompleted => cases ended
  refine ⟨?_, ?_, own⟩
  · rw [tasksOf_append, noneLater, List.append_nil, tasksBefore]
  · rw [← tasksBefore]
    exact someTask

/-- The record of a stage and of exactly the given tasks. -/
structure AggregatesTasks
    (stageId : Int) (tasks : List SparkListenerTaskEnd)
    (metrics : CustomStageAggMetrics) : Prop where
  stageId : metrics.stageId = stageId
  input :
    aggregateColumn (inputColumn tasks) =
      .ok ⟨metrics.inputBytesReadSkewness, metrics.maxInputBytesRead⟩
  shuffle :
    aggregateColumn (shuffleColumn tasks) =
      .ok ⟨metrics.shuffleBytesReadSkewness, metrics.maxShuffleBytesRead⟩

/-- Which tasks a record aggregates settles its stage and its aggregates. -/
theorem AggregatesTasks.unique
    {stageId : Int} {tasks : List SparkListenerTaskEnd}
    {metrics other : CustomStageAggMetrics}
    (aggregates : AggregatesTasks stageId tasks metrics)
    (otherAggregates : AggregatesTasks stageId tasks other) :
    { other with
      appName := metrics.appName
      appId := metrics.appId
      jobId := metrics.jobId
      metricTime := metrics.metricTime } = metrics := by
  have sameInput :=
    Except.ok.inj (otherAggregates.input.symm.trans aggregates.input)
  have sameShuffle :=
    Except.ok.inj (otherAggregates.shuffle.symm.trans aggregates.shuffle)
  rw [ColumnAggregates.mk.injEq] at sameInput sameShuffle
  have sameStage := otherAggregates.stageId.trans aggregates.stageId.symm
  cases metrics
  cases other
  simp_all only

/-- A tracking listener that collects a stage aggregates the pending tasks. -/
theorem aggregatesTasks_of_collected
    {history : List SparkListenerEvent} {listener : CustomMetricsListener}
    (tracks : Tracks history listener) {stageId : Int}
    (own : ∀ task ∈ pendingTasks history, task.stageId = stageId)
    {metrics : CustomStageAggMetrics}
    (collected : CollectedStage listener.taskMetricsBuffer metrics) :
    AggregatesTasks stageId (pendingTasks history) metrics := by
  refine ⟨?_, ?_, ?_⟩
  · obtain ⟨first, rest, shape, _, _, _, sameStage⟩ := collected.head
    have inBuffer :
        metrics.stageId ∈ listener.taskMetricsBuffer.map (·.stageId) := by
      rw [shape, sameStage]
      exact List.Mem.head _
    rw [tracks.stages] at inBuffer
    obtain ⟨task, member, taskStage⟩ := List.mem_map.1 inBuffer
    rw [← taskStage]
    exact own task member
  · rw [← tracks.input]
    exact collected.input
  · rw [← tracks.shuffle]
    exact collected.shuffle

section Runs

variable [Gson CustomMetrics]

/-- How a completion ends, unless `client.add` raises: it raises itself if no
task is pending, and otherwise it records the stage and forgets it. -/
theorem stageCompleted_ends
    {history : List SparkListenerEvent} {listener : CustomMetricsListener}
    (tracks : Tracks history listener)
    {env : ListenerEnvironment}
    {stageCompleted : SparkListenerStageCompleted}
    (returned :
      (listenerMachine.output listener
        (env, .stageCompleted stageCompleted)).AddReturned) :
    (pendingTasks history = [] ∧
        (listenerMachine.output listener
          (env, .stageCompleted stageCompleted)).raised ≠ none) ∨
      (pendingTasks history ≠ [] ∧
        (listenerMachine.output listener
            (env, .stageCompleted stageCompleted)).raised = none ∧
        (listenerMachine.next listener
            (env, .stageCompleted stageCompleted)).taskMetricsBuffer = [] ∧
        (listenerMachine.next listener
            (env, .stageCompleted stageCompleted)).stageToJobMapping
          stageCompleted.stageId = none ∧
        ∃ metrics,
          (listenerMachine.output listener
              (env, .stageCompleted stageCompleted)).passed =
            [.stageAgg metrics] ∧
            CollectedStage listener.taskMetricsBuffer metrics) := by
  have step := listenerStep env listener (.stageCompleted stageCompleted)
  generalize
    listenerMachine.next listener (env, .stageCompleted stageCompleted) = next,
    listenerMachine.output listener (env, .stageCompleted stageCompleted) =
      answer
    at step returned ⊢
  cases step with
  | unmeasured unmeasured => exact unmeasured.elim
  | stageRejected rejected =>
      refine Or.inl ⟨?_, Option.some_ne_none _⟩
      by_contra pending
      have nonempty := mt tracks.buffer_eq_nil_iff.1 pending
      obtain ⟨metrics, collected, _⟩ := collectStage_of_nonempty env nonempty
      rw [collected] at rejected
      cases rejected
  | stageInterrupted _ raised =>
      rw [Reaction.addReturned_add_iff, raised] at returned
      cases returned
  | @stageRecorded _ metrics collected =>
      have recorded := collectedStage_of_ok collected
      refine
        Or.inr
          ⟨?_, rfl, rfl, Function.update_self _ _ _, metrics, rfl, recorded⟩
      obtain ⟨first, rest, shape, _⟩ := recorded.head
      exact mt tracks.buffer_eq_nil_iff.2 (by simp [shape])

/-- A tracking listener with pending tasks records a completed stage, unless
`client.add` raises. -/
theorem stage_recorded
    {history : List SparkListenerEvent} {listener : CustomMetricsListener}
    (tracks : Tracks history listener)
    (pending : pendingTasks history ≠ [])
    {env : ListenerEnvironment}
    {stageCompleted : SparkListenerStageCompleted}
    (returned :
      (listenerMachine.output listener
        (env, .stageCompleted stageCompleted)).AddReturned) :
    ∃ metrics,
      (listenerMachine.output listener
          (env, .stageCompleted stageCompleted)).passed =
        [.stageAgg metrics] ∧
        CollectedStage listener.taskMetricsBuffer metrics := by
  rcases stageCompleted_ends tracks returned with
    ⟨nothing, _⟩ | ⟨_, _, _, _, recorded⟩
  · exact absurd nothing pending
  · exact recorded

/-- Stage isolation: in a run in which stages run in one attempt, every
`client.add` returns and every completion finds only tasks of its own stage
pending, the completion of a stage passes one record, which aggregates
exactly the tasks of the stage and is determined by them. -/
theorem stage_records_isolated
    (batchSize batchTime created : Int)
    (inputs : List (ListenerEnvironment × SparkListenerEvent))
    (inOneAttempt : Along InOneAttempt [] (inputs.map Prod.snd))
    (returned :
      ∀ reaction ∈
          listenerMachine.outputs (create batchSize batchTime created) inputs,
        reaction.AddReturned)
    (isolated : Along OnlyOwnTasksPending [] (inputs.map Prod.snd))
    (before : List (ListenerEnvironment × SparkListenerEvent))
    (env : ListenerEnvironment)
    (stageCompleted : SparkListenerStageCompleted)
    (later : List (ListenerEnvironment × SparkListenerEvent))
    (shape : inputs = before ++ (env, .stageCompleted stageCompleted) :: later) :
    ∃ metrics,
      (listenerMachine.output
          (listenerMachine.after (create batchSize batchTime created) before)
          (env, .stageCompleted stageCompleted)).passed =
        [.stageAgg metrics] ∧
      AggregatesTasks stageCompleted.stageId
        (tasksOf stageCompleted.stageId (inputs.map Prod.snd)) metrics ∧
      ∀ other,
        AggregatesTasks stageCompleted.stageId
            (tasksOf stageCompleted.stageId (inputs.map Prod.snd)) other →
          { other with
            appName := metrics.appName
            appId := metrics.appId
            jobId := metrics.jobId
            metricTime := metrics.metricTime } = metrics := by
  have eventsShape :
      inputs.map Prod.snd =
        before.map Prod.snd ++
          .stageCompleted stageCompleted :: later.map Prod.snd := by
    simp [shape]
  rw [eventsShape] at inOneAttempt isolated ⊢
  rw [shape, Machine.outputs_append, Machine.outputs_cons,
    List.forall_mem_append, List.forall_mem_cons] at returned
  obtain ⟨samePending, somePending, own⟩ :=
    pendingTasks_at_completion inOneAttempt isolated
  have listed : Along TaskListed [] (before.map Prod.snd) :=
    ((along_append [] _ _).1 inOneAttempt).1.mono
      fun _ _ => InOneAttempt.taskListed
  have tracks :=
    tracks_after batchSize batchTime created before returned.1 listed
  obtain ⟨metrics, passed, collected⟩ :=
    stage_recorded tracks somePending returned.2.1
  have aggregates := aggregatesTasks_of_collected tracks own collected
  rw [← samePending]
  exact ⟨metrics, passed, aggregates, fun _ => aggregates.unique⟩

end Runs

/-- Two stages of one job interleave, and the second completes first. -/
def interleavedStages : List (ListenerEnvironment × SparkListenerEvent) :=
  [arriving 11 (.jobStart ⟨7, [1, 2]⟩), arriving 12 (finishedTask 1 0 5),
    arriving 13 (finishedTask 2 0 9), arriving 14 (.stageCompleted ⟨2⟩),
    arriving 15 (.stageCompleted ⟨1⟩)]

/-- The completion of stage 2 passes a record of both tasks under the name of
stage 1, and the completion of stage 1 has nothing left to aggregate. -/
theorem interleaved_stages_mixed :
    letI := plainMetricsGson
    let listener := create 100 60 0
    let mixed : CustomStageAggMetrics :=
      ⟨"app", "app-1", "7", 1, 1 / 2, 9, 0, 0, 14000⟩
    Along InOneAttempt [] (interleavedStages.map Prod.snd) ∧
      (∀ reaction ∈ listenerMachine.outputs listener interleavedStages,
        reaction.AddReturned) ∧
      (listenerMachine.output
          (listenerMachine.after listener (interleavedStages.take 3))
          (arriving 14 (.stageCompleted ⟨2⟩))).passed = [.stageAgg mixed] ∧
      ¬ AggregatesTasks 2 (tasksOf 2 (interleavedStages.map Prod.snd)) mixed ∧
      (listenerMachine.output
          (listenerMachine.after listener (interleavedStages.take 4))
          (arriving 15 (.stageCompleted ⟨1⟩))).raised =
        some .emptyCollection := by
  let gson := plainMetricsGson
  refine ⟨by decide +kernel, by decide +kernel, by decide +kernel, ?_,
    by decide +kernel⟩
  intro aggregates
  have sameStage := aggregates.stageId
  revert sameStage
  decide

/-- Two stages of one job, one after the other. -/
def sequentialStages : List (ListenerEnvironment × SparkListenerEvent) :=
  [arriving 11 (.jobStart ⟨7, [1, 2]⟩), arriving 12 (finishedTask 1 0 5),
    arriving 13 (.stageCompleted ⟨1⟩), arriving 14 (finishedTask 2 0 9),
    arriving 15 (.stageCompleted ⟨2⟩)]

theorem stage_records_isolated_sequential :
    letI := plainMetricsGson
    ∃ metrics,
      (listenerMachine.output
          (listenerMachine.after (create 100 60 0) (sequentialStages.take 4))
          (arriving 15 (.stageCompleted ⟨2⟩))).passed =
        [.stageAgg metrics] ∧
      AggregatesTasks 2 (tasksOf 2 (sequentialStages.map Prod.snd)) metrics ∧
      ∀ other,
        AggregatesTasks 2 (tasksOf 2 (sequentialStages.map Prod.snd)) other →
          { other with
            appName := metrics.appName
            appId := metrics.appId
            jobId := metrics.jobId
            metricTime := metrics.metricTime } = metrics :=
  letI := plainMetricsGson
  stage_records_isolated 100 60 0 sequentialStages (by decide +kernel)
    (by decide +kernel) (by decide +kernel) (sequentialStages.take 4) _ ⟨2⟩ []
    rfl

end SparkObservability
