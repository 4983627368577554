import SparkObservability.Listener.Attribution

/-!
# Delivery and measurement

Two runs see the same Spark events, but their clients meet different outcomes
and clocks.  As long as no client gives up a record that a callback adds, the
two listeners measure the same.  A client that gives up interrupts the
callback, and what the callback leaves undone shows in later records.
-/

namespace SparkObservability

open CustomMetricsListener

/-! ## Equality up to time -/

def CustomTaskMetrics.untimed (metrics : CustomTaskMetrics) :
    CustomTaskMetrics :=
  { metrics with metricTime := 0 }

def CustomLightTaskMetrics.untimed (metrics : CustomLightTaskMetrics) :
    CustomLightTaskMetrics :=
  { metrics with metricTime := 0 }

def CustomStageAggMetrics.untimed (metrics : CustomStageAggMetrics) :
    CustomStageAggMetrics :=
  { metrics with metricTime := 0 }

/-- A record without its `metricTime`. -/
def CustomMetrics.untimed : CustomMetrics → CustomMetrics
  | .task metrics => .task metrics.untimed
  | .lightTask metrics => .lightTask metrics.untimed
  | .stageAgg metrics => .stageAgg metrics.untimed

/-- Two listeners know the same, up to the times in the buffer. -/
structure SameMeasurements
    (listener other : CustomMetricsListener) : Prop where
  mapping : listener.stageToJobMapping = other.stageToJobMapping
  buffer :
    listener.taskMetricsBuffer.map CustomLightTaskMetrics.untimed =
      other.taskMetricsBuffer.map CustomLightTaskMetrics.untimed

theorem SameMeasurements.column
    {listener other : CustomMetricsListener}
    (same : SameMeasurements listener other)
    (field : CustomLightTaskMetrics → Rat)
    (timeless : ∀ metrics, field metrics.untimed = field metrics) :
    listener.taskMetricsBuffer.map field =
      other.taskMetricsBuffer.map field := by
  have columns := congrArg (List.map field) same.buffer
  simpa [Function.comp_def, timeless] using columns

/-- The same event arrives, and `SparkEnv` reads the same. -/
def SameSparkInput
    (input other : ListenerEnvironment × SparkListenerEvent) : Prop :=
  input.2 = other.2 ∧ input.1.sparkEnv = other.1.sparkEnv

/-! ## Collecting does not depend on the client -/

/-- Both collections fail alike, or both give the same record up to time. -/
inductive SameCollection {Record : Type} (untimed : Record → Record) :
    Except ListenerException Record →
      Except ListenerException Record → Prop
  | rejected (exception : ListenerException) :
      SameCollection untimed (.error exception) (.error exception)
  | collected {record other : Record} (same : untimed record = untimed other) :
      SameCollection untimed (.ok record) (.ok other)

theorem sameCollection_task
    {listener other : CustomMetricsListener}
    (same : SameMeasurements listener other)
    {env otherEnv : ListenerEnvironment}
    (sameSpark : env.sparkEnv = otherEnv.sparkEnv)
    (taskEnded : SparkListenerTaskEnd) :
    SameCollection CustomTaskMetrics.untimed
      (listener.collectTaskCustomMetrics env taskEnded)
      (other.collectTaskCustomMetrics otherEnv taskEnded) := by
  simp only [collectTaskCustomMetrics, same.mapping, sameSpark]
  cases other.stageToJobMapping taskEnded.stageId with
  | none => exact .rejected _
  | some jobId =>
      cases taskEnded.taskMetrics with
      | none => exact .rejected _
      | some taskMetrics => exact .collected rfl

theorem sameCollection_stage
    {listener other : CustomMetricsListener}
    (same : SameMeasurements listener other)
    (env otherEnv : ListenerEnvironment) :
    SameCollection CustomStageAggMetrics.untimed
      (listener.collectStageCustomMetrics env)
      (other.collectStageCustomMetrics otherEnv) := by
  have sameInput :=
    same.column (·.inputBytesRead) fun _ => rfl
  have sameShuffle :=
    same.column (·.shuffleBytesRead) fun _ => rfl
  have sameBuffer := same.buffer
  by_cases empty : listener.taskMetricsBuffer = []
  · have otherEmpty : other.taskMetricsBuffer = [] := by
      simpa [empty, eq_comm] using sameBuffer
    rw [collectStage_of_empty env empty,
      collectStage_of_empty otherEnv otherEmpty]
    exact .rejected _
  · have otherNonempty : other.taskMetricsBuffer ≠ [] := by
      intro otherEmpty
      apply empty
      simpa [otherEmpty] using sameBuffer
    obtain ⟨metrics, collected, fields⟩ := collectStage_of_nonempty env empty
    obtain ⟨otherMetrics, otherCollected, otherFields⟩ :=
      collectStage_of_nonempty otherEnv otherNonempty
    rw [collected, otherCollected]
    apply SameCollection.collected
    obtain ⟨first, rest, shape, name, id, job, stage⟩ := fields.head
    obtain ⟨otherFirst, otherRest, otherShape, otherName, otherId, otherJob,
      otherStage⟩ := otherFields.head
    have input := fields.input
    rw [sameInput, otherFields.input] at input
    have shuffle := fields.shuffle
    rw [sameShuffle, otherFields.shuffle] at shuffle
    rw [shape, otherShape, List.map_cons, List.map_cons] at sameBuffer
    have sameFirst := (List.cons.inj sameBuffer).1
    simp only [CustomLightTaskMetrics.untimed,
      CustomLightTaskMetrics.mk.injEq] at sameFirst
    simp only [Except.ok.injEq, ColumnAggregates.mk.injEq] at input shuffle
    simp only [CustomStageAggMetrics.untimed, name, id, job, stage, otherName,
      otherId, otherJob, otherStage, sameFirst, input, shuffle]

/-- If the callback adds a record, the client does not give it up. -/
def NotGivenUp
    (listener : CustomMetricsListener) :
    ListenerEnvironment × SparkListenerEvent → Prop
  | (env, .taskEnd taskEnded) =>
      ∀ metrics,
        listener.collectTaskCustomMetrics env taskEnded = .ok metrics →
          ¬ (ClientCall.add env.client (.task metrics)).GivesUp
            listener.client
  | (env, .stageCompleted _) =>
      ∀ metrics,
        listener.collectStageCustomMetrics env = .ok metrics →
          ¬ (ClientCall.add env.client (.stageAgg metrics)).GivesUp
            listener.client
  | _ => True

/-- Both callbacks leave the same measurements behind and pass the same
records, up to time. -/
def SameEffect
    (result other : CustomMetricsListener × Reaction) : Prop :=
  SameMeasurements result.1 other.1 ∧
    result.2.passed.map CustomMetrics.untimed =
      other.2.passed.map CustomMetrics.untimed

theorem sameEffect_of_jobStart
    {listener other : CustomMetricsListener}
    (same : SameMeasurements listener other)
    (jobStart : SparkListenerJobStart) :
    SameEffect (listener.onJobStart jobStart) (other.onJobStart jobStart) := by
  refine ⟨⟨?_, same.buffer⟩, rfl⟩
  funext stageId
  rw [onJobStart_mapping, onJobStart_mapping, same.mapping]

theorem passedRecords_untimed_eq
    {reactions others : List Reaction}
    (same :
      List.Forall₂
        (fun reaction other =>
          reaction.passed.map CustomMetrics.untimed =
            other.passed.map CustomMetrics.untimed)
        reactions others) :
    (passedRecords reactions).map CustomMetrics.untimed =
      (passedRecords others).map CustomMetrics.untimed := by
  simp only [passedRecords, List.map_flatMap]
  induction same with
  | nil => rfl
  | cons sameHead _ inductionHypothesis =>
      rw [List.flatMap_cons, List.flatMap_cons, sameHead, inductionHypothesis]

section Runs

variable [Gson CustomMetrics]

theorem notGivenUp_task_iff
    {listener : CustomMetricsListener} {env : ListenerEnvironment}
    {taskEnded : SparkListenerTaskEnd} {metrics : CustomTaskMetrics}
    (collected :
      listener.collectTaskCustomMetrics env taskEnded = .ok metrics) :
    NotGivenUp listener (env, .taskEnd taskEnded) ↔
      ((clientMachine CustomMetrics).output listener.client
        (.add env.client (.task metrics))).raised = none := by
  simp only [NotGivenUp, collected, Except.ok.injEq, forall_eq']
  rw [← raised_ne_none_iff_givesUp, not_not]

theorem notGivenUp_stage_iff
    {listener : CustomMetricsListener} {env : ListenerEnvironment}
    (stageCompleted : SparkListenerStageCompleted)
    {metrics : CustomStageAggMetrics}
    (collected : listener.collectStageCustomMetrics env = .ok metrics) :
    NotGivenUp listener (env, .stageCompleted stageCompleted) ↔
      ((clientMachine CustomMetrics).output listener.client
        (.add env.client (.stageAgg metrics))).raised = none := by
  simp only [NotGivenUp, collected, Except.ok.injEq, forall_eq']
  rw [← raised_ne_none_iff_givesUp, not_not]

/-- The client gives nothing up exactly if `client.add` returns. -/
theorem notGivenUp_iff_addReturned
    (listener : CustomMetricsListener)
    (input : ListenerEnvironment × SparkListenerEvent) :
    NotGivenUp listener input ↔
      (listenerMachine.output listener input).AddReturned := by
  obtain ⟨env, event⟩ := input
  have step := listenerStep env listener event
  generalize listenerMachine.next listener (env, event) = next,
    listenerMachine.output listener (env, event) = answer
    at step ⊢
  cases step with
  | jobStarted => exact iff_of_true trivial (fun passed => absurd rfl passed)
  | unmeasured unmeasured noRecord =>
      refine iff_of_true ?_ (fun passed => absurd noRecord passed)
      cases event <;> trivial
  | taskRejected rejected =>
      refine iff_of_true ?_ (fun passed => absurd rfl passed)
      intro metrics collected
      rw [rejected] at collected
      cases collected
  | stageRejected rejected =>
      refine iff_of_true ?_ (fun passed => absurd rfl passed)
      intro metrics collected
      rw [rejected] at collected
      cases collected
  | taskInterrupted collected =>
      rw [Reaction.addReturned_add_iff, notGivenUp_task_iff collected]
  | stageInterrupted collected =>
      rw [Reaction.addReturned_add_iff, notGivenUp_stage_iff _ collected]
  | taskRecorded collected =>
      rw [Reaction.addReturned_add_iff, notGivenUp_task_iff collected]
  | stageRecorded collected =>
      rw [Reaction.addReturned_add_iff, notGivenUp_stage_iff _ collected]

theorem throughout_notGivenUp
    {listener : CustomMetricsListener}
    {inputs : List (ListenerEnvironment × SparkListenerEvent)}
    (returned :
      ∀ reaction ∈ listenerMachine.outputs listener inputs,
        reaction.AddReturned) :
    listenerMachine.Throughout NotGivenUp listener inputs := by
  induction inputs generalizing listener with
  | nil => trivial
  | cons input rest inductionHypothesis =>
      rw [Machine.outputs_cons, List.forall_mem_cons] at returned
      exact ⟨(notGivenUp_iff_addReturned listener input).2 returned.1,
        inductionHypothesis returned.2⟩

theorem sameEffect_of_unmeasured
    {listener other : CustomMetricsListener}
    (same : SameMeasurements listener other)
    (env otherEnv : ListenerEnvironment)
    {event : SparkListenerEvent} (unmeasured : event.Unmeasured) :
    SameEffect (listenerMachine.step listener (env, event))
      (listenerMachine.step other (otherEnv, event)) := by
  have onlyCalls (listener : CustomMetricsListener)
      (env : ListenerEnvironment) :
      (listenerMachine.next listener (env, event)).stageToJobMapping =
          listener.stageToJobMapping ∧
        (listenerMachine.next listener (env, event)).taskMetricsBuffer =
          listener.taskMetricsBuffer ∧
        (listenerMachine.output listener (env, event)).passed = [] := by
    have step := listenerStep env listener event
    generalize listenerMachine.next listener (env, event) = next,
      listenerMachine.output listener (env, event) = reaction at step ⊢
    cases step with
    | unmeasured _ noRecord => exact ⟨rfl, rfl, noRecord⟩
    | jobStarted => exact unmeasured.elim
    | taskRejected => exact unmeasured.elim
    | stageRejected => exact unmeasured.elim
    | taskInterrupted => exact unmeasured.elim
    | stageInterrupted => exact unmeasured.elim
    | taskRecorded => exact unmeasured.elim
    | stageRecorded => exact unmeasured.elim
  obtain ⟨mapping, buffer, nothing⟩ := onlyCalls listener env
  obtain ⟨otherMapping, otherBuffer, otherNothing⟩ := onlyCalls other otherEnv
  have sameBuffer := same.buffer
  rw [← buffer, ← otherBuffer] at sameBuffer
  refine ⟨⟨?_, sameBuffer⟩, ?_⟩
  · exact mapping.trans (same.mapping.trans otherMapping.symm)
  · exact congrArg (List.map CustomMetrics.untimed)
      (nothing.trans otherNothing.symm)

theorem sameEffect_of_taskEnd
    {listener other : CustomMetricsListener}
    (same : SameMeasurements listener other)
    {env otherEnv : ListenerEnvironment}
    (sameSpark : env.sparkEnv = otherEnv.sparkEnv)
    {taskEnded : SparkListenerTaskEnd}
    (kept : NotGivenUp listener (env, .taskEnd taskEnded))
    (otherKept : NotGivenUp other (otherEnv, .taskEnd taskEnded)) :
    SameEffect (listenerMachine.step listener (env, .taskEnd taskEnded))
      (listenerMachine.step other (otherEnv, .taskEnd taskEnded)) := by
  have collection := sameCollection_task same sameSpark taskEnded
  simp only [listenerMachine, onTaskEnd]
  generalize collected :
      listener.collectTaskCustomMetrics env taskEnded = result,
    otherCollected :
      other.collectTaskCustomMetrics otherEnv taskEnded = otherResult
    at collection ⊢
  cases collection with
  | rejected exception => exact ⟨same, rfl⟩
  | @collected metrics otherMetrics sameMetrics =>
      rw [notGivenUp_task_iff collected] at kept
      rw [notGivenUp_task_iff otherCollected] at otherKept
      dsimp only
      rw [callClient_of_returned kept, callClient_of_returned otherKept]
      refine ⟨⟨same.mapping, ?_⟩, ?_⟩
      · have sameLight :
            (lightMetrics env metrics).untimed =
              (lightMetrics otherEnv otherMetrics).untimed := by
          simp only [CustomTaskMetrics.untimed, CustomTaskMetrics.mk.injEq]
            at sameMetrics
          simp [CustomLightTaskMetrics.untimed, lightMetrics, sameMetrics]
        rw [List.map_append, List.map_append, same.buffer]
        simp [sameLight]
      · exact congrArg (fun record => [CustomMetrics.task record]) sameMetrics

theorem sameEffect_of_stageCompleted
    {listener other : CustomMetricsListener}
    (same : SameMeasurements listener other)
    {env otherEnv : ListenerEnvironment}
    {stageCompleted : SparkListenerStageCompleted}
    (kept : NotGivenUp listener (env, .stageCompleted stageCompleted))
    (otherKept : NotGivenUp other (otherEnv, .stageCompleted stageCompleted)) :
    SameEffect
      (listenerMachine.step listener (env, .stageCompleted stageCompleted))
      (listenerMachine.step other (otherEnv, .stageCompleted stageCompleted)) := by
  have collection := sameCollection_stage same env otherEnv
  simp only [listenerMachine, onStageCompleted]
  generalize collected : listener.collectStageCustomMetrics env = result,
    otherCollected : other.collectStageCustomMetrics otherEnv = otherResult
    at collection ⊢
  cases collection with
  | rejected exception => exact ⟨same, rfl⟩
  | @collected metrics otherMetrics sameMetrics =>
      rw [notGivenUp_stage_iff stageCompleted collected] at kept
      rw [notGivenUp_stage_iff stageCompleted otherCollected] at otherKept
      dsimp only
      rw [callClient_of_returned kept, callClient_of_returned otherKept]
      refine ⟨⟨?_, rfl⟩, ?_⟩
      · change Function.update _ _ _ = Function.update _ _ _
        rw [same.mapping]
      · exact
          congrArg (fun record => [CustomMetrics.stageAgg record]) sameMetrics

/-- One event has the same effect on both listeners, unless a client gives
up. -/
theorem sameEffect_step
    {listener other : CustomMetricsListener}
    (same : SameMeasurements listener other)
    {input otherInput : ListenerEnvironment × SparkListenerEvent}
    (sameInput : SameSparkInput input otherInput)
    (kept : NotGivenUp listener input)
    (otherKept : NotGivenUp other otherInput) :
    SameEffect (listenerMachine.step listener input)
      (listenerMachine.step other otherInput) := by
  obtain ⟨env, event⟩ := input
  obtain ⟨otherEnv, otherEvent⟩ := otherInput
  obtain ⟨sameEvent, sameSpark⟩ := sameInput
  dsimp only at sameEvent sameSpark
  subst sameEvent
  cases event with
  | applicationStart => exact sameEffect_of_unmeasured same env otherEnv trivial
  | applicationEnd => exact sameEffect_of_unmeasured same env otherEnv trivial
  | jobStart jobStart => exact sameEffect_of_jobStart same jobStart
  | jobEnd => exact sameEffect_of_unmeasured same env otherEnv trivial
  | stageCompleted => exact sameEffect_of_stageCompleted same kept otherKept
  | taskEnd => exact sameEffect_of_taskEnd same sameSpark kept otherKept

/-- Two runs over the same Spark events and readings pass the same records up
to time, whatever becomes of the sends and whatever the clocks say, as long
as in neither run the client gives up a record that a callback adds. -/
theorem records_independent_of_delivery
    (batchSize batchTime created : Int)
    (inputs otherInputs : List (ListenerEnvironment × SparkListenerEvent))
    (same : List.Forall₂ SameSparkInput inputs otherInputs)
    (kept :
      listenerMachine.Throughout NotGivenUp
        (create batchSize batchTime created) inputs)
    (otherKept :
      listenerMachine.Throughout NotGivenUp
        (create batchSize batchTime created) otherInputs) :
    (passedRecords
        (listenerMachine.outputs
          (create batchSize batchTime created) inputs)).map
        CustomMetrics.untimed =
      (passedRecords
        (listenerMachine.outputs
          (create batchSize batchTime created) otherInputs)).map
        CustomMetrics.untimed := by
  have start :
      SameMeasurements (create batchSize batchTime created)
        (create batchSize batchTime created) :=
    ⟨rfl, rfl⟩
  have stepSimulates :
      ∀ listener other input otherInput,
        SameMeasurements listener other → SameSparkInput input otherInput →
        NotGivenUp listener input → NotGivenUp other otherInput →
          SameEffect (listenerMachine.step listener input)
            (listenerMachine.step other otherInput) := by
    intro listener other input otherInput sameState sameInput kept otherKept
    exact sameEffect_step sameState sameInput kept otherKept
  have simulated :=
    listenerMachine.simulation listenerMachine
      (fun reaction other : Reaction =>
        reaction.passed.map CustomMetrics.untimed =
          other.passed.map CustomMetrics.untimed)
      stepSimulates same start kept otherKept
  exact passedRecords_untimed_eq simulated.2

end Runs

/-- An event that arrives while the service denies every request. -/
def arrivingDenied (seconds : Int) (event : SparkListenerEvent) :
    ListenerEnvironment × SparkListenerEvent :=
  (.running (seconds * nanosPerSecond) (.failure (some "AccessDenied")), event)

/-- An event that arrives while the service is busy. -/
def arrivingBusy (seconds : Int) (event : SparkListenerEvent) :
    ListenerEnvironment × SparkListenerEvent :=
  (.running (seconds * nanosPerSecond) (.response 503 (some "busy")), event)

/-- A stage of two tasks; what becomes of the first send is left open. -/
def stageOfTwoTasks
    (first : Int → SparkListenerEvent →
      ListenerEnvironment × SparkListenerEvent) :
    List (ListenerEnvironment × SparkListenerEvent) :=
  [arriving 11 (.jobStart ⟨7, [1]⟩), first 12 (finishedTask 1 0 5),
    arriving 13 (finishedTask 1 0 9), arriving 14 (.stageCompleted ⟨1⟩)]

/-- A send that fails for good in the first task makes the record of the
stage forget that task. -/
theorem denied_send_changes_stage_record :
    letI := plainMetricsGson
    let passed (inputs : List (ListenerEnvironment × SparkListenerEvent)) :=
      (passedRecords
        (listenerMachine.outputs (create 1 60 0) inputs)).map
        CustomMetrics.untimed
    List.Forall₂ SameSparkInput (stageOfTwoTasks arriving)
        (stageOfTwoTasks arrivingDenied) ∧
      (passed (stageOfTwoTasks arriving)).drop 2 =
        [.stageAgg ⟨"app", "app-1", "7", 1, 1 / 2, 9, 0, 0, 0⟩] ∧
      (passed (stageOfTwoTasks arrivingDenied)).drop 2 =
        [.stageAgg ⟨"app", "app-1", "7", 1, 0, 9, 0, 0, 0⟩] ∧
      passed (stageOfTwoTasks arriving) ≠
        passed (stageOfTwoTasks arrivingDenied) := by
  let gson := plainMetricsGson
  refine ⟨?_, by decide +kernel, by decide +kernel, by decide +kernel⟩
  simp [stageOfTwoTasks, SameSparkInput, arriving, arrivingDenied,
    ListenerEnvironment.running]

/-- A first send that fails and is retried changes no record. -/
theorem records_independent_of_delivery_busy :
    letI := plainMetricsGson
    (passedRecords
        (listenerMachine.outputs (create 1 60 0)
          (stageOfTwoTasks arriving))).map CustomMetrics.untimed =
      (passedRecords
        (listenerMachine.outputs (create 1 60 0)
          (stageOfTwoTasks arrivingBusy))).map CustomMetrics.untimed := by
  let gson := plainMetricsGson
  apply records_independent_of_delivery 1 60 0
  · simp [stageOfTwoTasks, SameSparkInput, arriving, arrivingBusy,
      ListenerEnvironment.running]
  · apply throughout_notGivenUp
    decide +kernel
  · apply throughout_notGivenUp
    decide +kernel

end SparkObservability
