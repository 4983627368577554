import SparkObservability.Client.Delivery
import SparkObservability.Listener.Operations

/-!
# What one callback of the listener does

The inversion of one step of the listener machine: a callback maps stages,
only calls the client, is rejected before it calls the client, or adds one
record and then either finishes or is interrupted by an exception.
-/

namespace SparkObservability

open CustomMetricsListener

/-! ## Collecting -/

/-- What the metrics of a task take from the listener and from the event. -/
structure CollectedTask
    (listener : CustomMetricsListener) (taskEnded : SparkListenerTaskEnd)
    (metrics : CustomTaskMetrics) : Prop where
  jobId : listener.stageToJobMapping taskEnded.stageId = some metrics.jobId
  stageId : metrics.stageId = taskEnded.stageId
  stageAttemptId : metrics.stageAttemptId = taskEnded.stageAttemptId
  taskMetrics :
    ∃ taskMetrics, taskEnded.taskMetrics = some taskMetrics ∧
      metrics.inputBytesRead = taskMetrics.inputMetrics.bytesRead ∧
      metrics.shuffleBytesRead = taskMetrics.shuffleReadMetrics.totalBytesRead

theorem collectedTask_of_ok
    {env : ListenerEnvironment} {listener : CustomMetricsListener}
    {taskEnded : SparkListenerTaskEnd} {metrics : CustomTaskMetrics}
    (collected :
      listener.collectTaskCustomMetrics env taskEnded = .ok metrics) :
    CollectedTask listener taskEnded metrics := by
  simp only [collectTaskCustomMetrics] at collected
  split at collected
  next => cases collected
  next jobId mapped =>
    split at collected
    next => cases collected
    next taskMetrics reported =>
      cases collected
      exact ⟨mapped, rfl, rfl, taskMetrics, reported, rfl, rfl⟩

/-- A task is collected exactly when its stage is mapped and it reported
metrics. -/
theorem collectTask_ok_iff
    (env : ListenerEnvironment) (listener : CustomMetricsListener)
    (taskEnded : SparkListenerTaskEnd) :
    (∃ metrics,
        listener.collectTaskCustomMetrics env taskEnded = .ok metrics) ↔
      (listener.stageToJobMapping taskEnded.stageId).isSome ∧
        taskEnded.taskMetrics.isSome := by
  simp only [collectTaskCustomMetrics]
  cases mapped : listener.stageToJobMapping taskEnded.stageId with
  | none => simp
  | some jobId =>
      cases reported : taskEnded.taskMetrics with
      | none => simp
      | some taskMetrics => simp

/-- What the metrics of a stage take from the buffer. -/
structure CollectedStage
    (buffer : List CustomLightTaskMetrics)
    (metrics : CustomStageAggMetrics) : Prop where
  head :
    ∃ first rest, buffer = first :: rest ∧
      metrics.appName = first.appName ∧ metrics.appId = first.appId ∧
      metrics.jobId = first.jobId ∧ metrics.stageId = first.stageId
  input :
    aggregateColumn (buffer.map (·.inputBytesRead)) =
      .ok ⟨metrics.inputBytesReadSkewness, metrics.maxInputBytesRead⟩
  shuffle :
    aggregateColumn (buffer.map (·.shuffleBytesRead)) =
      .ok ⟨metrics.shuffleBytesReadSkewness, metrics.maxShuffleBytesRead⟩

theorem exists_aggregateColumn_eq_ok
    {bytesRead : List Rat} (nonempty : bytesRead ≠ []) :
    ∃ aggregates, aggregateColumn bytesRead = .ok aggregates := by
  obtain ⟨first, rest, rfl⟩ := List.exists_cons_of_ne_nil nonempty
  exact ⟨_, rfl⟩

theorem collectStage_of_empty
    (env : ListenerEnvironment) {listener : CustomMetricsListener}
    (empty : listener.taskMetricsBuffer = []) :
    listener.collectStageCustomMetrics env = .error .emptyCollection := by
  simp only [collectStageCustomMetrics, empty]
  rfl

theorem collectStage_of_nonempty
    (env : ListenerEnvironment) {listener : CustomMetricsListener}
    (nonempty : listener.taskMetricsBuffer ≠ []) :
    ∃ metrics,
      listener.collectStageCustomMetrics env = .ok metrics ∧
        CollectedStage listener.taskMetricsBuffer metrics := by
  obtain ⟨first, rest, shape⟩ := List.exists_cons_of_ne_nil nonempty
  have column (field : CustomLightTaskMetrics → Rat) :
      ∃ aggregates,
        aggregateColumn ((first :: rest).map field) = .ok aggregates :=
    exists_aggregateColumn_eq_ok (by simp)
  obtain ⟨input, inputShape⟩ := column (·.inputBytesRead)
  obtain ⟨shuffle, shuffleShape⟩ := column (·.shuffleBytesRead)
  refine
    ⟨⟨first.appName, first.appId, first.jobId, first.stageId,
      input.maxRelDistance, input.maxBytesRead, shuffle.maxRelDistance,
      shuffle.maxBytesRead, env.metricTime⟩, ?_, ?_⟩
  · simp only [collectStageCustomMetrics, shape, inputShape, shuffleShape]
    rfl
  · rw [shape]
    exact ⟨⟨first, rest, rfl, rfl, rfl, rfl, rfl⟩, inputShape, shuffleShape⟩

theorem collectedStage_of_ok
    {env : ListenerEnvironment} {listener : CustomMetricsListener}
    {metrics : CustomStageAggMetrics}
    (collected : listener.collectStageCustomMetrics env = .ok metrics) :
    CollectedStage listener.taskMetricsBuffer metrics := by
  by_cases empty : listener.taskMetricsBuffer = []
  · rw [collectStage_of_empty env empty] at collected
    cases collected
  · obtain ⟨other, otherCollected, fields⟩ :=
      collectStage_of_nonempty env empty
    rw [otherCollected] at collected
    cases collected
    exact fields

/-! ## Calling the client -/

namespace Reaction

def calls (reaction : Reaction) : List (ClientCall CustomMetrics) :=
  reaction.interaction.toList.map Prod.fst

def answers (reaction : Reaction) : List (Answer CustomMetrics) :=
  reaction.interaction.toList.map Prod.snd

/-- The records that the callback passes to `client.add`. -/
def passed (reaction : Reaction) : List CustomMetrics :=
  addedRecords reaction.calls

/-- If the callback adds a record, `client.add` returns normally. -/
def AddReturned (reaction : Reaction) : Prop :=
  reaction.passed ≠ [] →
    ∀ answer ∈ reaction.answers, answer.raised = none

instance (reaction : Reaction) : Decidable reaction.AddReturned :=
  inferInstanceAs (Decidable (_ → _))

@[simp]
theorem addReturned_add_iff
    (env : Environment) (record : CustomMetrics)
    (answer : Answer CustomMetrics) (raised : Option ListenerException) :
    (⟨some (.add env record, answer), raised⟩ : Reaction).AddReturned ↔
      answer.raised = none := by
  simp [AddReturned, passed, calls, answers, addedRecords]

end Reaction

/-- The records passed to `client.add` in a run. -/
def passedRecords (reactions : List Reaction) : List CustomMetrics :=
  reactions.flatMap Reaction.passed

theorem addedRecords_flatMap_calls (reactions : List Reaction) :
    addedRecords (reactions.flatMap Reaction.calls) =
      passedRecords reactions := by
  induction reactions with
  | nil => rfl
  | cons reaction rest inductionHypothesis =>
      rw [List.flatMap_cons, addedRecords_append, inductionHypothesis]
      rfl

section Callbacks

variable [Gson CustomMetrics]

theorem callClient_of_returned
    {listener : CustomMetricsListener} {call : ClientCall CustomMetrics}
    (returned :
      ((clientMachine CustomMetrics).output listener.client call).raised =
        none)
    (finish : CustomMetricsListener → CustomMetricsListener) :
    listener.callClient call finish =
      (finish
        { listener with
          client := (clientMachine CustomMetrics).next listener.client call },
        ⟨some (call,
            (clientMachine CustomMetrics).output listener.client call),
          none⟩) := by
  simp only [Machine.output] at returned
  simp only [callClient, Machine.output, Machine.next, returned]

theorem callClient_of_raised
    {listener : CustomMetricsListener} {call : ClientCall CustomMetrics}
    {exception : ClientException}
    (raised :
      ((clientMachine CustomMetrics).output listener.client call).raised =
        some exception)
    (finish : CustomMetricsListener → CustomMetricsListener) :
    listener.callClient call finish =
      ({ listener with
          client := (clientMachine CustomMetrics).next listener.client call },
        ⟨some (call,
            (clientMachine CustomMetrics).output listener.client call),
          some (.fromClient exception)⟩) := by
  simp only [Machine.output] at raised
  simp only [callClient, Machine.output, Machine.next, raised]

/-- The callbacks that do nothing but call the client. -/
def SparkListenerEvent.Unmeasured : SparkListenerEvent → Prop
  | .applicationStart => True
  | .applicationEnd => True
  | .jobEnd => True
  | .jobStart _ => False
  | .stageCompleted _ => False
  | .taskEnd _ => False

/-- What one callback does.  `client` and `answer` are what the call of the
client returns. -/
inductive ListenerStep
    (env : ListenerEnvironment) (listener : CustomMetricsListener) :
    SparkListenerEvent → CustomMetricsListener × Reaction → Prop
  | jobStarted (jobStart : SparkListenerJobStart) :
      ListenerStep env listener (.jobStart jobStart)
        (listener.onJobStart jobStart)
  | unmeasured {event : SparkListenerEvent}
      {call : ClientCall CustomMetrics} {raised : Option ListenerException}
      (unmeasured : event.Unmeasured) (noRecord : addedRecords [call] = []) :
      ListenerStep env listener event
        ({ listener with
            client := (clientMachine CustomMetrics).next listener.client call },
          ⟨some (call,
            (clientMachine CustomMetrics).output listener.client call), raised⟩)
  | taskRejected {taskEnded : SparkListenerTaskEnd}
      {exception : ListenerException}
      (rejected :
        listener.collectTaskCustomMetrics env taskEnded = .error exception) :
      ListenerStep env listener (.taskEnd taskEnded)
        (listener, ⟨none, some exception⟩)
  | stageRejected {stageCompleted : SparkListenerStageCompleted}
      {exception : ListenerException}
      (rejected : listener.collectStageCustomMetrics env = .error exception) :
      ListenerStep env listener (.stageCompleted stageCompleted)
        (listener, ⟨none, some exception⟩)
  | taskInterrupted {taskEnded : SparkListenerTaskEnd}
      {metrics : CustomTaskMetrics} {exception : ClientException}
      (collected :
        listener.collectTaskCustomMetrics env taskEnded = .ok metrics)
      (raised :
        ((clientMachine CustomMetrics).output listener.client
          (.add env.client (.task metrics))).raised = some exception) :
      ListenerStep env listener (.taskEnd taskEnded)
        ({ listener with
            client :=
              (clientMachine CustomMetrics).next listener.client
                (.add env.client (.task metrics)) },
          ⟨some (.add env.client (.task metrics),
              (clientMachine CustomMetrics).output listener.client
                (.add env.client (.task metrics))),
            some (.fromClient exception)⟩)
  | stageInterrupted {stageCompleted : SparkListenerStageCompleted}
      {metrics : CustomStageAggMetrics} {exception : ClientException}
      (collected : listener.collectStageCustomMetrics env = .ok metrics)
      (raised :
        ((clientMachine CustomMetrics).output listener.client
          (.add env.client (.stageAgg metrics))).raised = some exception) :
      ListenerStep env listener (.stageCompleted stageCompleted)
        ({ listener with
            client :=
              (clientMachine CustomMetrics).next listener.client
                (.add env.client (.stageAgg metrics)) },
          ⟨some (.add env.client (.stageAgg metrics),
              (clientMachine CustomMetrics).output listener.client
                (.add env.client (.stageAgg metrics))),
            some (.fromClient exception)⟩)
  | taskRecorded {taskEnded : SparkListenerTaskEnd}
      {metrics : CustomTaskMetrics}
      (collected :
        listener.collectTaskCustomMetrics env taskEnded = .ok metrics)
      (returned :
        ((clientMachine CustomMetrics).output listener.client
          (.add env.client (.task metrics))).raised = none) :
      ListenerStep env listener (.taskEnd taskEnded)
        ({ listener with
            client :=
              (clientMachine CustomMetrics).next listener.client
                (.add env.client (.task metrics))
            taskMetricsBuffer :=
              listener.taskMetricsBuffer ++ [lightMetrics env metrics] },
          ⟨some (.add env.client (.task metrics),
              (clientMachine CustomMetrics).output listener.client
                (.add env.client (.task metrics))),
            none⟩)
  | stageRecorded {stageCompleted : SparkListenerStageCompleted}
      {metrics : CustomStageAggMetrics}
      (collected : listener.collectStageCustomMetrics env = .ok metrics)
      (returned :
        ((clientMachine CustomMetrics).output listener.client
          (.add env.client (.stageAgg metrics))).raised = none) :
      ListenerStep env listener (.stageCompleted stageCompleted)
        ({ listener with
            client :=
              (clientMachine CustomMetrics).next listener.client
                (.add env.client (.stageAgg metrics))
            stageToJobMapping :=
              Function.update listener.stageToJobMapping
                stageCompleted.stageId none
            taskMetricsBuffer := [] },
          ⟨some (.add env.client (.stageAgg metrics),
              (clientMachine CustomMetrics).output listener.client
                (.add env.client (.stageAgg metrics))),
            none⟩)

private theorem listenerStep_of_unmeasured
    (env : ListenerEnvironment) (listener : CustomMetricsListener)
    (event : SparkListenerEvent) (unmeasured : event.Unmeasured)
    (call : ClientCall CustomMetrics) (noRecord : addedRecords [call] = []) :
    ListenerStep env listener event (listener.callClient call id) := by
  cases answered :
      ((clientMachine CustomMetrics).output listener.client call).raised with
  | none =>
      rw [callClient_of_returned answered]
      exact .unmeasured unmeasured noRecord
  | some exception =>
      rw [callClient_of_raised answered]
      exact .unmeasured unmeasured noRecord

/-- Every step of the listener machine is one of the listener steps. -/
theorem listenerStep
    (env : ListenerEnvironment) (listener : CustomMetricsListener)
    (event : SparkListenerEvent) :
    ListenerStep env listener event
      (listenerMachine.next listener (env, event),
        listenerMachine.output listener (env, event)) := by
  change ListenerStep env listener event
    (listenerMachine.step listener (env, event))
  cases event with
  | applicationStart =>
      exact listenerStep_of_unmeasured env listener .applicationStart trivial
        (.setLastFlush env.client.now) rfl
  | applicationEnd =>
      exact listenerStep_of_unmeasured env listener .applicationEnd trivial
        (.flushEvents env.client) rfl
  | jobStart jobStart => exact .jobStarted jobStart
  | jobEnd =>
      exact listenerStep_of_unmeasured env listener .jobEnd trivial
        (.flushEvents env.client) rfl
  | stageCompleted stageCompleted =>
      simp only [listenerMachine, onStageCompleted]
      split
      next exception rejected => exact .stageRejected rejected
      next metrics collected =>
        cases answered :
            ((clientMachine CustomMetrics).output listener.client
              (.add env.client (.stageAgg metrics))).raised with
        | none =>
            rw [callClient_of_returned answered]
            exact .stageRecorded collected answered
        | some exception =>
            rw [callClient_of_raised answered]
            exact .stageInterrupted collected answered
  | taskEnd taskEnded =>
      simp only [listenerMachine, onTaskEnd]
      split
      next exception rejected => exact .taskRejected rejected
      next metrics collected =>
        cases answered :
            ((clientMachine CustomMetrics).output listener.client
              (.add env.client (.task metrics))).raised with
        | none =>
            rw [callClient_of_returned answered]
            exact .taskRecorded collected answered
        | some exception =>
            rw [callClient_of_raised answered]
            exact .taskInterrupted collected answered

/-- The client of a listener is driven by the calls of the callbacks and
gives them its answers. -/
theorem listener_drives_client
    (listener : CustomMetricsListener)
    (inputs : List (ListenerEnvironment × SparkListenerEvent)) :
    (listenerMachine.after listener inputs).client =
        (clientMachine CustomMetrics).after listener.client
          ((listenerMachine.outputs listener inputs).flatMap Reaction.calls) ∧
      (listenerMachine.outputs listener inputs).flatMap Reaction.answers =
        (clientMachine CustomMetrics).outputs listener.client
          ((listenerMachine.outputs listener inputs).flatMap
            Reaction.calls) := by
  refine listenerMachine.run_induction
    (motive := fun _ reactions reached =>
      reached.client =
          (clientMachine CustomMetrics).after listener.client
            (reactions.flatMap Reaction.calls) ∧
        reactions.flatMap Reaction.answers =
          (clientMachine CustomMetrics).outputs listener.client
            (reactions.flatMap Reaction.calls))
    ⟨rfl, rfl⟩ ?_ inputs
  intro earlier input driven
  rcases input with ⟨env, event⟩
  rcases driven with ⟨sameClient, sameAnswers⟩
  have step := listenerStep env (listenerMachine.after listener earlier) event
  simp only [List.flatMap_append, Machine.after_append,
    Machine.outputs_append, ← sameClient, ← sameAnswers]
  generalize
    listenerMachine.next (listenerMachine.after listener earlier)
      (env, event) = next,
    listenerMachine.output (listenerMachine.after listener earlier)
      (env, event) = reaction at step ⊢
  cases step <;>
    exact ⟨rfl, rfl⟩

/-- The acknowledged records followed by the client's buffer are the records
that the callbacks have passed, whatever the callbacks raised. -/
theorem measured_records_conserved
    (batchSize batchTime created : Int)
    (inputs : List (ListenerEnvironment × SparkListenerEvent)) :
    deliveredRecords
          ((listenerMachine.outputs
            (create batchSize batchTime created) inputs).flatMap
            Reaction.answers) ++
        (listenerMachine.after
          (create batchSize batchTime created) inputs).client.buffer =
      passedRecords
        (listenerMachine.outputs
          (create batchSize batchTime created) inputs) := by
  obtain ⟨sameClient, sameAnswers⟩ :=
    listener_drives_client (create batchSize batchTime created) inputs
  rw [sameClient, sameAnswers, ← addedRecords_flatMap_calls]
  exact delivered_append_buffer batchSize batchTime created _

end Callbacks

end SparkObservability
