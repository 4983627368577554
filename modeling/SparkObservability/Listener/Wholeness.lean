import SparkObservability.Ingestion.Documents
import SparkObservability.Listener.Grouping
import SparkObservability.Listener.Skewness

/-!
# Counts stay whole

Spark counts bytes, records and milliseconds in whole numbers, and the
listener keeps them in doubles.  They stay whole on their way through the
buffer and the aggregation of a stage, and the light form of the metrics never
gets to the client.
-/

namespace SparkObservability

open CustomMetricsListener

/-- A field without a fraction. -/
def FieldValue.Whole : FieldValue → Prop
  | .double value => value.isInt = true
  | .text _ => True
  | .whole _ => True

/-- The field is a measure of the skewness of a stage. -/
def IsSkewness (key : String) : Prop :=
  key = "inputBytesReadSkewness" ∨ key = "shuffleBytesReadSkewness"

/-- What the listener passes to its client. -/
structure CustomMetrics.Measured (metrics : CustomMetrics) : Prop where
  kind :
    (∃ task, metrics = .task task) ∨ ∃ stageAgg, metrics = .stageAgg stageAgg
  whole :
    ∀ field ∈ metrics.fields, ¬ IsSkewness field.1 → field.2.Whole

/-- What the listener keeps of a task. -/
structure CustomLightTaskMetrics.Whole (light : CustomLightTaskMetrics) :
    Prop where
  input : light.inputBytesRead.isInt = true
  shuffle : light.shuffleBytesRead.isInt = true

/-! ## What is collected -/

theorem measured_of_task
    {env : ListenerEnvironment} {listener : CustomMetricsListener}
    {taskEnded : SparkListenerTaskEnd} {metrics : CustomTaskMetrics}
    (collected :
      listener.collectTaskCustomMetrics env taskEnded = .ok metrics) :
    (CustomMetrics.task metrics).Measured := by
  simp only [collectTaskCustomMetrics] at collected
  split at collected
  next => cases collected
  next jobId _ =>
    split at collected
    next => cases collected
    next taskMetrics _ =>
      cases collected
      refine ⟨Or.inl ⟨_, rfl⟩, ?_⟩
      have count (number : Int) : (number : Rat).isInt = true := rfl
      simp only [CustomMetrics.fields, CustomTaskMetrics.fields,
        List.forall_mem_cons]
      simp [FieldValue.Whole, count]

theorem whole_lightMetrics
    (env : ListenerEnvironment) {metrics : CustomTaskMetrics}
    (measured : (CustomMetrics.task metrics).Measured) :
    (lightMetrics env metrics).Whole where
  input := by
    have isField :
        ("inputBytesRead", FieldValue.double metrics.inputBytesRead) ∈
          (CustomMetrics.task metrics).fields := by
      simp [CustomMetrics.fields, CustomTaskMetrics.fields]
    exact measured.whole _ isField (by simp [IsSkewness])
  shuffle := by
    have isField :
        ("shuffleBytesRead", FieldValue.double metrics.shuffleBytesRead) ∈
          (CustomMetrics.task metrics).fields := by
      simp [CustomMetrics.fields, CustomTaskMetrics.fields]
    exact measured.whole _ isField (by simp [IsSkewness])

/-- The maximum of a column is one of its values. -/
theorem maxBytesRead_mem {bytesRead : List Rat} {aggregates : ColumnAggregates}
    (aggregated : aggregateColumn bytesRead = .ok aggregates) :
    aggregates.maxBytesRead ∈ bytesRead := by
  by_cases empty : bytesRead = []
  · subst empty
    cases aggregated
  · obtain ⟨least, greatest, bottom, top⟩ := exists_extremes empty
    rw [aggregateColumn_of_extremes bottom top] at aggregated
    cases aggregated
    exact top.1

theorem measured_of_stage
    {env : ListenerEnvironment} {listener : CustomMetricsListener}
    {metrics : CustomStageAggMetrics}
    (collected : listener.collectStageCustomMetrics env = .ok metrics)
    (buffered : ∀ light ∈ listener.taskMetricsBuffer, light.Whole) :
    (CustomMetrics.stageAgg metrics).Measured := by
  have stage := collectedStage_of_ok collected
  have maxInput : metrics.maxInputBytesRead.isInt = true := by
    obtain ⟨light, member, same⟩ :=
      List.mem_map.1 (maxBytesRead_mem stage.input)
    exact (congrArg Rat.isInt same).symm.trans (buffered light member).input
  have maxShuffle : metrics.maxShuffleBytesRead.isInt = true := by
    obtain ⟨light, member, same⟩ :=
      List.mem_map.1 (maxBytesRead_mem stage.shuffle)
    exact
      (congrArg Rat.isInt same).symm.trans (buffered light member).shuffle
  refine ⟨Or.inr ⟨_, rfl⟩, ?_⟩
  simp only [CustomMetrics.fields, CustomStageAggMetrics.fields,
    List.forall_mem_cons]
  simp [FieldValue.Whole, IsSkewness, maxInput, maxShuffle]

/-! ## Runs -/

section Runs

variable [Gson CustomMetrics]

/-- One callback passes what it measured, and keeps whole numbers. -/
theorem measured_next
    {listener : CustomMetricsListener}
    (buffered : ∀ light ∈ listener.taskMetricsBuffer, light.Whole)
    (env : ListenerEnvironment) (event : SparkListenerEvent) :
    (∀ record ∈ (listenerMachine.output listener (env, event)).passed,
        record.Measured) ∧
      ∀ light ∈ (listenerMachine.next listener (env, event)).taskMetricsBuffer,
        light.Whole := by
  have step := listenerStep env listener event
  generalize listenerMachine.next listener (env, event) = next,
    listenerMachine.output listener (env, event) = reaction at step ⊢
  have single {record : CustomMetrics} {answer : Answer CustomMetrics}
      {raised : Option ListenerException} (measured : record.Measured) :
      ∀ passed ∈
          (⟨some (.add env.client record, answer), raised⟩ : Reaction).passed,
        passed.Measured := by
    intro passed member
    have same : passed = record := by
      simpa [Reaction.passed, Reaction.calls, addedRecords] using member
    exact same ▸ measured
  cases step with
  | jobStarted => exact ⟨List.forall_mem_nil _, buffered⟩
  | unmeasured _ noRecord =>
      refine ⟨?_, buffered⟩
      intro record member
      have nothing : record ∈ ([] : List CustomMetrics) := noRecord ▸ member
      cases nothing
  | taskRejected => exact ⟨List.forall_mem_nil _, buffered⟩
  | stageRejected => exact ⟨List.forall_mem_nil _, buffered⟩
  | taskInterrupted collected =>
      exact ⟨single (measured_of_task collected), buffered⟩
  | stageInterrupted collected =>
      exact ⟨single (measured_of_stage collected buffered), buffered⟩
  | taskRecorded collected =>
      have measured := measured_of_task collected
      refine ⟨single measured, ?_⟩
      intro light member
      rcases List.mem_append.1 member with earlier | isNew
      · exact buffered light earlier
      · rw [List.mem_singleton.1 isNew]
        exact whole_lightMetrics env measured
  | stageRecorded collected =>
      refine ⟨single (measured_of_stage collected buffered), ?_⟩
      intro light member
      cases member

theorem measured_concat {reactions : List Reaction}
    {listener : CustomMetricsListener}
    (kept :
      (∀ record ∈ passedRecords reactions, record.Measured) ∧
        ∀ light ∈ listener.taskMetricsBuffer, light.Whole)
    (input : ListenerEnvironment × SparkListenerEvent) :
    (∀ record ∈
        passedRecords (reactions ++ [listenerMachine.output listener input]),
        record.Measured) ∧
      ∀ light ∈ (listenerMachine.next listener input).taskMetricsBuffer,
        light.Whole := by
  obtain ⟨passedBefore, buffered⟩ := kept
  obtain ⟨passedNow, bufferedNext⟩ := measured_next buffered input.1 input.2
  refine ⟨?_, bufferedNext⟩
  intro record member
  rw [passedRecords, List.flatMap_append, List.mem_append,
    List.flatMap_singleton] at member
  rcases member with before | now
  · exact passedBefore record before
  · exact passedNow record now

/-- Whatever the listener passes in a run, it has measured. -/
theorem measured_passedRecords
    (batchSize batchTime created : Int)
    (inputs : List (ListenerEnvironment × SparkListenerEvent)) :
    ∀ record ∈
        passedRecords
          (listenerMachine.outputs
            (create batchSize batchTime created) inputs),
      record.Measured := by
  refine
    (listenerMachine.run_induction
      (motive := fun _ reactions listener =>
        (∀ record ∈ passedRecords reactions, record.Measured) ∧
          ∀ light ∈ listener.taskMetricsBuffer, light.Whole)
      ⟨?_, ?_⟩ (fun _ input kept => measured_concat kept input) inputs).1
  · exact List.forall_mem_nil _
  · exact List.forall_mem_nil _

end Runs

end SparkObservability
