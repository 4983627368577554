import SparkObservability.Digest
import SparkObservability.Listener.Attribution

/-!
# Stage records summarize task records

The records of a listener are a digest: the tasks that were recorded since
the last recorded stage are pending, in the light form of the buffer, and a
stage record aggregates exactly the pending tasks.  Nothing is assumed about
the events, the clocks or the failures.
-/

namespace SparkObservability

open CustomMetricsListener

/-- A stage record is the aggregate of these task records. -/
structure Aggregates (tasks : List CustomTaskMetrics)
    (metrics : CustomStageAggMetrics) : Prop where
  head :
    ∃ first rest, tasks = first :: rest ∧
      metrics.appName = first.appName ∧ metrics.appId = first.appId ∧
      metrics.jobId = first.jobId ∧ metrics.stageId = first.stageId
  input :
    aggregateColumn (tasks.map (·.inputBytesRead)) =
      .ok ⟨metrics.inputBytesReadSkewness, metrics.maxInputBytesRead⟩
  shuffle :
    aggregateColumn (tasks.map (·.shuffleBytesRead)) =
      .ok ⟨metrics.shuffleBytesReadSkewness, metrics.maxShuffleBytesRead⟩

/-- The light form of a task record, at some instant. -/
def LightOf (task : CustomTaskMetrics) (light : CustomLightTaskMetrics) :
    Prop :=
  ∃ env, light = lightMetrics env task

theorem map_eq_of_lightOf {β : Type} {tasks : List CustomTaskMetrics}
    {buffer : List CustomLightTaskMetrics}
    (light : List.Forall₂ LightOf tasks buffer)
    {column : CustomTaskMetrics → β} {lightColumn : CustomLightTaskMetrics → β}
    (same : ∀ env task, lightColumn (lightMetrics env task) = column task) :
    buffer.map lightColumn = tasks.map column := by
  induction light with
  | nil => rfl
  | cons head _ inductionHypothesis =>
      obtain ⟨env, rfl⟩ := head
      rw [List.map_cons, List.map_cons, inductionHypothesis, same]

/-- What is aggregated over the buffer is aggregated over the task records. -/
theorem aggregates_of_collected {tasks : List CustomTaskMetrics}
    {buffer : List CustomLightTaskMetrics}
    (light : List.Forall₂ LightOf tasks buffer)
    {metrics : CustomStageAggMetrics}
    (collected : CollectedStage buffer metrics) :
    Aggregates tasks metrics where
  head := by
    obtain ⟨first, rest, shape, fields⟩ := collected.head
    subst shape
    cases light with
    | cons head tail =>
        obtain ⟨env, rfl⟩ := head
        exact ⟨_, _, rfl, fields⟩
  input := by
    rw [← collected.input, map_eq_of_lightOf light]
    intro env task
    rfl
  shuffle := by
    rw [← collected.shuffle, map_eq_of_lightOf light]
    intro env task
    rfl

/-! ## The records of a run as a digest -/

/-- The entry that a record makes. -/
def digestItem? (counts : Bool) :
    CustomMetrics →
      Option (DigestEntry CustomTaskMetrics CustomStageAggMetrics)
  | .task metrics => some (.item metrics counts)
  | .stageAgg metrics => some (.summary metrics counts)
  | .lightTask _ => none

/-- The record that made an entry. -/
def entryRecord :
    DigestEntry CustomTaskMetrics CustomStageAggMetrics → CustomMetrics
  | .item metrics _ => .task metrics
  | .summary metrics _ => .stageAgg metrics

/-- The entries of a callback; they count if it returned. -/
def Reaction.entries (reaction : Reaction) :
    List (DigestEntry CustomTaskMetrics CustomStageAggMetrics) :=
  reaction.passed.filterMap (digestItem? reaction.raised.isNone)

/-- The listener summarizes its tasks. -/
def Summarizes (reactions : List Reaction)
    (listener : CustomMetricsListener) : Prop :=
  ∃ pending,
    Digest Aggregates (reactions.flatMap Reaction.entries) pending ∧
      List.Forall₂ LightOf pending listener.taskMetricsBuffer ∧
      passedRecords reactions =
        (reactions.flatMap Reaction.entries).map entryRecord

/-- A reaction without a record. -/
theorem Summarizes.concat_of_silent {reactions : List Reaction}
    {listener : CustomMetricsListener}
    (summarizes : Summarizes reactions listener) {reaction : Reaction}
    (silent : reaction.passed = []) {next : CustomMetricsListener}
    (sameBuffer : next.taskMetricsBuffer = listener.taskMetricsBuffer) :
    Summarizes (reactions ++ [reaction]) next := by
  obtain ⟨pending, digest, light, passed⟩ := summarizes
  refine ⟨pending, ?_, ?_, ?_⟩
  · simpa [Reaction.entries, silent] using digest
  · rwa [sameBuffer]
  · simpa [Reaction.entries, silent, passedRecords] using passed

/-- The records of the callbacks that returned. -/
def recordedRecords (reactions : List Reaction) : List CustomMetrics :=
  passedRecords (reactions.filter fun reaction => reaction.raised.isNone)

def CustomMetrics.task? : CustomMetrics → Option CustomTaskMetrics
  | .task metrics => some metrics
  | .lightTask _ => none
  | .stageAgg _ => none

def CustomMetrics.stageAgg? : CustomMetrics → Option CustomStageAggMetrics
  | .stageAgg metrics => some metrics
  | .task _ => none
  | .lightTask _ => none

/-- The entries that count are the records of the callbacks that returned. -/
theorem counted_entries {β : Type}
    {count? :
      DigestEntry CustomTaskMetrics CustomStageAggMetrics → Option β}
    {read? : CustomMetrics → Option β}
    (counted : ∀ record, (digestItem? true record).bind count? = read? record)
    (uncounted : ∀ record, (digestItem? false record).bind count? = none)
    (reactions : List Reaction) :
    (reactions.flatMap Reaction.entries).filterMap count? =
      (recordedRecords reactions).filterMap read? := by
  induction reactions with
  | nil => rfl
  | cons reaction rest inductionHypothesis =>
      rw [List.flatMap_cons, List.filterMap_append, inductionHypothesis,
        Reaction.entries, List.filterMap_filterMap]
      cases returned : reaction.raised.isNone with
      | true =>
          simp [recordedRecords, passedRecords, returned, counted]
      | false =>
          simp [recordedRecords, returned, uncounted]

theorem countedItems_entries (reactions : List Reaction) :
    (reactions.flatMap Reaction.entries).filterMap
        DigestEntry.countedItem? =
      (recordedRecords reactions).filterMap CustomMetrics.task? :=
  counted_entries (by rintro (_ | _ | _) <;> rfl)
    (by rintro (_ | _ | _) <;> rfl) reactions

theorem countedSummaries_entries (reactions : List Reaction) :
    (reactions.flatMap Reaction.entries).filterMap
        DigestEntry.countedSummary? =
      (recordedRecords reactions).filterMap CustomMetrics.stageAgg? :=
  counted_entries (by rintro (_ | _ | _) <;> rfl)
    (by rintro (_ | _ | _) <;> rfl) reactions

/-- The tasks that count are among the records. -/
theorem tasks_sublist
    (entries :
      List (DigestEntry CustomTaskMetrics CustomStageAggMetrics)) :
    ((entries.filterMap DigestEntry.countedItem?).map
      CustomMetrics.task).Sublist (entries.map entryRecord) := by
  induction entries with
  | nil => exact List.Sublist.slnil
  | cons entry rest inductionHypothesis =>
      rcases entry with ⟨metrics, counts⟩ | ⟨metrics, counts⟩
      · cases counts with
        | true => exact inductionHypothesis.cons_cons _
        | false => exact inductionHypothesis.cons _
      · exact inductionHypothesis.cons _

section Runs

variable [Gson CustomMetrics]

theorem summarizes_next {reactions : List Reaction}
    {listener : CustomMetricsListener}
    (summarizes : Summarizes reactions listener)
    (input : ListenerEnvironment × SparkListenerEvent) :
    Summarizes (reactions ++ [listenerMachine.output listener input])
      (listenerMachine.next listener input) := by
  rcases input with ⟨env, event⟩
  have step := listenerStep env listener event
  generalize listenerMachine.next listener (env, event) = next,
    listenerMachine.output listener (env, event) = reaction at step ⊢
  have concat {record : CustomMetrics}
      {answer : Answer CustomMetrics} {raised : Option ListenerException} :
      passedRecords
          (reactions ++ [⟨some (.add env.client record, answer), raised⟩]) =
        passedRecords reactions ++ [record] := by
    simp [passedRecords, Reaction.passed, Reaction.calls, addedRecords]
  cases step with
  | jobStarted jobStart => exact summarizes.concat_of_silent rfl rfl
  | unmeasured _ noRecord =>
      refine summarizes.concat_of_silent ?_ rfl
      exact noRecord
  | taskRejected => exact summarizes.concat_of_silent rfl rfl
  | stageRejected => exact summarizes.concat_of_silent rfl rfl
  | @taskInterrupted _ metrics =>
      obtain ⟨pending, digest, light, passed⟩ := summarizes
      refine ⟨pending, ?_, light, ?_⟩
      · rw [List.flatMap_append]
        exact digest.lostItem metrics
      · rw [concat, passed, List.flatMap_append, List.map_append]
        rfl
  | @stageInterrupted _ metrics _ collected =>
      obtain ⟨pending, digest, light, passed⟩ := summarizes
      refine ⟨pending, ?_, light, ?_⟩
      · rw [List.flatMap_append]
        exact digest.lostSummary
          (aggregates_of_collected light (collectedStage_of_ok collected))
      · rw [concat, passed, List.flatMap_append, List.map_append]
        rfl
  | @taskRecorded _ metrics =>
      obtain ⟨pending, digest, light, passed⟩ := summarizes
      refine ⟨pending ++ [metrics], ?_, ?_, ?_⟩
      · rw [List.flatMap_append]
        exact digest.item metrics
      · exact List.rel_append light (.cons ⟨env, rfl⟩ .nil)
      · rw [concat, passed, List.flatMap_append, List.map_append]
        rfl
  | @stageRecorded _ metrics collected =>
      obtain ⟨pending, digest, light, passed⟩ := summarizes
      refine ⟨[], ?_, .nil, ?_⟩
      · rw [List.flatMap_append]
        exact digest.summary
          (aggregates_of_collected light (collectedStage_of_ok collected))
      · rw [concat, passed, List.flatMap_append, List.map_append]
        rfl

theorem summarizes_after
    (batchSize batchTime created : Int)
    (inputs : List (ListenerEnvironment × SparkListenerEvent)) :
    Summarizes
      (listenerMachine.outputs (create batchSize batchTime created) inputs)
      (listenerMachine.after (create batchSize batchTime created) inputs) :=
  listenerMachine.run_induction
    (motive := fun _ reactions listener => Summarizes reactions listener)
    ⟨[], .start, .nil, rfl⟩
    (fun _ input summarizes => summarizes_next summarizes input) inputs

/-- Whatever happens, the stage records of the callbacks that returned cut
the task records of the callbacks that returned into consecutive groups, and
each aggregates its group; the tasks after the last group are the ones the
listener still keeps. -/
theorem recorded_stages_partition_tasks
    (batchSize batchTime created : Int)
    (inputs : List (ListenerEnvironment × SparkListenerEvent)) :
    let reactions :=
      listenerMachine.outputs (create batchSize batchTime created) inputs
    ∃ groups pending,
      (recordedRecords reactions).filterMap CustomMetrics.task? =
          groups.flatten ++ pending ∧
        List.Forall₂ Aggregates groups
          ((recordedRecords reactions).filterMap CustomMetrics.stageAgg?) ∧
        List.Forall₂ LightOf pending
          (listenerMachine.after (create batchSize batchTime created)
            inputs).taskMetricsBuffer := by
  obtain ⟨pending, digest, light, _⟩ :=
    summarizes_after batchSize batchTime created inputs
  obtain ⟨groups, items, sums⟩ := digest.exists_groups
  rw [countedItems_entries] at items
  rw [countedSummaries_entries] at sums
  exact ⟨groups, pending, items, sums, light⟩

/-- Before a stage record the listener has passed the task records that it
aggregates, even if the callback that made it was interrupted. -/
theorem sources_of_passed
    (batchSize batchTime created : Int)
    (inputs : List (ListenerEnvironment × SparkListenerEvent))
    {before later : List CustomMetrics} {metrics : CustomStageAggMetrics}
    (shape :
      passedRecords
          (listenerMachine.outputs
            (create batchSize batchTime created) inputs) =
        before ++ .stageAgg metrics :: later) :
    ∃ tasks,
      (tasks.map CustomMetrics.task).Sublist before ∧
        Aggregates tasks metrics := by
  obtain ⟨pending, digest, _, passed⟩ :=
    summarizes_after batchSize batchTime created inputs
  obtain ⟨entriesBefore, rest, entriesShape, sameBefore, sameRest⟩ :=
    List.map_eq_append_iff.1 (passed.symm.trans shape)
  obtain ⟨entry, entriesLater, rfl, sameEntry, _⟩ :=
    List.map_eq_cons_iff.1 sameRest
  cases entry with
  | item => cases sameEntry
  | summary total counts =>
      cases sameEntry
      obtain ⟨sources, sublist, aggregates⟩ :=
        digest.sources_of_summary entriesShape
      refine ⟨sources, ?_, aggregates⟩
      rw [← sameBefore]
      exact (sublist.map CustomMetrics.task).trans
        (tasks_sublist entriesBefore)

/-- In the delivered stream every stage record comes after the task records
that it aggregates, even if the callback that made it was interrupted. -/
theorem delivered_stage_follows_its_tasks
    (batchSize batchTime created : Int)
    (inputs : List (ListenerEnvironment × SparkListenerEvent))
    {before later : List CustomMetrics} {metrics : CustomStageAggMetrics}
    (delivered :
      deliveredRecords
          ((listenerMachine.outputs
            (create batchSize batchTime created) inputs).flatMap
            Reaction.answers) =
        before ++ .stageAgg metrics :: later) :
    ∃ tasks,
      (tasks.map CustomMetrics.task).Sublist before ∧
        Aggregates tasks metrics := by
  have conserved :=
    measured_records_conserved batchSize batchTime created inputs
  rw [delivered, List.append_assoc, List.cons_append] at conserved
  exact sources_of_passed batchSize batchTime created inputs conserved.symm

end Runs

/-- A job whose only stage runs one task. -/
def oneStageJob : List (ListenerEnvironment × SparkListenerEvent) :=
  [arriving 11 (.jobStart ⟨7, [1]⟩), arriving 12 (finishedTask 1 0 5),
    arriving 13 (.stageCompleted ⟨1⟩), arriving 14 .jobEnd]

theorem delivered_stage_follows_its_tasks_oneStageJob :
    ∃ tasks,
      (tasks.map CustomMetrics.task).Sublist
          [.task
            ⟨"app", "app-1", "7", 1, 0, "0.0", "1", 0, 5, 1, 1, 1, 1, 0, 0,
              0, 0, 0, 0, 12000⟩] ∧
        Aggregates tasks ⟨"app", "app-1", "7", 1, 0, 5, 0, 0, 13000⟩ :=
  letI := plainMetricsGson
  delivered_stage_follows_its_tasks 100 60 0 oneStageJob
    (by decide +kernel :
      deliveredRecords
          ((listenerMachine.outputs (create 100 60 0) oneStageJob).flatMap
            Reaction.answers) =
        _ ++ .stageAgg ⟨"app", "app-1", "7", 1, 0, 5, 0, 0, 13000⟩ :: [])

end SparkObservability
