import SparkObservability.Listener.Wholeness

/-!
# The ingestion pipelines

The pipelines of `logs-pipeline.yaml` and `metrics-pipeline.yaml`.  Data
Prepper, which runs them, is not part of the repository: what it writes is a
parameter, with the documented meaning of routes and sinks as its law.  Every
measured record that arrives whole is written once, to the index of its type.
-/

namespace SparkObservability

open CustomMetricsListener

structure Route where
  name : String
  condition : String

structure Sink where
  index : String
  routes : List String

/-- The parts of a pipeline that decide where a document goes. -/
structure Pipeline where
  routes : List Route
  sinks : List Sink

/-- The condition that a member of a document is a given text. -/
def comparison (key literal : String) : String :=
  "/" ++ key ++ " == \"" ++ literal ++ "\""

def stageAggSink : Sink :=
  ⟨"spark-stage-agg-metrics", ["stage-agg-metrics"]⟩

def taskSink : Sink :=
  ⟨"spark-task-metrics", ["task-metrics"]⟩

def metricsPipeline : Pipeline where
  routes :=
    [⟨"task-metrics", "/metricsType == \"taskMetrics\""⟩,
      ⟨"stage-agg-metrics", "/metricsType == \"stageAggMetrics\""⟩]
  sinks := [stageAggSink, taskSink]

/-! ## Data Prepper -/

/-- What Data Prepper does with a pipeline. -/
class DataPrepper where
  holds : String → Document → Bool
  /-- What a pipeline writes to an index when it gets requests with the given
  bytes in their bodies. -/
  written : Pipeline → List (List UInt8) → String → List Document

/-- A sink with routes takes the documents of its routes; another one takes
all documents. -/
def Pipeline.takes [DataPrepper] (pipeline : Pipeline) (sink : Sink)
    (document : Document) : Bool :=
  sink.routes.isEmpty ||
    pipeline.routes.any fun route =>
      sink.routes.contains route.name &&
        DataPrepper.holds route.condition document

/-- The copies of a document that go to an index. -/
def Pipeline.copies [DataPrepper] (pipeline : Pipeline) (index : String)
    (document : Document) : List Document :=
  (pipeline.sinks.filter fun sink =>
    sink.index = index && pipeline.takes sink document).map fun _ => document

def IsWord (text : String) : Prop :=
  ∀ character ∈ text.toList, character.isAlpha = true

instance (text : String) : Decidable (IsWord text) :=
  List.decidableBAll _ _

/-- The order in which documents are written is left open. -/
structure DataPrepper.Lawful [DataPrepper] : Prop where
  comparison :
    ∀ key literal, IsWord key → IsWord literal →
      ∀ document,
        holds (comparison key literal) document = true ↔
          document.lookup key = some (.string literal)
  written :
    ∀ pipeline bodies index,
      (written pipeline bodies index).Perm
        ((bodies.flatMap documentsOf).flatMap (pipeline.copies index))

/-! ## Where documents go -/

/-- `metricsType` -/
def CustomMetrics.metricsType : CustomMetrics → String
  | .task _ => "taskMetrics"
  | .lightTask _ => "lightTaskMetrics"
  | .stageAgg _ => "stageAggMetrics"

theorem lookup_metricsType [Gson CustomMetrics]
    (lawful : Gson.Lawful CustomMetrics) (writes : Gson.WritesFields)
    (client : ObservabilityClient CustomMetrics) (metrics : CustomMetrics) :
    (client.document metrics).lookup "metricsType" =
      some (.string metrics.metricsType) := by
  have isField :
      metrics.fields.lookup "metricsType" =
        some (.text metrics.metricsType) := by
    cases metrics <;> rfl
  have notAdded : "metricsType" ∉ addedKeys metrics := by
    cases metrics <;> simp [addedKeys, EventClass.asLogEvent]
  have asWritten := writes metrics "metricsType"
  rw [isField] at asWritten
  have unchanged :=
    (enriched_enrichedObject lawful client metrics).unchanged _ notAdded
  rw [ObservabilityClient.document, unchanged]
  cases found :
      (Gson.toJsonObject metrics).members.lookup "metricsType" with
  | none =>
      rw [found] at asWritten
      cases asWritten
  | some member =>
      rw [found] at asWritten
      cases asWritten with
      | some isText => exact congrArg some isText

section Routing

variable [DataPrepper] (lawful : DataPrepper.Lawful)

include lawful

theorem holds_metricsType {literal : String} (word : IsWord literal)
    {document : Document} {metricsType : String}
    (typed : document.lookup "metricsType" = some (.string metricsType)) :
    DataPrepper.holds (comparison "metricsType" literal) document =
      decide (metricsType = literal) := by
  have isWord : IsWord "metricsType" := by decide
  have meaning := lawful.comparison "metricsType" literal isWord word document
  rw [typed] at meaning
  rw [Bool.eq_iff_iff, meaning, decide_eq_true_iff, Option.some.injEq,
    JsonValue.string.injEq]

/-- Each sink of the metrics takes one type of them. -/
theorem takes_metricsPipeline {document : Document} {metricsType : String}
    (typed : document.lookup "metricsType" = some (.string metricsType)) :
    metricsPipeline.takes taskSink document =
        decide (metricsType = "taskMetrics") ∧
      metricsPipeline.takes stageAggSink document =
        decide (metricsType = "stageAggMetrics") := by
  have taskWord : IsWord "taskMetrics" := by decide
  have stageAggWord : IsWord "stageAggMetrics" := by decide
  have task :
      DataPrepper.holds "/metricsType == \"taskMetrics\"" document =
        decide (metricsType = "taskMetrics") :=
    holds_metricsType lawful taskWord typed
  have stageAgg :
      DataPrepper.holds "/metricsType == \"stageAggMetrics\"" document =
        decide (metricsType = "stageAggMetrics") :=
    holds_metricsType lawful stageAggWord typed
  simp [Pipeline.takes, metricsPipeline, taskSink, stageAggSink, task,
    stageAgg]

/-- The copies of a document with the given type. -/
theorem copies_metricsPipeline {document : Document} {metricsType : String}
    (typed : document.lookup "metricsType" = some (.string metricsType)) :
    metricsPipeline.copies "spark-task-metrics" document =
        (if metricsType = "taskMetrics" then [document] else []) ∧
      metricsPipeline.copies "spark-stage-agg-metrics" document =
        (if metricsType = "stageAggMetrics" then [document] else []) := by
  obtain ⟨task, stageAgg⟩ := takes_metricsPipeline lawful typed
  have sinks : metricsPipeline.sinks = [stageAggSink, taskSink] := rfl
  have taskIndex : taskSink.index = "spark-task-metrics" := rfl
  have stageAggIndex : stageAggSink.index = "spark-stage-agg-metrics" := rfl
  constructor
  · rw [Pipeline.copies, sinks]
    by_cases ofTask : metricsType = "taskMetrics" <;>
      simp [task, ofTask, taskIndex, stageAggIndex]
  · rw [Pipeline.copies, sinks]
    by_cases ofStageAgg : metricsType = "stageAggMetrics" <;>
      simp [stageAgg, ofStageAgg, taskIndex, stageAggIndex]

omit lawful in
/-- No other index gets anything from the metrics. -/
theorem copies_of_other_index {index : String}
    (notTask : index ≠ "spark-task-metrics")
    (notStageAgg : index ≠ "spark-stage-agg-metrics") (document : Document) :
    metricsPipeline.copies index document = [] := by
  have sinks : metricsPipeline.sinks = [stageAggSink, taskSink] := rfl
  rw [Pipeline.copies, sinks]
  simp [stageAggSink, taskSink, Ne.symm notTask, Ne.symm notStageAgg]

end Routing

/-! ## What is stored of a run -/

/-- Every index of the metrics has the documents of one type of records. -/
structure StoredByType
    (records : List CustomMetrics) (document : CustomMetrics → Document)
    (written : String → List Document) : Prop where
  tasks :
    (written "spark-task-metrics").Perm
      ((records.filterMap CustomMetrics.task?).map fun metrics =>
        document (.task metrics))
  stageAggs :
    (written "spark-stage-agg-metrics").Perm
      ((records.filterMap CustomMetrics.stageAgg?).map fun metrics =>
        document (.stageAgg metrics))
  elsewhere :
    ∀ index, index ≠ "spark-task-metrics" →
      index ≠ "spark-stage-agg-metrics" → written index = []
  complete :
    (written "spark-task-metrics").length +
        (written "spark-stage-agg-metrics").length =
      records.length

/-- Measured records are metrics of a task or of a stage. -/
theorem length_of_measured {records : List CustomMetrics}
    (measured : ∀ record ∈ records, record.Measured) :
    (records.filterMap CustomMetrics.task?).length +
        (records.filterMap CustomMetrics.stageAgg?).length =
      records.length := by
  induction records with
  | nil => rfl
  | cons record rest inductionHypothesis =>
      have restLength :=
        inductionHypothesis fun other member =>
          measured other (List.mem_cons_of_mem record member)
      obtain ⟨metrics, rfl⟩ | ⟨metrics, rfl⟩ :=
        (measured record List.mem_cons_self).kind
      · have isTask : CustomMetrics.task? (.task metrics) = some metrics := rfl
        have noStageAgg : CustomMetrics.stageAgg? (.task metrics) = none := rfl
        rw [List.filterMap_cons_some isTask,
          List.filterMap_cons_none noStageAgg, List.length_cons,
          List.length_cons]
        omega
      · have noTask : CustomMetrics.task? (.stageAgg metrics) = none := rfl
        have isStageAgg :
            CustomMetrics.stageAgg? (.stageAgg metrics) = some metrics := rfl
        rw [List.filterMap_cons_none noTask,
          List.filterMap_cons_some isStageAgg, List.length_cons,
          List.length_cons]
        omega

section Storing

variable [Gson CustomMetrics] (lawful : Gson.Lawful CustomMetrics)
  (writes : Gson.WritesFields) [DataPrepper]
  (prepper : DataPrepper.Lawful) (client : ObservabilityClient CustomMetrics)

include lawful writes prepper

theorem taskCopies_of_records (records : List CustomMetrics) :
    (records.map client.document).flatMap
        (metricsPipeline.copies "spark-task-metrics") =
      (records.filterMap CustomMetrics.task?).map fun metrics =>
        client.document (.task metrics) := by
  induction records with
  | nil => rfl
  | cons record rest inductionHypothesis =>
      have typed := lookup_metricsType lawful writes client record
      rw [List.map_cons, List.flatMap_cons, inductionHypothesis,
        (copies_metricsPipeline prepper typed).1]
      cases record <;> rfl

theorem stageAggCopies_of_records (records : List CustomMetrics) :
    (records.map client.document).flatMap
        (metricsPipeline.copies "spark-stage-agg-metrics") =
      (records.filterMap CustomMetrics.stageAgg?).map fun metrics =>
        client.document (.stageAgg metrics) := by
  induction records with
  | nil => rfl
  | cons record rest inductionHypothesis =>
      have typed := lookup_metricsType lawful writes client record
      rw [List.map_cons, List.flatMap_cons, inductionHypothesis,
        (copies_metricsPipeline prepper typed).2]
      cases record <;> rfl

/-- Requests that hold the documents of measured records. -/
theorem storedByType_of_requests
    {records : List CustomMetrics} {bodies : List (List UInt8)}
    (measured : ∀ record ∈ records, record.Measured)
    (documents : bodies.flatMap documentsOf = records.map client.document) :
    StoredByType records client.document
      (DataPrepper.written metricsPipeline bodies) := by
  have written (index : String) :
      (DataPrepper.written metricsPipeline bodies index).Perm
        ((records.map client.document).flatMap
          (metricsPipeline.copies index)) :=
    documents ▸ prepper.written metricsPipeline bodies index
  have tasks := written "spark-task-metrics"
  have stageAggs := written "spark-stage-agg-metrics"
  rw [taskCopies_of_records lawful writes prepper] at tasks
  rw [stageAggCopies_of_records lawful writes prepper] at stageAggs
  refine ⟨tasks, stageAggs, ?_, ?_⟩
  · intro index notTask notStageAgg
    apply List.Perm.eq_nil
    refine (written index).trans ?_
    rw [List.flatMap_eq_nil_iff.2 fun document _ =>
      copies_of_other_index notTask notStageAgg document]
  · rw [tasks.length_eq, stageAggs.length_eq, List.length_map,
      List.length_map, length_of_measured measured]

end Storing

section SentRecords

variable [Gson CustomMetrics]
variable (batchSize batchTime created : Int)
variable (inputs : List (ListenerEnvironment × SparkListenerEvent))
variable {arrived : List (SendAttempt CustomMetrics)}

/-- What is sent in a run is what the listener has measured. -/
theorem measured_recordsOf
    (made :
      ∀ attempt ∈ arrived,
        attempt ∈
          ((listenerMachine.outputs (create batchSize batchTime created)
            inputs).flatMap Reaction.answers).flatMap Answer.attempts) :
    ∀ record ∈ recordsOf (wholeOf arrived), record.Measured := by
  intro record member
  obtain ⟨attempt, isWhole, sent⟩ := List.mem_flatMap.1 member
  have isArrived := List.mem_of_mem_filter isWhole
  have sameAnswers :=
    (listener_drives_client (create batchSize batchTime created) inputs).2
  rw [sameAnswers] at made
  rcases mem_records_of_attempted (made attempt isArrived) sent with
    old | added
  · cases old
  · rw [addedRecords_flatMap_calls] at added
    exact measured_passedRecords batchSize batchTime created inputs record
      added

theorem documentsOf_recordsOf (lawful : Gson.Lawful CustomMetrics)
    (made :
      ∀ attempt ∈ arrived,
        attempt ∈
          ((listenerMachine.outputs (create batchSize batchTime created)
            inputs).flatMap Reaction.answers).flatMap Answer.attempts) :
    (arrived.map fun attempt => attempt.request.transmitted).flatMap
        documentsOf =
      (recordsOf (wholeOf arrived)).map
        (listenerMachine.after (create batchSize batchTime created)
          inputs).client.document := by
  obtain ⟨sameClient, sameAnswers⟩ :=
    listener_drives_client (create batchSize batchTime created) inputs
  rw [sameAnswers] at made
  rw [sameClient]
  exact documentsOf_arrived lawful made

theorem arrivesWhole_iff_of_made {attempt : SendAttempt CustomMetrics}
    (made :
      attempt ∈
        ((listenerMachine.outputs (create batchSize batchTime created)
          inputs).flatMap Reaction.answers).flatMap Answer.attempts) :
    attempt.request.ArrivesWhole ↔
      ∀ record ∈ attempt.records,
        IsAscii
          (Gson.render CustomMetrics
            ((listenerMachine.after (create batchSize batchTime created)
              inputs).client.enrichedObject record)) := by
  obtain ⟨sameClient, sameAnswers⟩ :=
    listener_drives_client (create batchSize batchTime created) inputs
  rw [sameAnswers] at made
  rw [sameClient]
  exact arrivesWhole_iff_of_attempted made

end SentRecords

/-- Whichever requests of a run arrive, in which order and how often ever:
every record in those that arrive whole is stored once for each arrival, in
the index of its type, with the context that the client has at the end.
Nothing is stored of a request that is cut off. -/
theorem arrived_metrics_are_stored_by_type
    [Gson CustomMetrics] (lawful : Gson.Lawful CustomMetrics)
    (writes : Gson.WritesFields)
    [DataPrepper] (prepper : DataPrepper.Lawful)
    (batchSize batchTime created : Int)
    (inputs : List (ListenerEnvironment × SparkListenerEvent))
    (arrived : List (SendAttempt CustomMetrics))
    (made :
      ∀ attempt ∈ arrived,
        attempt ∈
          ((listenerMachine.outputs (create batchSize batchTime created)
            inputs).flatMap Reaction.answers).flatMap Answer.attempts) :
    StoredByType (recordsOf (wholeOf arrived))
      (listenerMachine.after (create batchSize batchTime created)
        inputs).client.document
      (DataPrepper.written metricsPipeline
        (arrived.map fun attempt => attempt.request.transmitted)) :=
  storedByType_of_requests lawful writes prepper _
    (measured_recordsOf batchSize batchTime created inputs made)
    (documentsOf_recordsOf batchSize batchTime created inputs lawful made)

/-- Numbers without a decimal text are cut down to an integer. -/
def FieldValue.toJson : FieldValue → JsonValue
  | .text value => .string value
  | .whole value => .number value
  | .double value => .number (if IsDecimal value then value else value.floor)

theorem writtenAs_toJson (field : FieldValue) :
    field.WrittenAs field.toJson := by
  cases field with
  | text => rfl
  | whole => rfl
  | double value =>
      refine ⟨_, rfl, ?_⟩
      intro whole
      have decimal : IsDecimal value :=
        Rat.eq_num_of_isInt whole ▸ isDecimal_intCast value.num
      rw [if_pos decimal]

theorem wellFormed_toJson (field : FieldValue) :
    field.toJson.WellFormed := by
  cases field with
  | text => trivial
  | whole value => exact isDecimal_intCast value
  | double value =>
      by_cases decimal : IsDecimal value
      · simp [FieldValue.toJson, decimal, JsonValue.WellFormed]
      · simpa [FieldValue.toJson, decimal, JsonValue.WellFormed] using
          isDecimal_intCast value.floor

/-- It knows all fields of the metrics and writes every object. -/
abbrev metricsWriter : Gson CustomMetrics where
  toJsonObject metrics :=
    ⟨metrics.fields.map fun (key, field) => (key, field.toJson)⟩
  render object := Json.write (.object object.members)

theorem nodup_fieldNames (metrics : CustomMetrics) :
    (metrics.fields.map Prod.fst).Nodup := by
  cases metrics <;>
    simp [CustomMetrics.fields, CustomTaskMetrics.fields,
      CustomLightTaskMetrics.fields, CustomStageAggMetrics.fields]

theorem lawful_metricsWriter : @Gson.Lawful CustomMetrics metricsWriter :=
  letI := metricsWriter
  { wellFormed := by
      intro metrics
      refine ⟨?_, ?_⟩
      · have sameNames :
            (metrics.fields.map fun (key, field) =>
                (key, field.toJson)).map Prod.fst =
              metrics.fields.map Prod.fst := by
          rw [List.map_map]
          rfl
        exact sameNames ▸ nodup_fieldNames metrics
      · rw [JsonValue.membersWellFormed_iff]
        intro member written
        obtain ⟨⟨key, field⟩, _, rfl⟩ := List.mem_map.1 written
        exact wellFormed_toJson field
    read_render := fun _ wellFormed => Json.read_write wellFormed }

theorem writesFields_metricsWriter : @Gson.WritesFields metricsWriter := by
  intro metrics key
  change
    Option.Rel _ (metrics.fields.lookup key)
      ((metrics.fields.map fun (name, field) =>
        (name, field.toJson)).lookup key)
  induction metrics.fields with
  | nil => exact .none
  | cons first rest inductionHypothesis =>
      obtain ⟨name, field⟩ := first
      rw [List.map_cons, List.lookup_cons, List.lookup_cons]
      split
      · exact .some (writtenAs_toJson field)
      · exact inductionHypothesis

/-- The two sides of a comparison of words. -/
def readComparison : List Char → Option (String × String)
  | '/' :: rest =>
      match rest.dropWhile Char.isAlpha with
      | ' ' :: '=' :: '=' :: ' ' :: '"' :: literal =>
          some
            (String.ofList (rest.takeWhile Char.isAlpha),
              String.ofList (literal.takeWhile Char.isAlpha))
      | _ => none
  | _ => none

theorem readComparison_comparison {key literal : String}
    (keyWord : IsWord key) (literalWord : IsWord literal) :
    readComparison (comparison key literal).toList = some (key, literal) := by
  have shape :
      (comparison key literal).toList =
        '/' :: (key.toList ++
          ' ' :: '=' :: '=' :: ' ' :: '"' :: (literal.toList ++ ['"'])) := by
    simp [comparison]
  have literalRead :
      (literal.toList ++ ['"']).takeWhile Char.isAlpha = literal.toList := by
    rw [List.takeWhile_append_of_pos literalWord]
    simp
  rw [shape, readComparison, List.dropWhile_append_of_pos keyWord,
    List.takeWhile_append_of_pos keyWord]
  simp [literalRead]

/-- It knows comparisons of words. -/
def compares (condition : String) (document : Document) : Bool :=
  match readComparison condition.toList with
  | some (key, literal) =>
      match document.lookup key with
      | some (.string value) => value = literal
      | _ => false
  | none => false

/-- It writes documents in the order of their arrival. -/
abbrev plainPrepper : DataPrepper where
  holds := compares
  written pipeline bodies index :=
    letI : DataPrepper := ⟨compares, fun _ _ _ => []⟩
    (bodies.flatMap documentsOf).flatMap (pipeline.copies index)

theorem lawful_plainPrepper : @DataPrepper.Lawful plainPrepper :=
  letI := plainPrepper
  { comparison := by
      intro key literal keyWord literalWord document
      change compares _ document = true ↔ _
      rw [compares, readComparison_comparison keyWord literalWord]
      dsimp only
      generalize document.lookup key = found
      cases found with
      | none => simp
      | some value => cases value <;> simp
    written := fun _ _ _ => List.Perm.refl _ }

/-- A run whose records are written in ASCII sends whole requests only. -/
theorem whole_of_metricsWriter {batchSize batchTime created : Int}
    {inputs : List (ListenerEnvironment × SparkListenerEvent)}
    (ascii :
      letI := metricsWriter
      ∀ attempt ∈
          ((listenerMachine.outputs (create batchSize batchTime created)
            inputs).flatMap Reaction.answers).flatMap Answer.attempts,
        ∀ record ∈ attempt.records,
          (Json.writeChars
            (.object
              ((listenerMachine.after (create batchSize batchTime created)
                inputs).client.enrichedObject record).members)).all
              fun character => decide (character.val ≤ 0x7F)) :
    letI := metricsWriter
    ∀ attempt ∈
        ((listenerMachine.outputs (create batchSize batchTime created)
          inputs).flatMap Reaction.answers).flatMap Answer.attempts,
      attempt.request.ArrivesWhole := by
  let writer := metricsWriter
  intro attempt made
  rw [arrivesWhole_iff_of_made batchSize batchTime created inputs made]
  intro record sent
  exact isAscii_write (ascii attempt made record sent)

/-- The only request of the job arrives twice. -/
theorem arrived_metrics_are_stored_by_type_oneStageJob :
    letI := metricsWriter
    letI := plainPrepper
    let attempts :=
      ((listenerMachine.outputs (create 100 60 0) oneStageJob).flatMap
        Reaction.answers).flatMap Answer.attempts
    let arrived := attempts ++ attempts
    (recordsOf (wholeOf arrived)).map CustomMetrics.metricsType =
        ["taskMetrics", "stageAggMetrics", "taskMetrics",
          "stageAggMetrics"] ∧
      StoredByType (recordsOf (wholeOf arrived))
        (listenerMachine.after (create 100 60 0) oneStageJob).client.document
        (DataPrepper.written metricsPipeline
          (arrived.map fun attempt => attempt.request.transmitted)) := by
  let writer := metricsWriter
  let prepper := plainPrepper
  intro attempts arrived
  have made : ∀ attempt ∈ arrived, attempt ∈ attempts :=
    fun _ member => (List.mem_append.1 member).elim id id
  have whole : ∀ attempt ∈ attempts, attempt.request.ArrivesWhole :=
    whole_of_metricsWriter (by decide +kernel)
  constructor
  · rw [wholeOf_eq_self fun attempt member => whole attempt (made _ member)]
    decide +kernel
  · exact arrived_metrics_are_stored_by_type lawful_metricsWriter
      writesFields_metricsWriter lawful_plainPrepper 100 60 0 oneStageJob
      arrived made

end SparkObservability
