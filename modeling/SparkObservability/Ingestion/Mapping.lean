import SparkObservability.Bootstrap.Resources
import SparkObservability.Ingestion.Pipelines

/-!
# The mapping of the documents

The collector writes the documents of the metrics, and the bootstrap creates
the index templates that say how they are indexed.  The two agree: every
document is stored in an index with one template, which maps each of its
members, with a type for its values, except for the executor of a stage.
-/

namespace SparkObservability

open CustomMetricsListener Bootstrap

/-! ## Index patterns -/

/-- A pattern where `*` stands for any text. -/
def globMatches : List Char → List Char → Bool
  | [], text => text.isEmpty
  | '*' :: pattern, text => text.tails.any fun rest => globMatches pattern rest
  | _ :: _, [] => false
  | expected :: pattern, character :: rest =>
      expected = character && globMatches pattern rest

/-- The value at a path of keys. -/
def JsonValue.atPath : List String → JsonValue → Option JsonValue
  | [], value => some value
  | key :: path, .object members =>
      (members.lookup key).bind (JsonValue.atPath path)
  | _ :: _, _ => none

/-- The list of patterns holds one for the index. -/
def patternsMatch (index : String) : Option JsonValue → Bool
  | some (.array patterns) =>
      patterns.any fun
        | .string pattern => globMatches pattern.toList index.toList
        | _ => false
  | _ => false

/-- The template is one for the index. -/
def appliesTo (index : String) (template : JsonValue) : Bool :=
  patternsMatch index (template.atPath ["index_patterns"])

/-- The role of the pipelines has a permission for the index. -/
def roleCovers (index : String) : Bool :=
  match pipelineRole.atPath ["index_permissions"] with
  | some (.array permissions) =>
      permissions.any fun permission =>
        patternsMatch index (permission.atPath ["index_patterns"])
  | _ => false

/-- The index templates that the bootstrap creates. -/
def indexTemplates : List JsonValue :=
  [resources.logsTemplate.document, resources.taskTemplate.document,
    resources.stageAggTemplate.document]

/-- The mappings of the members of a document, by their names. -/
def mappingsOf (template : JsonValue) : List (String × JsonValue) :=
  match template.atPath ["template", "mappings", "properties"] with
  | some (.object properties) => properties
  | _ => []

/-! ## Values and their mappings -/

/-- A member that is mapped in this way can have this value. -/
inductive Accepts : JsonValue → JsonValue → Prop
  | keyword (text : String) : Accepts (ofType "keyword") (.string text)
  | text (text : String) : Accepts textWithKeyword (.string text)
  | long (number : Int) : Accepts (ofType "long") (.number number)
  | date (number : Int) : Accepts (ofType "date") (.number number)
  | double (number : Rat) : Accepts (ofType "double") (.number number)
  | disabled (value : JsonValue) : Accepts disabled value

/-- The mappings and the members of a document agree, except for the members
without a mapping. -/
structure MappedBut (unmapped : List String)
    (mappings : List (String × JsonValue)) (document : Document) : Prop where
  accepts :
    ∀ key value, document.lookup key = some value → key ∉ unmapped →
      ∃ mapping, mappings.lookup key = some mapping ∧ Accepts mapping value
  present :
    ∀ key mapping, mappings.lookup key = some mapping →
      ∃ value, document.lookup key = some value
  unmapped :
    ∀ key ∈ unmapped,
      mappings.lookup key = none ∧ ∃ value, document.lookup key = some value

/-- What the field can hold is accepted. -/
def FieldValue.AcceptedBy (field : FieldValue) (mapping : JsonValue) : Prop :=
  ∀ value, field.WrittenAs value → Accepts mapping value

section Fields

@[simp]
theorem text_acceptedBy_keyword (text : String) :
    (FieldValue.text text).AcceptedBy (ofType "keyword") := by
  rintro _ rfl
  exact .keyword text

@[simp]
theorem text_acceptedBy_text (text : String) :
    (FieldValue.text text).AcceptedBy textWithKeyword := by
  rintro _ rfl
  exact .text text

@[simp]
theorem whole_acceptedBy_long (number : Int) :
    (FieldValue.whole number).AcceptedBy (ofType "long") := by
  rintro _ rfl
  exact .long number

@[simp]
theorem whole_acceptedBy_date (number : Int) :
    (FieldValue.whole number).AcceptedBy (ofType "date") := by
  rintro _ rfl
  exact .date number

@[simp]
theorem double_acceptedBy_double (number : Rat) :
    (FieldValue.double number).AcceptedBy (ofType "double") := by
  rintro _ ⟨written, rfl, _⟩
  exact .double written

theorem double_acceptedBy_long {number : Rat}
    (whole : (FieldValue.double number).Whole) :
    (FieldValue.double number).AcceptedBy (ofType "long") := by
  rintro _ ⟨written, rfl, same⟩
  rw [same whole, Rat.eq_num_of_isInt whole]
  exact .long number.num

@[simp]
theorem acceptedBy_disabled (field : FieldValue) :
    field.AcceptedBy disabled :=
  fun value _ => .disabled value

/-- The fields of the record have mappings for their values. -/
def FieldsMapped
    (mappings : List (String × JsonValue)) (metrics : CustomMetrics) : Prop :=
  ∀ field ∈ metrics.fields,
    ∃ mapping, mappings.lookup field.1 = some mapping ∧
      field.2.AcceptedBy mapping

theorem fieldsMapped_task {metrics : CustomTaskMetrics}
    (measured : (CustomMetrics.task metrics).Measured) :
    FieldsMapped taskProperties (.task metrics) := by
  have whole := measured.whole
  simp only [CustomMetrics.fields, CustomTaskMetrics.fields,
    List.forall_mem_cons, IsSkewness] at whole
  simp only [FieldsMapped, CustomMetrics.fields, CustomTaskMetrics.fields,
    List.forall_mem_cons]
  simp [taskProperties, List.lookup_cons, double_acceptedBy_long, whole]

theorem fieldsMapped_stageAgg {metrics : CustomStageAggMetrics}
    (measured : (CustomMetrics.stageAgg metrics).Measured) :
    FieldsMapped stageAggProperties (.stageAgg metrics) := by
  have whole := measured.whole
  simp only [CustomMetrics.fields, CustomStageAggMetrics.fields,
    List.forall_mem_cons, IsSkewness] at whole
  simp only [FieldsMapped, CustomMetrics.fields, CustomStageAggMetrics.fields,
    List.forall_mem_cons]
  simp [stageAggProperties, List.lookup_cons, double_acceptedBy_long, whole]

end Fields

/-! ## Documents and their mappings -/

/-- The members of a document that the templates do not know. -/
def CustomMetrics.unmapped : CustomMetrics → List String
  | .task _ => []
  | .lightTask _ => ["executorId"]
  | .stageAgg _ => ["executorId"]

/-- The mappings of what the client adds to the records. -/
structure ContextMapped (unmapped : List String)
    (mappings : List (String × JsonValue)) : Prop where
  appName : mappings.lookup "appName" = some textWithKeyword
  appId : mappings.lookup "appId" = some (ofType "keyword")
  executorId :
    "executorId" ∉ unmapped →
      mappings.lookup "executorId" = some (ofType "keyword")

section Lookup

variable {α : Type} {entries : List (String × α)} {key : String} {value : α}

theorem key_of_lookup (found : entries.lookup key = some value) :
    key ∈ entries.map Prod.fst := by
  obtain ⟨initial, rest, shape, _⟩ := List.lookup_eq_some_iff.1 found
  simp [shape]

theorem exists_lookup_of_key (member : key ∈ entries.map Prod.fst) :
    ∃ found, entries.lookup key = some found := by
  obtain ⟨entry, isEntry, rfl⟩ := List.mem_map.1 member
  exact Option.isSome_iff_exists.1
    (List.lookup_isSome_iff.2 ⟨entry, isEntry, beq_self_eq_true _⟩)

end Lookup

section Documents

variable [Gson CustomMetrics] (lawful : Gson.Lawful CustomMetrics)
  (writes : Gson.WritesFields) (client : ObservabilityClient CustomMetrics)
  (metrics : CustomMetrics)

omit [Gson CustomMetrics] in
theorem addedKeys_metrics (metrics : CustomMetrics) :
    addedKeys metrics = ["appName", "appId", "executorId"] := by
  cases metrics <;> rfl

include lawful

/-- What the client adds is text. -/
theorem document_added {key : String} (added : key ∈ addedKeys metrics) :
    ∃ text, (client.document metrics).lookup key = some (.string text) := by
  have enriched := enriched_enrichedObject lawful client metrics
  simp only [addedKeys_metrics, List.mem_cons, List.not_mem_nil, or_false]
    at added
  rcases added with rfl | rfl | rfl
  · exact ⟨_, enriched.appName⟩
  · exact ⟨_, enriched.appId⟩
  · cases ofTask : EventClass.asCustomTaskMetrics metrics with
    | none => exact ⟨_, enriched.clientExecutor ofTask⟩
    | some task => exact ⟨_, enriched.taskExecutor task ofTask⟩

include writes

/-- Everything else is a field as Gson writes it. -/
theorem document_written {key : String} (notAdded : key ∉ addedKeys metrics) :
    Option.Rel FieldValue.WrittenAs (metrics.fields.lookup key)
      ((client.document metrics).lookup key) := by
  have unchanged :=
    (enriched_enrichedObject lawful client metrics).unchanged key notAdded
  rw [ObservabilityClient.document, unchanged]
  exact writes metrics key

theorem mappedBut_document
    {metrics : CustomMetrics} {mappings : List (String × JsonValue)}
    (fields : FieldsMapped mappings metrics)
    (context : ContextMapped metrics.unmapped mappings)
    (named :
      mappings.map Prod.fst ⊆ metrics.fields.map Prod.fst)
    (executor :
      ∀ key ∈ metrics.unmapped,
        key = "executorId" ∧ mappings.lookup key = none) :
    MappedBut metrics.unmapped mappings (client.document metrics) where
  accepts := by
    intro key value found notUnmapped
    by_cases added : key ∈ addedKeys metrics
    · obtain ⟨text, isText⟩ := document_added lawful client metrics added
      cases found.symm.trans isText
      simp only [addedKeys_metrics, List.mem_cons, List.not_mem_nil, or_false]
        at added
      rcases added with rfl | rfl | rfl
      · exact ⟨_, context.appName, .text text⟩
      · exact ⟨_, context.appId, .keyword text⟩
      · exact ⟨_, context.executorId notUnmapped, .keyword text⟩
    · have written := document_written lawful writes client metrics added
      rw [found] at written
      cases isField : metrics.fields.lookup key with
      | none =>
          rw [isField] at written
          cases written
      | some field =>
          rw [isField] at written
          obtain ⟨initial, rest, shape, _⟩ := List.lookup_eq_some_iff.1 isField
          obtain ⟨mapping, isMapped, accepts⟩ :=
            fields (key, field) (by simp [shape])
          cases written with
          | some asWritten =>
              exact ⟨mapping, isMapped, accepts value asWritten⟩
  present := by
    intro key mapping isMapped
    by_cases added : key ∈ addedKeys metrics
    · obtain ⟨text, isText⟩ := document_added lawful client metrics added
      exact ⟨_, isText⟩
    · obtain ⟨field, isField⟩ :=
        exists_lookup_of_key (named (key_of_lookup isMapped))
      have written := document_written lawful writes client metrics added
      rw [isField] at written
      cases found : (client.document metrics).lookup key with
      | none =>
          rw [found] at written
          cases written
      | some value => exact ⟨value, rfl⟩
  unmapped := by
    intro key isUnmapped
    obtain ⟨rfl, noMapping⟩ := executor key isUnmapped
    have added : "executorId" ∈ addedKeys metrics := by
      simp [addedKeys_metrics]
    obtain ⟨text, isText⟩ := document_added lawful client metrics added
    exact ⟨noMapping, _, isText⟩

/-- The documents of what the listener passes have the mappings of their
templates. -/
theorem mappedBut_task
    {metrics : CustomTaskMetrics}
    (measured : (CustomMetrics.task metrics).Measured) :
    MappedBut [] taskProperties (client.document (.task metrics)) := by
  refine
    mappedBut_document lawful writes client (fieldsMapped_task measured)
      ⟨rfl, rfl, fun _ => rfl⟩ ?_ (List.forall_mem_nil _)
  simp [taskProperties, CustomMetrics.fields, CustomTaskMetrics.fields]

theorem mappedBut_stageAgg
    {metrics : CustomStageAggMetrics}
    (measured : (CustomMetrics.stageAgg metrics).Measured) :
    MappedBut ["executorId"] stageAggProperties
      (client.document (.stageAgg metrics)) := by
  refine
    mappedBut_document lawful writes client (fieldsMapped_stageAgg measured)
      ⟨rfl, rfl, fun notUnmapped => ?_⟩ ?_ ?_
  · exact absurd List.mem_cons_self notUnmapped
  · simp [stageAggProperties, CustomMetrics.fields,
      CustomStageAggMetrics.fields]
  · intro key isUnmapped
    cases List.mem_singleton.1 isUnmapped
    exact ⟨rfl, rfl⟩

end Documents

/-! ## What is stored of a run -/

/-- The document is stored in one index, with the mappings of one template
for it. -/
structure StoredAsMapped [DataPrepper] (unmapped : List String)
    (document : Document) (sink : Sink) (template : JsonValue) : Prop where
  sinks :
    metricsPipeline.sinks.filter
      (fun sink => metricsPipeline.takes sink document) = [sink]
  templates : indexTemplates.filter (appliesTo sink.index) = [template]
  permitted : roleCovers sink.index = true
  mapped : MappedBut unmapped (mappingsOf template) document

/-- The templates are told apart by the indexes of the sinks. -/
theorem templates_of_sinks :
    indexTemplates.filter (appliesTo taskSink.index) =
        [resources.taskTemplate.document] ∧
      indexTemplates.filter (appliesTo stageAggSink.index) =
        [resources.stageAggTemplate.document] := by
  constructor
  · have logs :
        appliesTo taskSink.index resources.logsTemplate.document = false := by
      decide +kernel
    have task :
        appliesTo taskSink.index resources.taskTemplate.document = true := by
      decide +kernel
    have stageAgg :
        appliesTo taskSink.index resources.stageAggTemplate.document =
          false := by
      decide +kernel
    simp [indexTemplates, logs, task, stageAgg]
  · have logs :
        appliesTo stageAggSink.index resources.logsTemplate.document =
          false := by
      decide +kernel
    have task :
        appliesTo stageAggSink.index resources.taskTemplate.document =
          false := by
      decide +kernel
    have stageAgg :
        appliesTo stageAggSink.index resources.stageAggTemplate.document =
          true := by
      decide +kernel
    simp [indexTemplates, logs, task, stageAgg]

/-- Whatever the listener passes to its client in a run, the pipeline stores
it in one index, which the role of the pipelines covers and for which there
is one template, and this template maps all members of the document with types
for their values, but for the executor of a stage. -/
theorem passed_metrics_are_stored_as_mapped
    [Gson CustomMetrics] (lawful : Gson.Lawful CustomMetrics)
    (writes : Gson.WritesFields)
    [DataPrepper] (prepper : DataPrepper.Lawful)
    (batchSize batchTime created : Int)
    (inputs : List (ListenerEnvironment × SparkListenerEvent)) :
    let listener := create batchSize batchTime created
    ∀ record ∈ passedRecords (listenerMachine.outputs listener inputs),
      ∃ sink template,
        StoredAsMapped record.unmapped
          ((listenerMachine.after listener inputs).client.document record)
          sink template := by
  intro listener record passed
  have measured :=
    measured_passedRecords batchSize batchTime created inputs record passed
  generalize (listenerMachine.after listener inputs).client = client
  have typed := lookup_metricsType lawful writes client record
  obtain ⟨task, stageAgg⟩ := takes_metricsPipeline prepper typed
  have sinks : metricsPipeline.sinks = [stageAggSink, taskSink] := rfl
  obtain ⟨metrics, rfl⟩ | ⟨metrics, rfl⟩ := measured.kind
  · refine
      ⟨taskSink, resources.taskTemplate.document, ?_, templates_of_sinks.1,
        by decide +kernel, mappedBut_task lawful writes client measured⟩
    simp [sinks, task, stageAgg, CustomMetrics.metricsType]
  · refine
      ⟨stageAggSink, resources.stageAggTemplate.document, ?_,
        templates_of_sinks.2, by decide +kernel,
        mappedBut_stageAgg lawful writes client measured⟩
    simp [sinks, task, stageAgg, CustomMetrics.metricsType]

theorem passed_metrics_are_stored_as_mapped_oneStageJob :
    letI := metricsWriter
    letI := plainPrepper
    let passed :=
      passedRecords (listenerMachine.outputs (create 100 60 0) oneStageJob)
    passed.map CustomMetrics.unmapped = [[], ["executorId"]] ∧
      ∀ record ∈ passed, ∃ sink template,
        StoredAsMapped record.unmapped
          ((listenerMachine.after (create 100 60 0)
            oneStageJob).client.document record)
          sink template :=
  letI := metricsWriter
  letI := plainPrepper
  ⟨by decide +kernel,
    passed_metrics_are_stored_as_mapped lawful_metricsWriter
      writesFields_metricsWriter lawful_plainPrepper 100 60 0 oneStageJob⟩

end SparkObservability
