import SparkObservability.Bootstrap.Operations

/-!
# The resource files of the bootstrap

The role of the pipeline and the three index templates.  A file has one of
these documents as its content, up to white space.
-/

namespace SparkObservability

/-- The file that has the document as its content. -/
def JsonFile.ofDocument
    (document : JsonValue) (wellFormed : document.WellFormed) : JsonFile where
  content := Json.write document
  document := document
  loads := Python.loads_of_read (Json.read_write wellFormed)

namespace Bootstrap

/-! ## Index mappings -/

def ofType (name : String) : JsonValue :=
  .object [("type", .string name)]

def textWithKeyword : JsonValue :=
  .object
    [("type", .string "text"),
      ("fields",
        .object
          [("keyword",
            .object
              [("type", .string "keyword"), ("ignore_above", .number 256)])])]

def disabled : JsonValue :=
  .object [("enabled", .bool false)]

def withProperties (properties : List (String × JsonValue)) : JsonValue :=
  .object [("properties", .object properties)]

/-- The index templates differ in their patterns and properties only. -/
def templateDocument
    (indexPattern : String) (properties : List (String × JsonValue)) :
    JsonValue :=
  .object
    [("index_patterns", .array [.string indexPattern]),
      ("template",
        .object
          [("aliases", .object []),
            ("mappings", withProperties properties),
            ("settings",
              .object
                [("index",
                  .object
                    [("number_of_shards", .string "1"),
                      ("number_of_replicas", .string "1")])])])]

/-! ## The documents -/

def pipelineRole : JsonValue :=
  .object
    [("cluster_permissions",
        .array [.string "cluster_composite_ops", .string "cluster_monitor"]),
      ("index_permissions",
        .array
          [.object
            [("index_patterns", .array [.string "spark*"]),
              ("dls", .string ""),
              ("fls", .array []),
              ("masked_fields", .array []),
              ("allowed_actions",
                .array
                  [.string "crud", .string "create_index",
                    .string "manage"])]])]

def stageAggProperties : List (String × JsonValue) :=
  [("appId", ofType "keyword"),
    ("appName", textWithKeyword),
    ("inputBytesReadSkewness", ofType "double"),
    ("jobId", ofType "keyword"),
    ("maxInputBytesRead", ofType "long"),
    ("maxShuffleBytesRead", ofType "long"),
    ("metricsType", disabled),
    ("shuffleBytesReadSkewness", ofType "double"),
    ("stageId", ofType "long"),
    ("metricTime", ofType "date")]

def taskProperties : List (String × JsonValue) :=
  [("appId", ofType "keyword"),
    ("appName", textWithKeyword),
    ("executorCpuTime", ofType "long"),
    ("executorId", ofType "keyword"),
    ("inputBytesRead", ofType "long"),
    ("inputRecordsRead", ofType "long"),
    ("jobId", ofType "keyword"),
    ("metricsType", disabled),
    ("outputBytesWritten", ofType "long"),
    ("outputRecordsWritten", ofType "long"),
    ("partitionId", ofType "long"),
    ("peakExecutionMemory", ofType "long"),
    ("runTime", ofType "long"),
    ("shuffleBytesRead", ofType "long"),
    ("shuffleBytesWritten", ofType "long"),
    ("shuffleRecordsRead", ofType "long"),
    ("shuffleRecordsWritten", ofType "long"),
    ("stageAttemptId", ofType "long"),
    ("stageId", ofType "long"),
    ("taskId", ofType "keyword"),
    ("metricTime", ofType "date")]

/-- The stack trace of a log event, or of its cause, where the names of files
and versions are mapped in another way. -/
def extendedStackTrace (nameMapping : JsonValue) : JsonValue :=
  withProperties
    [("extraClassInfo",
        withProperties
          [("exact", ofType "boolean"),
            ("location", textWithKeyword),
            ("version", nameMapping)]),
      ("stackTraceElement",
        withProperties
          [("classLoaderName", textWithKeyword),
            ("declaringClass", textWithKeyword),
            ("fileName", nameMapping),
            ("format", ofType "long"),
            ("lineNumber", ofType "long"),
            ("methodName", textWithKeyword),
            ("moduleName", textWithKeyword),
            ("moduleVersion", nameMapping)])]

def thrownProxy : JsonValue :=
  withProperties
    [("causeProxy",
        withProperties
          [("commonElementCount", ofType "long"),
            ("extendedStackTrace", extendedStackTrace textWithKeyword),
            ("name", textWithKeyword)]),
      ("commonElementCount", ofType "long"),
      ("extendedStackTrace", extendedStackTrace (ofType "keyword")),
      ("localizedMessage", ofType "text"),
      ("message", ofType "text"),
      ("name", ofType "keyword")]

def contextData : JsonValue :=
  withProperties
    [("immutable", ofType "boolean"),
      ("map",
        withProperties
          [("mdc", withProperties [("taskName", textWithKeyword)])]),
      ("threshold", ofType "long")]

def logsProperties : List (String × JsonValue) :=
  [("appId", ofType "keyword"),
    ("appName", textWithKeyword),
    ("contextData", contextData),
    ("endOfBatch", ofType "boolean"),
    ("executorId", ofType "keyword"),
    ("fqcn", textWithKeyword),
    ("includeLocation", ofType "boolean"),
    ("instant",
      withProperties
        [("epochSecond", ofType "long"), ("nanoOfSecond", ofType "long")]),
    ("level",
      withProperties
        [("intLevel", ofType "long"),
          ("name", ofType "keyword"),
          ("standardLevel", ofType "keyword")]),
    ("loggerName", ofType "keyword"),
    ("message", withProperties [("message", ofType "text")]),
    ("nanoTime", ofType "long"),
    ("parameterCount", ofType "long"),
    ("populated", ofType "boolean"),
    ("threadId", ofType "long"),
    ("threadName", textWithKeyword),
    ("threadPriority", ofType "long"),
    ("logTime", ofType "date"),
    ("thrownProxy", thrownProxy)]

/-! ## They are well formed -/

open JsonValue

@[simp]
theorem wellFormed_ofType (name : String) : (ofType name).WellFormed := by
  simp [ofType, JsonValue.WellFormed, MembersWellFormed]

@[simp]
theorem wellFormed_textWithKeyword : textWithKeyword.WellFormed := by
  have whole : IsDecimal 256 := isDecimal_intCast 256
  simp [textWithKeyword, JsonValue.WellFormed, MembersWellFormed, whole]

@[simp]
theorem wellFormed_disabled : disabled.WellFormed := by
  simp [disabled, JsonValue.WellFormed, MembersWellFormed]

theorem wellFormed_withProperties
    {properties : List (String × JsonValue)}
    (distinct : (properties.map Prod.fst).Nodup)
    (wellFormed : MembersWellFormed properties) :
    (withProperties properties).WellFormed := by
  simp [withProperties, JsonValue.WellFormed, MembersWellFormed, distinct,
    wellFormed]

theorem wellFormed_templateDocument
    {properties : List (String × JsonValue)}
    (distinct : (properties.map Prod.fst).Nodup)
    (wellFormed : MembersWellFormed properties) (indexPattern : String) :
    (templateDocument indexPattern properties).WellFormed := by
  simp [templateDocument, JsonValue.WellFormed, MembersWellFormed,
    AllWellFormed, wellFormed_withProperties distinct wellFormed]

theorem wellFormed_pipelineRole : pipelineRole.WellFormed := by
  simp [pipelineRole, JsonValue.WellFormed, MembersWellFormed, AllWellFormed]

theorem wellFormed_stageAggTemplate :
    (templateDocument "spark-stage-agg-metrics*"
      stageAggProperties).WellFormed := by
  apply wellFormed_templateDocument
  · decide
  · simp [stageAggProperties, MembersWellFormed]

theorem wellFormed_taskTemplate :
    (templateDocument "spark-task-metrics*" taskProperties).WellFormed := by
  apply wellFormed_templateDocument
  · decide
  · simp [taskProperties, MembersWellFormed]

theorem wellFormed_extendedStackTrace
    {nameMapping : JsonValue} (wellFormed : nameMapping.WellFormed) :
    (extendedStackTrace nameMapping).WellFormed := by
  simp [extendedStackTrace, withProperties, JsonValue.WellFormed,
    MembersWellFormed, wellFormed]

theorem wellFormed_logsTemplate :
    (templateDocument "spark-logs*" logsProperties).WellFormed := by
  have cause := wellFormed_extendedStackTrace wellFormed_textWithKeyword
  have thrown := wellFormed_extendedStackTrace (wellFormed_ofType "keyword")
  apply wellFormed_templateDocument
  · decide
  · simp [logsProperties, contextData, thrownProxy, withProperties,
      JsonValue.WellFormed, MembersWellFormed, cause, thrown]

/-- The resource files, with one of the saved objects. -/
def resources : Resources where
  pipelineRole := .ofDocument pipelineRole wellFormed_pipelineRole
  logsTemplate := .ofDocument _ wellFormed_logsTemplate
  taskTemplate := .ofDocument _ wellFormed_taskTemplate
  stageAggTemplate := .ofDocument _ wellFormed_stageAggTemplate
  dataSkew :=
    "\x7b\"id\":\"33ca7a70-1cb5-11ee-8980-5f1aaf1f028d\",\"type\":\"search\"\x7d\n"

end Bootstrap

end SparkObservability
