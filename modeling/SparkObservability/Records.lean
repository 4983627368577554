import Mathlib.Data.List.DropRight
import SparkObservability.Json.Values

/-!
# Records and what Gson does with them

The record types of `CustomMetrics.scala` and the part of a Log4j event that
the client looks at.  `Double` fields are exact rationals.  Gson itself is not
part of the repository: its two conversions are the parameters collected in
`Gson`.
-/

namespace SparkObservability

universe u

/-! ## Metrics and log events -/

/-- Metrics extracted from a Spark task. -/
structure CustomTaskMetrics where
  appName : String
  appId : String
  jobId : String
  stageId : Int
  stageAttemptId : Int
  taskId : String
  executorId : String
  partitionId : Int
  inputBytesRead : Rat
  inputRecordsRead : Rat
  runTime : Rat
  executorCpuTime : Rat
  peakExecutionMemory : Rat
  outputRecordsWritten : Rat
  outputBytesWritten : Rat
  shuffleRecordsRead : Rat
  shuffleBytesRead : Rat
  shuffleRecordsWritten : Rat
  shuffleBytesWritten : Rat
  metricTime : Int
  deriving DecidableEq, Repr

/-- The subset of the task metrics that the aggregation of a stage needs. -/
structure CustomLightTaskMetrics where
  appName : String
  appId : String
  jobId : String
  stageId : Int
  taskId : String
  inputBytesRead : Rat
  shuffleBytesRead : Rat
  metricTime : Int
  deriving DecidableEq, Repr

/-- Metrics aggregated from tasks at the stage level. -/
structure CustomStageAggMetrics where
  appName : String
  appId : String
  jobId : String
  stageId : Int
  inputBytesReadSkewness : Rat
  maxInputBytesRead : Rat
  shuffleBytesReadSkewness : Rat
  maxShuffleBytesRead : Rat
  metricTime : Int
  deriving DecidableEq, Repr

/-- The sealed class `CustomMetrics` with its three case classes. -/
inductive CustomMetrics where
  | task (metrics : CustomTaskMetrics)
  | lightTask (metrics : CustomLightTaskMetrics)
  | stageAgg (metrics : CustomStageAggMetrics)
  deriving DecidableEq, Repr

/-- What the client reads from a Log4j event besides its JSON form. -/
structure LogEvent where
  timeMillis : Int
  contextData : List (String × String)
  deriving DecidableEq, Repr

namespace LogEvent

/-- `getContextData.getValue(key)`, with `none` for the Java `null`. -/
def getValue (event : LogEvent) (key : String) : Option String :=
  event.contextData.lookup key

end LogEvent

/-! ## Gson -/

/-- What Gson does with records of type `A`. -/
class Gson (A : Type u) where
  /-- `JsonParser.parseString(gson.toJson(event)).getAsJsonObject`. -/
  toJsonObject : A → JsonObject
  /-- `jsonObject.toString`. -/
  render : JsonObject → String

/-- The run-time type tests that the client makes on its records. -/
class EventClass (A : Type u) where
  asCustomTaskMetrics : A → Option CustomTaskMetrics
  asLogEvent : A → Option LogEvent

instance : EventClass CustomMetrics where
  asCustomTaskMetrics
    | .task metrics => some metrics
    | .lightTask _ => none
    | .stageAgg _ => none
  asLogEvent _ := none

instance : EventClass LogEvent where
  asCustomTaskMetrics _ := none
  asLogEvent := some

/-! ### A Gson for concrete runs -/

/-- The text of a flat object whose numbers are whole and whose strings need
no escaping. -/
def plainRender (object : JsonObject) : String :=
  "\x7b" ++
    String.intercalate ","
      (object.members.map fun (key, value) =>
        "\"" ++ key ++ "\":" ++
          match value with
          | .number number => toString number.num
          | .string text => "\"" ++ text ++ "\""
          | _ => "null") ++
    "\x7d"

/-- It knows the time of a log event. -/
abbrev plainGson : Gson LogEvent where
  toJsonObject event := ⟨[("timeMillis", .number event.timeMillis)]⟩
  render := plainRender

/-- It knows the fields of the metrics. -/
abbrev plainMetricsGson : Gson CustomMetrics where
  toJsonObject
    | .task metrics =>
        ⟨[("appName", .string metrics.appName),
          ("appId", .string metrics.appId),
          ("jobId", .string metrics.jobId),
          ("stageId", .number metrics.stageId),
          ("stageAttemptId", .number metrics.stageAttemptId),
          ("taskId", .string metrics.taskId),
          ("executorId", .string metrics.executorId),
          ("partitionId", .number metrics.partitionId),
          ("inputBytesRead", .number metrics.inputBytesRead),
          ("inputRecordsRead", .number metrics.inputRecordsRead),
          ("runTime", .number metrics.runTime),
          ("executorCpuTime", .number metrics.executorCpuTime),
          ("peakExecutionMemory", .number metrics.peakExecutionMemory),
          ("outputRecordsWritten", .number metrics.outputRecordsWritten),
          ("outputBytesWritten", .number metrics.outputBytesWritten),
          ("shuffleRecordsRead", .number metrics.shuffleRecordsRead),
          ("shuffleBytesRead", .number metrics.shuffleBytesRead),
          ("shuffleRecordsWritten", .number metrics.shuffleRecordsWritten),
          ("shuffleBytesWritten", .number metrics.shuffleBytesWritten),
          ("metricTime", .number metrics.metricTime)]⟩
    | .lightTask metrics =>
        ⟨[("appName", .string metrics.appName),
          ("appId", .string metrics.appId),
          ("jobId", .string metrics.jobId),
          ("stageId", .number metrics.stageId),
          ("taskId", .string metrics.taskId),
          ("inputBytesRead", .number metrics.inputBytesRead),
          ("shuffleBytesRead", .number metrics.shuffleBytesRead),
          ("metricTime", .number metrics.metricTime)]⟩
    | .stageAgg metrics =>
        ⟨[("appName", .string metrics.appName),
          ("appId", .string metrics.appId),
          ("jobId", .string metrics.jobId),
          ("stageId", .number metrics.stageId),
          ("inputBytesReadSkewness", .number metrics.inputBytesReadSkewness),
          ("maxInputBytesRead", .number metrics.maxInputBytesRead),
          ("shuffleBytesReadSkewness",
            .number metrics.shuffleBytesReadSkewness),
          ("maxShuffleBytesRead", .number metrics.maxShuffleBytesRead),
          ("metricTime", .number metrics.metricTime)]⟩
  render := plainRender

/-! ## Java strings -/

/-- Java's `split` on one literal character: empty tokens at the end are
dropped, unless nothing was split at all. -/
def javaSplit (separator : Char) (text : String) : List String :=
  if separator ∈ text.toList then
    ((text.toList.splitOn separator).map String.ofList).rdropWhile (· = "")
  else
    [text]

/-- The number of UTF-16 code units of a character. -/
def utf16Units (character : Char) : Nat :=
  if character.val ≤ 0xFFFF then 1 else 2

/-- Java's `length()`. -/
def javaLength (text : String) : Nat :=
  (text.toList.map utf16Units).sum

end SparkObservability
