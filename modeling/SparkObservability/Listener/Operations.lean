import SparkObservability.Client.Operations
import Mathlib.Algebra.Order.Field.Rat
import Mathlib.Logic.Function.Basic

/-!
# The metrics listener

The callbacks of `CustomMetricsListener.scala` and the two methods that
collect metrics.  A callback returns the listener it leaves behind, the call
it made of the client and the exception it raised, because Spark goes on to
deliver events to a listener that has raised one.
-/

namespace SparkObservability

/-! ## Spark events -/

structure InputMetrics where
  bytesRead : Int
  recordsRead : Int

structure OutputMetrics where
  recordsWritten : Int
  bytesWritten : Int

structure ShuffleReadMetrics where
  recordsRead : Int
  totalBytesRead : Int

structure ShuffleWriteMetrics where
  recordsWritten : Int
  bytesWritten : Int

structure TaskMetrics where
  executorRunTime : Int
  executorCpuTime : Int
  peakExecutionMemory : Int
  inputMetrics : InputMetrics
  outputMetrics : OutputMetrics
  shuffleReadMetrics : ShuffleReadMetrics
  shuffleWriteMetrics : ShuffleWriteMetrics

structure TaskInfo where
  id : String
  executorId : String
  partitionId : Int

structure SparkListenerJobStart where
  jobId : Int
  stageIds : List Int

/-- A finished task; Spark sets `taskMetrics` to `null` (`none` here) for a
task that failed before it reported any. -/
structure SparkListenerTaskEnd where
  stageId : Int
  stageAttemptId : Int
  taskInfo : TaskInfo
  taskMetrics : Option TaskMetrics

structure SparkListenerStageCompleted where
  stageId : Int

/-- The events of the callbacks that the listener overrides. -/
inductive SparkListenerEvent where
  | applicationStart
  | applicationEnd
  | jobStart (jobStart : SparkListenerJobStart)
  | jobEnd
  | stageCompleted (stageCompleted : SparkListenerStageCompleted)
  | taskEnd (taskEnded : SparkListenerTaskEnd)

/-! ## The listener -/

/-- The exceptions that leave a callback. -/
inductive ListenerException where
  /-- `stageToJobMapping(key)` for a key without an entry. -/
  | noSuchElement (key : Int)
  /-- `taskEnded.taskMetrics` is `null`. -/
  | nullPointer
  /-- `reduce` or `max` of an empty collection. -/
  | emptyCollection
  | fromClient (exception : ClientException)
  deriving DecidableEq, Repr

/-- What a callback finds outside the listener: the answers of `SparkEnv` and
the clock while it collects metrics, the clock while it stores the light
metrics, and what its call of the client finds. -/
structure ListenerEnvironment where
  sparkEnv : SparkEnv
  metricTime : Int
  lightMetricTime : Int
  client : Environment

/-- An environment in which Spark is up and the clock stands still during a
callback. -/
def ListenerEnvironment.running (now : Int) (http : HttpCall) :
    ListenerEnvironment where
  sparkEnv := ⟨some "app", some "app-1", some "driver"⟩
  metricTime := now / 1000000
  lightMetricTime := now / 1000000
  client := .running now http

structure CustomMetricsListener where
  client : ObservabilityClient CustomMetrics
  stageToJobMapping : Int → Option String
  taskMetricsBuffer : List CustomLightTaskMetrics

/-- What a callback does: its call of the client, if it makes one, with the
answer it gets, and the exception it raises. -/
structure Reaction where
  interaction : Option (ClientCall CustomMetrics × Answer CustomMetrics)
  raised : Option ListenerException

/-- Scala's `reduce`, which throws on an empty collection; `max` and `min`
are reductions too. -/
def reduce (op : Rat → Rat → Rat) :
    List Rat → Except ListenerException Rat
  | [] => .error .emptyCollection
  | first :: rest => .ok (rest.foldl op first)

/-- The two aggregates of one column of the task metrics. -/
structure ColumnAggregates where
  maxRelDistance : Rat
  maxBytesRead : Rat
  deriving DecidableEq, Repr

/-- The computation that `collectStageCustomMetrics` makes for each of its
two columns. -/
def aggregateColumn (bytesRead : List Rat) :
    Except ListenerException ColumnAggregates := do
  let length := bytesRead.length
  let avgBytesRead := (← reduce (· + ·) bytesRead) / length
  let maxBytesRead ← reduce max bytesRead
  let minBytesRead ← reduce min bytesRead
  let rangeBytesRead :=
    if maxBytesRead - minBytesRead = 0 then 1 else maxBytesRead - minBytesRead
  let maxRelDistance ←
    reduce max (bytesRead.map fun x => |x - avgBytesRead| / rangeBytesRead)
  return ⟨maxRelDistance, maxBytesRead⟩

namespace CustomMetricsListener

/-- A new listener, whose client is created at the given instant. -/
def create (batchSize batchTime created : Int) : CustomMetricsListener where
  client := .create batchSize batchTime created
  stageToJobMapping _ := none
  taskMetricsBuffer := []

/-- The exceptions are those of the first argument that throws. -/
def collectTaskCustomMetrics
    (env : ListenerEnvironment) (listener : CustomMetricsListener)
    (taskEnded : SparkListenerTaskEnd) :
    Except ListenerException CustomTaskMetrics :=
  match listener.stageToJobMapping taskEnded.stageId with
  | none => .error (.noSuchElement taskEnded.stageId)
  | some jobId =>
      match taskEnded.taskMetrics with
      | none => .error .nullPointer
      | some taskMetrics =>
          .ok
            { appName := Utils.getAppName env.sparkEnv
              appId := Utils.getAppId env.sparkEnv
              jobId := jobId
              stageId := taskEnded.stageId
              stageAttemptId := taskEnded.stageAttemptId
              taskId := taskEnded.taskInfo.id
              executorId := taskEnded.taskInfo.executorId
              partitionId := taskEnded.taskInfo.partitionId
              inputBytesRead := taskMetrics.inputMetrics.bytesRead
              inputRecordsRead := taskMetrics.inputMetrics.recordsRead
              runTime := taskMetrics.executorRunTime
              executorCpuTime := taskMetrics.executorCpuTime
              peakExecutionMemory := taskMetrics.peakExecutionMemory
              outputRecordsWritten := taskMetrics.outputMetrics.recordsWritten
              outputBytesWritten := taskMetrics.outputMetrics.bytesWritten
              shuffleRecordsRead := taskMetrics.shuffleReadMetrics.recordsRead
              shuffleBytesRead := taskMetrics.shuffleReadMetrics.totalBytesRead
              shuffleRecordsWritten :=
                taskMetrics.shuffleWriteMetrics.recordsWritten
              shuffleBytesWritten :=
                taskMetrics.shuffleWriteMetrics.bytesWritten
              metricTime := env.metricTime }

/-- The event itself is only read for debug messages. -/
def collectStageCustomMetrics
    (env : ListenerEnvironment) (listener : CustomMetricsListener) :
    Except ListenerException CustomStageAggMetrics := do
  let input ← aggregateColumn (listener.taskMetricsBuffer.map (·.inputBytesRead))
  let shuffle ←
    aggregateColumn (listener.taskMetricsBuffer.map (·.shuffleBytesRead))
  match listener.taskMetricsBuffer with
  | [] => .error .emptyCollection
  | metric :: _ =>
      return {
        appName := metric.appName
        appId := metric.appId
        jobId := metric.jobId
        stageId := metric.stageId
        inputBytesReadSkewness := input.maxRelDistance
        maxInputBytesRead := input.maxBytesRead
        shuffleBytesReadSkewness := shuffle.maxRelDistance
        maxShuffleBytesRead := shuffle.maxBytesRead
        metricTime := env.metricTime }

/-- The light metrics that `onTaskEnd` derives from the task metrics. -/
def lightMetrics
    (env : ListenerEnvironment) (metrics : CustomTaskMetrics) :
    CustomLightTaskMetrics where
  appName := metrics.appName
  appId := metrics.appId
  jobId := metrics.jobId
  stageId := metrics.stageId
  taskId := metrics.taskId
  inputBytesRead := metrics.inputBytesRead
  shuffleBytesRead := metrics.shuffleBytesRead
  metricTime := env.lightMetricTime

section Callbacks

variable [Gson CustomMetrics]

/-- Call the client, and do what is left of the callback if the call returns
normally. -/
def callClient
    (listener : CustomMetricsListener) (call : ClientCall CustomMetrics)
    (finish : CustomMetricsListener → CustomMetricsListener) :
    CustomMetricsListener × Reaction :=
  let result := (clientMachine CustomMetrics).step listener.client call
  let called := { listener with client := result.1 }
  match result.2.raised with
  | none => (finish called, ⟨some (call, result.2), none⟩)
  | some exception =>
      (called, ⟨some (call, result.2), some (.fromClient exception)⟩)

def onApplicationEnd
    (env : ListenerEnvironment) (listener : CustomMetricsListener) :
    CustomMetricsListener × Reaction :=
  listener.callClient (.flushEvents env.client) id

def onApplicationStart
    (env : ListenerEnvironment) (listener : CustomMetricsListener) :
    CustomMetricsListener × Reaction :=
  listener.callClient (.setLastFlush env.client.now) id

def onJobStart
    (listener : CustomMetricsListener) (jobStart : SparkListenerJobStart) :
    CustomMetricsListener × Reaction :=
  ({ listener with
      stageToJobMapping :=
        jobStart.stageIds.foldl
          (fun mapping stageId =>
            Function.update mapping stageId (some (toString jobStart.jobId)))
          listener.stageToJobMapping },
    ⟨none, none⟩)

def onJobEnd
    (env : ListenerEnvironment) (listener : CustomMetricsListener) :
    CustomMetricsListener × Reaction :=
  listener.callClient (.flushEvents env.client) id

def onStageCompleted
    (env : ListenerEnvironment) (listener : CustomMetricsListener)
    (stageCompleted : SparkListenerStageCompleted) :
    CustomMetricsListener × Reaction :=
  match listener.collectStageCustomMetrics env with
  | .error exception => (listener, ⟨none, some exception⟩)
  | .ok metrics =>
      listener.callClient (.add env.client (.stageAgg metrics))
        fun listener =>
          { listener with
            stageToJobMapping :=
              Function.update listener.stageToJobMapping
                stageCompleted.stageId none
            taskMetricsBuffer := [] }

def onTaskEnd
    (env : ListenerEnvironment) (listener : CustomMetricsListener)
    (taskEnded : SparkListenerTaskEnd) :
    CustomMetricsListener × Reaction :=
  match listener.collectTaskCustomMetrics env taskEnded with
  | .error exception => (listener, ⟨none, some exception⟩)
  | .ok metrics =>
      listener.callClient (.add env.client (.task metrics))
        fun listener =>
          { listener with
            taskMetricsBuffer :=
              listener.taskMetricsBuffer ++ [lightMetrics env metrics] }

end Callbacks

end CustomMetricsListener

/-- The listener as a machine that is driven by the events of Spark, one at a
time, whatever the callbacks raise. -/
def listenerMachine [Gson CustomMetrics] :
    Machine CustomMetricsListener
      (ListenerEnvironment × SparkListenerEvent) Reaction where
  step listener
    | (env, .applicationStart) => listener.onApplicationStart env
    | (env, .applicationEnd) => listener.onApplicationEnd env
    | (_, .jobStart jobStart) => listener.onJobStart jobStart
    | (env, .jobEnd) => listener.onJobEnd env
    | (env, .stageCompleted stageCompleted) =>
        listener.onStageCompleted env stageCompleted
    | (env, .taskEnd taskEnded) => listener.onTaskEnd env taskEnded

end SparkObservability
