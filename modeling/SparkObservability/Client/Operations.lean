import Mathlib.Data.List.Infix
import SparkObservability.Clock
import SparkObservability.Machine
import SparkObservability.Records

/-!
# The observability client

The operations of `ObservabilityClient.scala`.  What a call finds outside the
client is collected in an `Environment`: the clock, the answers of `SparkEnv`
and what becomes of the HTTP request.  A call returns the client it leaves
behind, the sends it attempted and the exception it raised, if any, because
the client stays in use after an exception.
-/

namespace SparkObservability

universe u

/-! ## The Spark environment -/

/-- What `SparkEnv` gives a reader; `none` where the access throws. -/
structure SparkEnv where
  appName : Option String
  appId : Option String
  executorId : Option String
  deriving DecidableEq, Repr

namespace Utils

def getAppName (env : SparkEnv) : String :=
  env.appName.getD "UNDEFINED"

def getAppId (env : SparkEnv) : String :=
  env.appId.getD "UNDEFINED"

def getExecutorId (env : SparkEnv) : String :=
  env.executorId.getD "UNDEFINED"

end Utils

/-! ## Sending -/

/-- The non-fatal exceptions of a send, as far as the client tells them
apart.  `message` is `getMessage`, with `none` for the Java `null`. -/
inductive ClientException where
  | retryable (message : Option String)
  | nonRetryable (message : Option String)
  | other (message : Option String)
  deriving DecidableEq, Repr

namespace ClientException

def getMessage : ClientException → Option String
  | .retryable message => message
  | .nonRetryable message => message
  | .other message => message

/-- `isInstanceOf[RetryableException]`. -/
def isRetryable : ClientException → Bool
  | .retryable _ => true
  | .nonRetryable _ => false
  | .other _ => false

end ClientException

/-- What becomes of a request: the service answers, the call fails, or an
exception prevents the call. -/
inductive HttpCall where
  | response (statusCode : Int) (statusText : Option String)
  | failure (message : Option String)
  | prevented (exception : ClientException)
  deriving DecidableEq, Repr

/-- The parts of the request that depend on the content. -/
structure HttpRequest where
  method : String
  contentLength : String
  contentType : String
  body : String
  deriving DecidableEq, Repr

def httpRequest (content : String) : HttpRequest where
  method := "POST"
  contentLength := toString (javaLength content)
  contentType := "application/json"
  body := content

/-- The fragments that make the message of a failed call retryable. -/
def retryableFragments : List String :=
  ["InternalFailure", "RequestAbortedException", "RequestExpired",
    "RequestTimeoutException", "ServiceUnavailable", "ThrottlingException"]

/-- `text.contains(fragment)`. -/
def javaContains (text fragment : String) : Bool :=
  decide (fragment.toList <:+: text.toList)

/-- How the outcome of the HTTP call leaves `sendContent`. -/
def sendContent (http : HttpCall) : Except ClientException Unit :=
  match http with
  | .prevented exception => .error exception
  | .response statusCode statusText =>
      if statusCode ≠ 200 then
        .error <| .retryable <| some <|
          "Error sending to Opensearch Ingestion pipeline: " ++
            toString statusCode ++ " " ++ statusText.getD "NO RESPONSE"
      else
        .ok ()
  -- a `NullPointerException` inside the `Failure` branch
  | .failure none => .error (.other none)
  | .failure (some message) =>
      if retryableFragments.any (javaContains message) then
        .error (.retryable (some message))
      else
        .error (.nonRetryable (some message))

/-- What one call of the client finds outside the client: the clock reading
of `durationSinceLastFlush`, what the successive calls of `initLogContext`
read, the outcome of the request and the clock reading that follows an
acknowledged send. -/
structure Environment where
  now : Int
  sparkEnv : Nat → SparkEnv
  http : HttpCall
  acknowledgedAt : Int

/-- An environment in which Spark is up and the clock stands still during a
call. -/
def Environment.running (now : Int) (http : HttpCall) : Environment where
  now := now
  sparkEnv _ := ⟨some "app", some "app-1", some "driver"⟩
  http := http
  acknowledgedAt := now

/-! ## The client -/

namespace ObservabilityClient

def undefinedConst : String := "UNDEFINED"

/-- The maximum number of retries in an exponential back-off retry cycle. -/
def maxRetries : Int := 5

/-- The initial time to wait before retrying. -/
def initialBackoff : Int := 5

/-- The maximum time to wait before retrying. -/
def maxBackoff : Int := 60

end ObservabilityClient

structure ObservabilityClient (A : Type u) where
  batchSize : Int
  batchTime : Int
  buffer : List A
  lastFlush : Int
  isBackingOff : Bool
  backOff : Int
  retries : Int
  appName : String
  appId : String
  executorId : String

/-- One call of `sendContent`: the records in the payload, the request and
the exception it threw. -/
structure SendAttempt (A : Type u) where
  records : List A
  request : HttpRequest
  failure : Option ClientException

/-- What a call does: the sends it attempts and the exception it raises. -/
structure Answer (A : Type u) where
  attempts : List (SendAttempt A)
  raised : Option ClientException

namespace ObservabilityClient

variable {A : Type u}

/-- A new client at the given instant. -/
def create (batchSize batchTime created : Int) : ObservabilityClient A where
  batchSize := batchSize
  batchTime := batchTime
  buffer := []
  lastFlush := plusSeconds created 10
  isBackingOff := false
  backOff := initialBackoff
  retries := maxRetries
  appName := undefinedConst
  appId := undefinedConst
  executorId := undefinedConst

def setLastFlush (client : ObservabilityClient A) (time : Int) :
    ObservabilityClient A :=
  { client with lastFlush := time }

def logContextInitialized (client : ObservabilityClient A) : Bool :=
  client.appName != undefinedConst &&
    client.appId != undefinedConst &&
    client.executorId != undefinedConst

/-- Whole seconds since the last successful flush, less the current back-off
in a retry cycle; both operations are on 32-bit integers. -/
def durationSinceLastFlush (client : ObservabilityClient A) (now : Int) :
    Int :=
  if client.isBackingOff then
    toInt (toInt (secondsBetween client.lastFlush now) - client.backOff)
  else
    toInt (secondsBetween client.lastFlush now)

def initLogContext (client : ObservabilityClient A) (env : SparkEnv) :
    ObservabilityClient A :=
  { client with
    appName := Utils.getAppName env
    appId := Utils.getAppId env
    executorId := Utils.getExecutorId env }

section Enrichment

variable [Gson A] [EventClass A]

/-- The token of the MDC task name at a position, or the empty string. -/
def taskNameToken (taskName : Option String) (position : Nat) : String :=
  ((taskName.map (javaSplit ' ')).bind (·[position]?)).getD ""

/-- The properties that identify a log event. -/
def addLogProperties (event : A) (object : JsonObject) : JsonObject :=
  match EventClass.asLogEvent event with
  | none => object
  | some logEvent =>
      let taskName := logEvent.getValue "mdc.taskName"
      ((object.addProperty "logTime" (.number logEvent.timeMillis)).addProperty
          "taskId" (.string (taskNameToken taskName 1))).addProperty
        "stageId" (.string (taskNameToken taskName 4))

/-- The JSON object that is sent for an event. -/
def enrichedObject (client : ObservabilityClient A) (event : A) :
    JsonObject :=
  let executorId :=
    match EventClass.asCustomTaskMetrics event with
    | some metrics => metrics.executorId
    | none => client.executorId
  addLogProperties event <|
    (((Gson.toJsonObject event).addProperty
        "appName" (.string client.appName)).addProperty
        "appId" (.string client.appId)).addProperty
      "executorId" (.string executorId)

/-- The closure that `flushEvents` maps over the buffer; `none` is the branch
that leaves `flushEvents` because the context is not initialized. -/
def enrich (client : ObservabilityClient A) (event : A) : Option String :=
  if client.logContextInitialized then
    some (Gson.render A (client.enrichedObject event))
  else
    none

end Enrichment

/-- `reduceOption((x, y) => x + "," + y)`. -/
def reduceWithComma : List String → Option String
  | [] => none
  | first :: rest => some (rest.foldl (fun x y => x ++ "," ++ y) first)

/-- The acknowledged branch of `flushEvents`. -/
def acknowledge (client : ObservabilityClient A) (acknowledgedAt : Int) :
    ObservabilityClient A :=
  let client :=
    { client with lastFlush := acknowledgedAt, buffer := [] }
  if client.isBackingOff then
    { client with
      isBackingOff := false
      backOff := initialBackoff
      retries := maxRetries }
  else
    client

/-- The branch of `flushEvents` that absorbs a failure. -/
def startBackOff (client : ObservabilityClient A) : ObservabilityClient A :=
  { client with
    isBackingOff := true
    backOff := min (client.backOff * 2) maxBackoff
    retries := client.retries - 1 }

/-- The exception that `flushEvents` raises for a failure it does not
absorb; string concatenation writes the Java `null` out. -/
def nonRetryableError (exception : ClientException) : ClientException :=
  .nonRetryable <| some <|
    "Non-retryable error sending records to Opensearch Ingestion pipeline: " ++
      exception.getMessage.getD "null"

/-- Send a payload for the whole buffer and settle the outcome. -/
def sendBuffer (env : Environment) (client : ObservabilityClient A)
    (content : String) : ObservabilityClient A × Answer A :=
  match sendContent env.http with
  | .ok () =>
      (client.acknowledge env.acknowledgedAt,
        ⟨[⟨client.buffer, httpRequest content, none⟩], none⟩)
  | .error exception =>
      let attempts :=
        [⟨client.buffer, httpRequest content, some exception⟩]
      if exception.isRetryable && decide (client.retries > 0) then
        (client.startBackOff, ⟨attempts, none⟩)
      else
        (client, ⟨attempts, some (nonRetryableError exception)⟩)

section Calls

variable [Gson A] [EventClass A]

theorem mapM_enrich_of_initialized
    {client : ObservabilityClient A}
    (initialized : client.logContextInitialized = true)
    (events : List A) :
    events.mapM client.enrich =
      some (events.map fun event =>
        Gson.render A (client.enrichedObject event)) := by
  have enrichShape :
      client.enrich = fun event =>
        pure (Gson.render A (client.enrichedObject event)) := by
    funext event
    simp [enrich, initialized]
  rw [enrichShape, List.mapM_pure]
  rfl

/-- The closure leaves `flushEvents` only when the context is not
initialized. -/
theorem logContextInitialized_of_mapM_eq_none
    {client : ObservabilityClient A} {events : List A}
    (mapped : events.mapM client.enrich = none) :
    client.logContextInitialized = false := by
  by_contra notFalse
  rw [mapM_enrich_of_initialized (by simpa using notFalse)] at mapped
  cases mapped

/-- `flushEvents`.  The first event that meets a context that is not
initialized initializes it, flushes recursively if that succeeded, and leaves
the outer call.  The recursion ends because a call with an initialized
context never takes that branch. -/
def flushEvents (env : Environment) (client : ObservabilityClient A) :
    ObservabilityClient A × Answer A :=
  match _mapped : client.buffer.mapM client.enrich with
  | none =>
      let initialized := client.initLogContext (env.sparkEnv 0)
      if _ready : initialized.logContextInitialized then
        flushEvents
          { env with sparkEnv := fun n => env.sparkEnv (n + 1) }
          initialized
      else
        (initialized, ⟨[], none⟩)
  | some texts =>
      match reduceWithComma texts with
      | some content => client.sendBuffer env ("[" ++ content ++ "]")
      | none => (client, ⟨[], none⟩)
termination_by if client.logContextInitialized then 0 else 1
decreasing_by
  rw [if_pos _ready,
    if_neg (by simp [logContextInitialized_of_mapM_eq_none _mapped])]
  exact Nat.zero_lt_one

/-- The client with one more event in its buffer. -/
def push (client : ObservabilityClient A) (event : A) :
    ObservabilityClient A :=
  { client with buffer := client.buffer ++ [event] }

def add (env : Environment) (client : ObservabilityClient A) (event : A) :
    ObservabilityClient A × Answer A :=
  let client := client.push event
  if client.isBackingOff then
    if client.durationSinceLastFlush env.now ≥ client.batchTime then
      client.flushEvents env
    else
      (client, ⟨[], none⟩)
  else
    if client.buffer.length ≥ client.batchSize ∨
        client.durationSinceLastFlush env.now ≥ client.batchTime then
      client.flushEvents env
    else
      (client, ⟨[], none⟩)

end Calls

end ObservabilityClient

/-- The calls a client receives, each with what it finds outside. -/
inductive ClientCall (A : Type u) where
  | add (env : Environment) (event : A)
  | flushEvents (env : Environment)
  | setLastFlush (time : Int)

/-- The client as a machine that is driven by its calls. -/
def clientMachine (A : Type u) [Gson A] [EventClass A] :
    Machine (ObservabilityClient A) (ClientCall A) (Answer A) where
  step client
    | .add env event => client.add env event
    | .flushEvents env => client.flushEvents env
    | .setLastFlush time => (client.setLastFlush time, ⟨[], none⟩)

end SparkObservability
