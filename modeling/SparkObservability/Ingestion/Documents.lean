import SparkObservability.Client.Transmission

/-!
# The documents that arrive

A request that a client makes is read as one document for each of its records
if it arrives whole, and as no document if it is cut off.  All the documents of
a run are made with the context that the client has at its end.  The documents
of metrics have the fields of the metrics.
-/

namespace SparkObservability

universe u

open ObservabilityClient

/-- The members of a JSON object that is stored. -/
abbrev Document := List (String × JsonValue)

/-- The documents of a request, whose body is a JSON array. -/
def documentsOf (bytes : List UInt8) : List Document :=
  match readBytes bytes with
  | some (.array items) =>
      items.filterMap fun
        | .object members => some members
        | _ => none
  | _ => []

section Requests

variable {A : Type u} [Gson A] [EventClass A]

/-- The document of a record. -/
def ObservabilityClient.document (client : ObservabilityClient A) (event : A) :
    Document :=
  (client.enrichedObject event).members

theorem document_of_sameSetup {first second : ObservabilityClient A}
    (same : SameSetup first second)
    (initialized : second.logContextInitialized = true) (event : A) :
    first.document event = second.document event := by
  obtain ⟨sameName, sameId, sameExecutor⟩ := same.context initialized
  simp only [document, enrichedObject, sameName, sameId, sameExecutor]

theorem documentsOf_payload (lawful : Gson.Lawful A)
    (client : ObservabilityClient A) (events : List A) :
    documentsOf (httpRequest (client.payload events)).transmitted =
      if (httpRequest (client.payload events)).ArrivesWhole then
        events.map client.document
      else
        [] := by
  have dropNothing :
      (events.map fun event =>
          JsonValue.object (client.enrichedObject event).members).filterMap
          (fun
            | .object members => some members
            | _ => none) =
        events.map client.document := by
    rw [List.filterMap_map]
    exact congrFun List.filterMap_eq_map events
  rw [documentsOf, readBytes_payload lawful client events]
  by_cases whole : (httpRequest (client.payload events)).ArrivesWhole
  · rw [if_pos whole, if_pos whole]
    exact dropNothing
  · rw [if_neg whole, if_neg whole]

/-- The request of an attempt holds the documents of its records, with the
context that the client has after the run, or no document. -/
theorem documentsOf_attempted (lawful : Gson.Lawful A)
    {client : ObservabilityClient A} {calls : List (ClientCall A)}
    {attempt : SendAttempt A}
    (made :
      attempt ∈
        ((clientMachine A).outputs client calls).flatMap Answer.attempts) :
    documentsOf attempt.request.transmitted =
      if attempt.request.ArrivesWhole then
        attempt.records.map
          ((clientMachine A).after client calls).document
      else
        [] := by
  induction calls generalizing client with
  | nil => simp at made
  | cons call rest inductionHypothesis =>
      rw [Machine.outputs_cons, List.flatMap_cons, List.mem_append] at made
      rw [Machine.after_cons]
      rcases made with attempted | later
      · have initialized := initialized_of_attempted attempted
        have same := after_sameSetup ((clientMachine A).next client call) rest
        have sameDocuments :
            attempt.records.map ((clientMachine A).next client call).document =
              attempt.records.map
                ((clientMachine A).after
                  ((clientMachine A).next client call) rest).document :=
          List.map_congr_left fun event _ =>
            (document_of_sameSetup same initialized event).symm
        obtain ⟨_, requested⟩ := attempt_carries_buffer attempted
        rw [← sameDocuments, requested]
        exact documentsOf_payload lawful _ _
      · exact inductionHypothesis later

/-- The requests of a list that arrive whole. -/
def wholeOf (arrived : List (SendAttempt A)) : List (SendAttempt A) :=
  arrived.filter fun attempt => attempt.request.ArrivesWhole

omit [Gson A] [EventClass A] in
theorem wholeOf_eq_self {arrived : List (SendAttempt A)}
    (whole : ∀ attempt ∈ arrived, attempt.request.ArrivesWhole) :
    wholeOf arrived = arrived :=
  List.filter_eq_self.2 fun attempt isArrived =>
    decide_eq_true (whole attempt isArrived)

/-- The records of a list of requests. -/
def recordsOf (arrived : List (SendAttempt A)) : List A :=
  arrived.flatMap SendAttempt.records

/-- The requests that arrive hold the documents of their records, unless they
are cut off. -/
theorem documentsOf_arrived (lawful : Gson.Lawful A)
    {client : ObservabilityClient A} {calls : List (ClientCall A)}
    {arrived : List (SendAttempt A)}
    (made :
      ∀ attempt ∈ arrived,
        attempt ∈
          ((clientMachine A).outputs client calls).flatMap Answer.attempts) :
    (arrived.map fun attempt => attempt.request.transmitted).flatMap
        documentsOf =
      (recordsOf (wholeOf arrived)).map
        ((clientMachine A).after client calls).document := by
  induction arrived with
  | nil => rfl
  | cons attempt rest inductionHypothesis =>
      rw [List.forall_mem_cons] at made
      rw [List.map_cons, List.flatMap_cons, inductionHypothesis made.2,
        documentsOf_attempted lawful made.1, wholeOf, wholeOf,
        List.filter_cons]
      by_cases whole : attempt.request.ArrivesWhole
      · simp [whole, recordsOf]
      · simp [whole, recordsOf]

/-- A call keeps no record that it had not before its send. -/
theorem buffer_next_subset (client : ObservabilityClient A)
    (call : ClientCall A) :
    ((clientMachine A).next client call).buffer ⊆
      (call.entry client).buffer := by
  have step := clientStep client call
  generalize (clientMachine A).next client call = next,
    (clientMachine A).output client call = answer at step ⊢
  cases step with
  | quiet _ kept =>
      rcases kept with rfl | ⟨env, _, rfl⟩
      · exact List.Subset.refl _
      · rw [prepared_buffer]
        exact List.Subset.refl _
  | acknowledged => simp
  | absorbed _ readyShape => simp [readyShape]
  | raised _ readyShape => simp [readyShape]

/-- What is sent was added before. -/
theorem mem_records_of_attempted
    {client : ObservabilityClient A} {calls : List (ClientCall A)}
    {attempt : SendAttempt A} {record : A}
    (made :
      attempt ∈
        ((clientMachine A).outputs client calls).flatMap Answer.attempts)
    (sent : record ∈ attempt.records) :
    record ∈ client.buffer ∨ record ∈ addedRecords calls := by
  induction calls generalizing client with
  | nil => simp at made
  | cons call rest inductionHypothesis =>
      have entered (member : record ∈ (call.entry client).buffer) :
          record ∈ client.buffer ∨ record ∈ addedRecords (call :: rest) := by
        have split : addedRecords (call :: rest) =
            addedRecords [call] ++ addedRecords rest :=
          addedRecords_append [call] rest
        rw [split, List.mem_append]
        rw [entry_buffer, List.mem_append] at member
        exact member.imp_right Or.inl
      rw [Machine.outputs_cons, List.flatMap_cons, List.mem_append] at made
      rcases made with attempted | later
      · rw [(attempt_carries_buffer attempted).1] at sent
        exact entered sent
      · rcases inductionHypothesis later with kept | added
        · exact entered (buffer_next_subset client call kept)
        · have split : addedRecords (call :: rest) =
              addedRecords [call] ++ addedRecords rest :=
            addedRecords_append [call] rest
          rw [split, List.mem_append]
          exact Or.inr (Or.inr added)

end Requests

/-! ## The fields of metrics -/

/-- What a field of a record holds. -/
inductive FieldValue where
  | text (value : String)
  | whole (value : Int)
  | double (value : Rat)

def CustomTaskMetrics.fields (metrics : CustomTaskMetrics) :
    List (String × FieldValue) :=
  [("appName", .text metrics.appName), ("appId", .text metrics.appId),
    ("jobId", .text metrics.jobId), ("stageId", .whole metrics.stageId),
    ("stageAttemptId", .whole metrics.stageAttemptId),
    ("taskId", .text metrics.taskId),
    ("executorId", .text metrics.executorId),
    ("partitionId", .whole metrics.partitionId),
    ("inputBytesRead", .double metrics.inputBytesRead),
    ("inputRecordsRead", .double metrics.inputRecordsRead),
    ("runTime", .double metrics.runTime),
    ("executorCpuTime", .double metrics.executorCpuTime),
    ("peakExecutionMemory", .double metrics.peakExecutionMemory),
    ("outputRecordsWritten", .double metrics.outputRecordsWritten),
    ("outputBytesWritten", .double metrics.outputBytesWritten),
    ("shuffleRecordsRead", .double metrics.shuffleRecordsRead),
    ("shuffleBytesRead", .double metrics.shuffleBytesRead),
    ("shuffleRecordsWritten", .double metrics.shuffleRecordsWritten),
    ("shuffleBytesWritten", .double metrics.shuffleBytesWritten),
    ("metricsType", .text "taskMetrics"),
    ("metricTime", .whole metrics.metricTime)]

def CustomLightTaskMetrics.fields (metrics : CustomLightTaskMetrics) :
    List (String × FieldValue) :=
  [("appName", .text metrics.appName), ("appId", .text metrics.appId),
    ("jobId", .text metrics.jobId), ("stageId", .whole metrics.stageId),
    ("taskId", .text metrics.taskId),
    ("inputBytesRead", .double metrics.inputBytesRead),
    ("shuffleBytesRead", .double metrics.shuffleBytesRead),
    ("metricsType", .text "lightTaskMetrics"),
    ("metricTime", .whole metrics.metricTime)]

def CustomStageAggMetrics.fields (metrics : CustomStageAggMetrics) :
    List (String × FieldValue) :=
  [("appName", .text metrics.appName), ("appId", .text metrics.appId),
    ("jobId", .text metrics.jobId), ("stageId", .whole metrics.stageId),
    ("inputBytesReadSkewness", .double metrics.inputBytesReadSkewness),
    ("maxInputBytesRead", .double metrics.maxInputBytesRead),
    ("shuffleBytesReadSkewness", .double metrics.shuffleBytesReadSkewness),
    ("maxShuffleBytesRead", .double metrics.maxShuffleBytesRead),
    ("metricsType", .text "stageAggMetrics"),
    ("metricTime", .whole metrics.metricTime)]

/-- The fields of a record with those of its base class, by their names. -/
def CustomMetrics.fields : CustomMetrics → List (String × FieldValue)
  | .task metrics => metrics.fields
  | .lightTask metrics => metrics.fields
  | .stageAgg metrics => metrics.fields

/-- A double is written as a decimal, and without loss if it is whole. -/
def FieldValue.WrittenAs : FieldValue → JsonValue → Prop
  | .text value, written => written = .string value
  | .whole value, written => written = .number value
  | .double value, written =>
      ∃ number : Rat,
        written = .number number ∧ (value.isInt = true → number = value)

/-- Gson writes the fields of a record, and nothing else. -/
def Gson.WritesFields [Gson CustomMetrics] : Prop :=
  ∀ (metrics : CustomMetrics) (key : String),
    Option.Rel FieldValue.WrittenAs (metrics.fields.lookup key)
      ((Gson.toJsonObject metrics).members.lookup key)

end SparkObservability
