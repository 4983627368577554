import SparkObservability.Client.Delivery
import SparkObservability.Json.Writer

/-!
# What the payloads say

Every payload is a JSON array with one object for each buffered record.  The
objects are those of Gson with the context of the client and, for log events,
the identifiers of the task added.
-/

namespace SparkObservability

universe u

open ObservabilityClient

/-- What the client relies on in Gson: a record becomes an object that has a
JSON text, and the text of an object reads back. -/
structure Gson.Lawful (A : Type u) [Gson A] : Prop where
  wellFormed : ∀ event : A, (Gson.toJsonObject event).WellFormed
  read_render :
    ∀ object : JsonObject, object.WellFormed →
      Json.read (Gson.render A object) = some (.object object.members)

/-! ## The context of a client -/

/-- The metadata that enriches the records of a client. -/
structure Context where
  appName : String
  appId : String
  executorId : String
  deriving DecidableEq, Repr

structure Context.Defined (context : Context) : Prop where
  appName : context.appName ≠ undefinedConst
  appId : context.appId ≠ undefinedConst
  executorId : context.executorId ≠ undefinedConst

section Contexts

variable {A : Type u}

def ObservabilityClient.context (client : ObservabilityClient A) : Context :=
  ⟨client.appName, client.appId, client.executorId⟩

theorem context_defined
    {client : ObservabilityClient A}
    (initialized : client.logContextInitialized = true) :
    client.context.Defined := by
  simp only [logContextInitialized, Bool.and_eq_true, bne_iff_ne] at initialized
  exact ⟨initialized.1.1, initialized.1.2, initialized.2⟩

theorem ObservabilityClient.SameSetup.context_eq {first second : ObservabilityClient A}
    (same : SameSetup first second)
    (initialized : second.logContextInitialized = true) :
    first.context = second.context := by
  obtain ⟨sameName, sameId, sameExecutor⟩ := same.context initialized
  simp only [ObservabilityClient.context, sameName, sameId, sameExecutor]

end Contexts

/-! ## Task names -/

/-- Two numbers with a dot between them. -/
def dotted (first second : Nat) : String :=
  toString first ++ "." ++ toString second

/-- The words of `task I.A in stage S.B (TID T)`. -/
def mdcTaskWords (index attempt stage stageAttempt taskId : Nat) :
    List String :=
  ["task", dotted index attempt, "in", "stage", dotted stage stageAttempt,
    "(TID", toString taskId ++ ")"]

/-- Spark's name for attempt `attempt` of task `index`, in attempt
`stageAttempt` of stage `stage`, with the task id `taskId`. -/
def mdcTaskName (index attempt stage stageAttempt taskId : Nat) : String :=
  String.intercalate " " (mdcTaskWords index attempt stage stageAttempt taskId)

theorem space_not_mem_toString (number : Nat) :
    ' ' ∉ (toString number).toList := by
  intro member
  rw [Nat.toString_eq_ofList_toDigits, String.toList_ofList] at member
  have isDigit := Nat.isDigit_of_mem_toDigits (by decide) (by decide) member
  revert isDigit
  decide

theorem space_not_mem_append
    {first second : String} (notFirst : ' ' ∉ first.toList)
    (notSecond : ' ' ∉ second.toList) : ' ' ∉ (first ++ second).toList := by
  rw [String.toList_append, List.mem_append, not_or]
  exact ⟨notFirst, notSecond⟩

theorem space_not_mem_dotted (first second : Nat) :
    ' ' ∉ (dotted first second).toList :=
  space_not_mem_append
    (space_not_mem_append (space_not_mem_toString first) (by decide))
    (space_not_mem_toString second)

/-- Java splits words without spaces again that were joined by spaces. -/
theorem javaSplit_intercalate
    {words : List String} (noSpaces : ∀ word ∈ words, ' ' ∉ word.toList)
    {first second : String} {initial : List String} {last : String}
    (shape : words = first :: second :: initial ++ [last])
    (lastNonempty : last ≠ "") :
    javaSplit ' ' (String.intercalate " " words) = words := by
  have characters :
      (String.intercalate " " words).toList =
        [' '].intercalate (words.map String.toList) :=
    String.toList_intercalate
  have splits :
      ([' '].intercalate (words.map String.toList)).splitOn ' ' =
        words.map String.toList := by
    apply List.splitOn_intercalate
    · rwa [List.forall_mem_map]
    · simp [shape]
  have hasSpace : ' ' ∈ (String.intercalate " " words).toList := by
    simp [shape]
  rw [javaSplit, if_pos hasSpace, characters, splits, List.map_map]
  have sameWords :
      words.map (String.ofList ∘ String.toList) = words := by
    simp
  rw [sameWords, shape, List.rdropWhile_concat_neg]
  exact mt of_decide_eq_true lastNonempty

theorem javaSplit_mdcTaskName
    (index attempt stage stageAttempt taskId : Nat) :
    javaSplit ' ' (mdcTaskName index attempt stage stageAttempt taskId) =
      mdcTaskWords index attempt stage stageAttempt taskId := by
  have shape :
      mdcTaskWords index attempt stage stageAttempt taskId =
        "task" :: dotted index attempt ::
            ["in", "stage", dotted stage stageAttempt, "(TID"] ++
          [toString taskId ++ ")"] := rfl
  refine javaSplit_intercalate ?_ shape ?_
  · simp only [mdcTaskWords, List.forall_mem_cons]
    refine ⟨by decide, space_not_mem_dotted _ _, by decide, by decide,
      space_not_mem_dotted _ _, by decide, ?_, by simp⟩
    exact space_not_mem_append (space_not_mem_toString taskId) (by decide)
  · intro empty
    have noCharacters := congrArg String.toList empty
    rw [String.toList_append] at noCharacters
    exact List.append_ne_nil_of_right_ne_nil _ (by decide) noCharacters

example :
    javaSplit ' ' "task 3.0 in stage 7.1 (TID 42)" = mdcTaskWords 3 0 7 1 42 := by
  decide

/-! ## Enriched records -/

theorem wellFormed_addLogProperties
    {A : Type u} [EventClass A]
    {object : JsonObject} (wellFormed : object.WellFormed) (event : A) :
    (addLogProperties event object).WellFormed := by
  rw [addLogProperties]
  split
  · exact wellFormed
  · next logEvent _ =>
      have withTime :=
        wellFormed.addProperty
          (JsonValue.wellFormed_intCast logEvent.timeMillis) "logTime"
      have withTask (taskId : String) :=
        withTime.addProperty (JsonValue.wellFormed_string taskId) "taskId"
      exact (withTask _).addProperty (JsonValue.wellFormed_string _) "stageId"

section Enrichment

variable {A : Type u} [Gson A] [EventClass A]

/-- The properties that the client adds to the object of a record. -/
def addedKeys (event : A) : List String :=
  ["appName", "appId", "executorId"] ++
    if (EventClass.asLogEvent event).isSome then
      ["logTime", "taskId", "stageId"]
    else
      []

/-- The members of the object of a record, enriched with a context. -/
structure Enriched (context : Context) (event : A)
    (members : List (String × JsonValue)) : Prop where
  distinct : (members.map Prod.fst).Nodup
  appName : members.lookup "appName" = some (.string context.appName)
  appId : members.lookup "appId" = some (.string context.appId)
  taskExecutor :
    ∀ metrics, EventClass.asCustomTaskMetrics event = some metrics →
      members.lookup "executorId" = some (.string metrics.executorId)
  clientExecutor :
    EventClass.asCustomTaskMetrics event = none →
      members.lookup "executorId" = some (.string context.executorId)
  logTime :
    ∀ logEvent, EventClass.asLogEvent event = some logEvent →
      members.lookup "logTime" = some (.number logEvent.timeMillis)
  taskName :
    ∀ logEvent, EventClass.asLogEvent event = some logEvent →
      ∀ index attempt stage stageAttempt taskId,
        logEvent.getValue "mdc.taskName" =
            some (mdcTaskName index attempt stage stageAttempt taskId) →
          members.lookup "taskId" = some (.string (dotted index attempt)) ∧
            members.lookup "stageId" =
              some (.string (dotted stage stageAttempt))
  noTaskName :
    ∀ logEvent, EventClass.asLogEvent event = some logEvent →
      logEvent.getValue "mdc.taskName" = none →
        members.lookup "taskId" = some (.string "") ∧
          members.lookup "stageId" = some (.string "")
  unchanged :
    ∀ key, key ∉ addedKeys event →
      members.lookup key = (Gson.toJsonObject event).members.lookup key

theorem wellFormed_enrichedObject
    (lawful : Gson.Lawful A) (client : ObservabilityClient A) (event : A) :
    (client.enrichedObject event).WellFormed := by
  have withName :=
    (lawful.wellFormed event).addProperty
      (JsonValue.wellFormed_string client.appName) "appName"
  have withId :=
    withName.addProperty (JsonValue.wellFormed_string client.appId) "appId"
  rw [enrichedObject]
  apply wellFormed_addLogProperties
  exact withId.addProperty (JsonValue.wellFormed_string _) "executorId"

theorem enriched_enrichedObject
    (lawful : Gson.Lawful A) (client : ObservabilityClient A) (event : A) :
    Enriched client.context event (client.enrichedObject event).members := by
  refine
    ⟨(wellFormed_enrichedObject lawful client event).1, ?_, ?_, ?_, ?_, ?_,
      ?_, ?_, ?_⟩
  all_goals simp only [enrichedObject, addLogProperties]
  · cases EventClass.asLogEvent event <;>
      simp [JsonObject.lookup_addProperty, context]
  · cases EventClass.asLogEvent event <;>
      simp [JsonObject.lookup_addProperty, context]
  · intro metrics isTask
    cases EventClass.asLogEvent event <;>
      simp [JsonObject.lookup_addProperty, isTask]
  · intro notTask
    cases EventClass.asLogEvent event <;>
      simp [JsonObject.lookup_addProperty, notTask, context]
  · intro logEvent isLog
    simp [JsonObject.lookup_addProperty, isLog]
  · intro logEvent isLog index attempt stage stageAttempt taskId named
    simp [JsonObject.lookup_addProperty, isLog, named, taskNameToken,
      javaSplit_mdcTaskName, mdcTaskWords]
  · intro logEvent isLog unnamed
    simp [JsonObject.lookup_addProperty, isLog, unnamed, taskNameToken]
  · intro key notAdded
    cases isLog : EventClass.asLogEvent event with
    | none =>
        have different :
            key ≠ "appName" ∧ key ≠ "appId" ∧ key ≠ "executorId" := by
          simpa [addedKeys, isLog] using notAdded
        simp [JsonObject.lookup_addProperty, different]
    | some logEvent =>
        have different :
            key ≠ "appName" ∧ key ≠ "appId" ∧ key ≠ "executorId" ∧
              key ≠ "logTime" ∧ key ≠ "taskId" ∧ key ≠ "stageId" := by
          simpa [addedKeys, isLog] using notAdded
        simp [JsonObject.lookup_addProperty, different]

/-- The payload of a client is read as the array of the enriched objects. -/
theorem read_payload
    (lawful : Gson.Lawful A) (client : ObservabilityClient A)
    (events : List A) :
    Json.read (client.payload events) =
      some
        (.array
          (events.map fun event =>
            .object (client.enrichedObject event).members)) := by
  rw [payload, Json.read]
  apply Json.readWith_array
  rw [List.forall₂_map_left_iff, List.forall₂_map_right_iff,
    List.forall₂_same]
  intro event _
  exact lawful.read_render _ (wellFormed_enrichedObject lawful client event)

/-! ## Runs -/

/-- A call that attempts a send leaves a client with a context. -/
theorem initialized_of_attempted
    {client : ObservabilityClient A} {call : ClientCall A}
    {attempt : SendAttempt A}
    (attempted : attempt ∈ ((clientMachine A).output client call).attempts) :
    ((clientMachine A).next client call).logContextInitialized = true := by
  have step := clientStep client call
  generalize (clientMachine A).next client call = next,
    (clientMachine A).output client call = answer
    at step attempted ⊢
  cases step with
  | quiet => simp at attempted
  | acknowledged _ _ initialized =>
      exact (acknowledge_sameSetup _ _).initialized initialized
  | absorbed _ _ initialized =>
      exact (startBackOff_sameSetup _).initialized initialized
  | raised _ _ initialized => exact initialized

/-- A flush that sends nothing finds no context. -/
theorem flushEvents_of_silent
    {env : Environment} {client : ObservabilityClient A}
    (uninitialized : client.logContextInitialized = false)
    (silent : (client.flushEvents env).2.attempts = []) :
    (client.flushEvents env).1.logContextInitialized = false := by
  rw [flushEvents_eq] at silent ⊢
  split at silent
  next empty =>
    rw [if_pos empty]
    exact uninitialized
  next nonempty =>
    rw [if_neg nonempty]
    split at silent
    next initialized =>
      have sent (content : String) :
          ((client.prepared env).sendBuffer env content).2.attempts ≠ [] := by
        unfold sendBuffer
        split
        · exact List.cons_ne_nil _ _
        · split <;> exact List.cons_ne_nil _ _
      exact absurd silent (sent _)
    next notReady =>
      rw [if_neg notReady]
      exact Bool.eq_false_iff.2 notReady

/-- The context is not known before the first send. -/
theorem uninitialized_of_silent
    (batchSize batchTime created : Int) {calls : List (ClientCall A)}
    (silent :
      ∀ answer ∈
          (clientMachine A).outputs (create batchSize batchTime created) calls,
        answer.attempts = []) :
    ((clientMachine A).after (create batchSize batchTime created)
      calls).logContextInitialized = false := by
  have start :
      (create batchSize batchTime created :
        ObservabilityClient A).logContextInitialized = false := rfl
  generalize (create batchSize batchTime created : ObservabilityClient A) =
    client at silent start ⊢
  induction calls generalizing client with
  | nil => exact start
  | cons call rest inductionHypothesis =>
      rw [Machine.outputs_cons, List.forall_mem_cons] at silent
      apply inductionHypothesis _ silent.2
      have silentNow := silent.1
      cases call with
      | setLastFlush time => exact start
      | flushEvents env => exact flushEvents_of_silent start silentNow
      | add env event =>
          simp only [Machine.next, Machine.output, clientMachine, add_eq]
            at silentNow ⊢
          by_cases due : (client.push event).FlushDue env.now
          · rw [if_pos due] at silentNow ⊢
            exact flushEvents_of_silent start silentNow
          · rw [if_neg due]
            exact start

/-- `SparkEnv` answers the call with the values of the context. -/
def Context.ReadBy (context : Context) (call : ClientCall A) : Prop :=
  ∃ env, call.environment? = some env ∧
    env.sparkEnv 0 =
      ⟨some context.appName, some context.appId, some context.executorId⟩

omit [Gson A] [EventClass A] in
/-- What is known and was not known is what `SparkEnv` gave. -/
theorem sparkEnv_of_prepared
    {env : Environment} {client : ObservabilityClient A}
    (uninitialized : client.logContextInitialized = false)
    (initialized : (client.prepared env).logContextInitialized = true) :
    env.sparkEnv 0 =
      ⟨some (client.prepared env).appName, some (client.prepared env).appId,
        some (client.prepared env).executorId⟩ := by
  have given {answer : Option String}
      (defined : answer.getD undefinedConst ≠ undefinedConst) :
      answer = some (answer.getD undefinedConst) := by
    cases answer with
    | none => exact absurd rfl defined
    | some value => rfl
  have preparedShape :
      client.prepared env = client.initLogContext (env.sparkEnv 0) := by
    rw [prepared, uninitialized, if_neg Bool.false_ne_true]
  have known := context_defined initialized
  rw [preparedShape] at known ⊢
  generalize env.sparkEnv 0 = answers at known ⊢
  obtain ⟨name, id, executor⟩ := answers
  rw [SparkEnv.mk.injEq]
  exact ⟨given known.appName, given known.appId, given known.executorId⟩

/-- The first call that sends has read the context. -/
theorem readBy_of_attempted
    {client : ObservabilityClient A} {call : ClientCall A}
    {attempt : SendAttempt A}
    (uninitialized : client.logContextInitialized = false)
    (attempted : attempt ∈ ((clientMachine A).output client call).attempts) :
    ((clientMachine A).next client call).context.ReadBy call := by
  have entryUninitialized :
      (call.entry client).logContextInitialized = false := by
    cases call <;> exact uninitialized
  have step := clientStep client call
  generalize (clientMachine A).next client call = next,
    (clientMachine A).output client call = answer
    at step attempted ⊢
  have readBy {env : Environment} {ready : ObservabilityClient A}
      (readyShape : ready = (call.entry client).prepared env)
      (initialized : ready.logContextInitialized = true)
      (environment : call.environment? = some env)
      (same : next.context = ready.context) : next.context.ReadBy call := by
    subst readyShape
    rw [same]
    exact ⟨env, environment,
      sparkEnv_of_prepared entryUninitialized initialized⟩
  cases step with
  | quiet => simp at attempted
  | acknowledged _ readyShape initialized _ environment =>
      exact readBy readyShape initialized environment
        ((acknowledge_sameSetup _ _).context_eq initialized)
  | absorbed _ readyShape initialized _ environment =>
      exact readBy readyShape initialized environment
        ((startBackOff_sameSetup _).context_eq initialized)
  | raised _ readyShape initialized _ environment =>
      exact readBy readyShape initialized environment rfl

/-- In every run all payloads share one context, that of the client.  It is
fully known, it is what `SparkEnv` gave to the first call that sent, and every
payload is the JSON array of the buffered records, in order, each enriched
with it. -/
theorem payloads_faithful
    (lawful : Gson.Lawful A)
    (batchSize batchTime created : Int) (calls : List (ClientCall A)) :
    let start : ObservabilityClient A := create batchSize batchTime created
    let context := ((clientMachine A).after start calls).context
    ∀ before call later,
      calls = before ++ call :: later →
        ∀ attempt ∈
            ((clientMachine A).output
              ((clientMachine A).after start before) call).attempts,
          context.Defined ∧
            ((clientMachine A).after start (before ++ [call])).context =
              context ∧
            ((∀ answer ∈ (clientMachine A).outputs start before,
                answer.attempts = []) →
              context.ReadBy call) ∧
            ∃ objects : List (List (String × JsonValue)),
              Json.read attempt.request.body =
                  some (.array (objects.map JsonValue.object)) ∧
                List.Forall₂ (Enriched context)
                  (call.entry ((clientMachine A).after start before)).buffer
                  objects := by
  intro start context before call later shape attempt attempted
  let client := (clientMachine A).after start before
  let next := (clientMachine A).next client call
  have reached : (clientMachine A).after start (before ++ [call]) = next :=
    Machine.after_append _ _ _ _
  have initialized : next.logContextInitialized = true :=
    initialized_of_attempted attempted
  have same : SameSetup ((clientMachine A).after start calls) next := by
    rw [shape, Machine.after_append, Machine.after_cons]
    exact after_sameSetup next later
  have sameContext : next.context = context :=
    (same.context_eq initialized).symm
  refine ⟨context_defined (same.initialized initialized), ?_, ?_, ?_⟩
  · rw [reached]
    exact sameContext
  · intro silent
    rw [← sameContext]
    exact readBy_of_attempted
      (uninitialized_of_silent batchSize batchTime created silent) attempted
  · obtain ⟨carried, requested⟩ := attempt_carries_buffer attempted
    refine
      ⟨attempt.records.map fun event =>
        (next.enrichedObject event).members, ?_, ?_⟩
    · rw [requested, List.map_map]
      exact read_payload lawful next attempt.records
    · rw [← carried, List.forall₂_map_right_iff, List.forall₂_same]
      intro event _
      rw [← sameContext]
      exact enriched_enrichedObject lawful next event

end Enrichment

/-! ### A lawful Gson -/

/-- It knows the time of a log event and writes every object. -/
abbrev writerGson : Gson LogEvent where
  toJsonObject event := ⟨[("timeMillis", .number event.timeMillis)]⟩
  render object := Json.write (.object object.members)

theorem writerGson_lawful : @Gson.Lawful LogEvent writerGson :=
  letI := writerGson
  { wellFormed := fun event =>
      ⟨List.nodup_singleton _, isDecimal_intCast event.timeMillis, trivial⟩
    read_render := fun _ wellFormed => Json.read_write wellFormed }

/-- A full batch: a log event of a task and one without a task name. -/
def twoLogEvents : List (ClientCall LogEvent) :=
  let env : Environment := .running (11 * nanosPerSecond) (.response 200 none)
  [.add env
      ⟨11000, [("mdc.taskName", mdcTaskName 3 0 7 1 42)]⟩,
    .add env ⟨11500, []⟩]

theorem payloads_faithful_twoLogEvents :
    letI := writerGson
    let start : ObservabilityClient LogEvent := create 2 60 0
    let context := ((clientMachine LogEvent).after start twoLogEvents).context
    context = ⟨"app", "app-1", "driver"⟩ ∧
      ∀ before call later,
        twoLogEvents = before ++ call :: later →
          ∀ attempt ∈
              ((clientMachine LogEvent).output
                ((clientMachine LogEvent).after start before) call).attempts,
            context.Defined ∧
              ((clientMachine LogEvent).after start
                  (before ++ [call])).context =
                context ∧
              ((∀ answer ∈ (clientMachine LogEvent).outputs start before,
                  answer.attempts = []) →
                context.ReadBy call) ∧
              ∃ objects : List (List (String × JsonValue)),
                Json.read attempt.request.body =
                    some (.array (objects.map JsonValue.object)) ∧
                  List.Forall₂ (Enriched context)
                    (call.entry
                      ((clientMachine LogEvent).after start before)).buffer
                    objects :=
  letI := writerGson
  ⟨by decide +kernel, payloads_faithful writerGson_lawful 2 60 0 twoLogEvents⟩

end SparkObservability
