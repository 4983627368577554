import SparkObservability.Batcher
import SparkObservability.Client.Delivery

/-!
# The client batches like the reference batcher

As long as the context is available and every send is acknowledged, the
client simulates the greedy batcher step by step: same open batch, same
instant of the last closing, same payloads.  The initial future `lastFlush`
and the first flush through the context initialization are part of it.
-/

namespace SparkObservability

universe u

variable {A : Type u}

open ObservabilityClient

/-- The first reading of `SparkEnv` in the call is complete. -/
def Environment.ContextAvailable (env : Environment) : Prop :=
  Utils.getAppName (env.sparkEnv 0) ≠ undefinedConst ∧
    Utils.getAppId (env.sparkEnv 0) ≠ undefinedConst ∧
    Utils.getExecutorId (env.sparkEnv 0) ≠ undefinedConst

instance (env : Environment) : Decidable env.ContextAvailable :=
  inferInstanceAs (Decidable (_ ∧ _))

theorem Environment.running_contextAvailable (now : Int) (http : HttpCall) :
    (Environment.running now http).ContextAvailable := by
  change "app" ≠ "UNDEFINED" ∧ "app-1" ≠ "UNDEFINED" ∧
    "driver" ≠ "UNDEFINED"
  decide

namespace ClientCall

/-- Nothing goes wrong in the call: the context is available and the send,
if there is one, is acknowledged. -/
def Smooth (call : ClientCall A) : Prop :=
  ∀ env, call.environment? = some env →
    env.ContextAvailable ∧ sendContent env.http = .ok ()

/-- The instants that a call brings along. -/
def instants : ClientCall A → List Int
  | .add env _ => [env.now, env.acknowledgedAt]
  | .flushEvents env => [env.acknowledgedAt]
  | .setLastFlush time => [time]

/-- What the reference batcher is told about a call. -/
def batcherInput : ClientCall A → BatcherInput A
  | .add env event => .append event env.now env.acknowledgedAt
  | .flushEvents env => .close env.acknowledgedAt
  | .setLastFlush time => .restart time

end ClientCall

/-- The record lists of the sends of a call. -/
def Answer.payloads (answer : Answer A) : List (List A) :=
  answer.attempts.map SendAttempt.records

theorem prepared_initialized
    {env : Environment} (available : env.ContextAvailable)
    (client : ObservabilityClient A) :
    (client.prepared env).logContextInitialized = true := by
  by_cases initialized : client.logContextInitialized = true
  · rw [prepared_of_initialized env client initialized]
    exact initialized
  · rw [prepared, if_neg initialized]
    obtain ⟨nameDefined, idDefined, executorDefined⟩ := available
    simp [logContextInitialized, initLogContext, nameDefined, idDefined,
      executorDefined]

/-- The client and the batcher agree, outside every retry cycle. -/
structure Batches (batchSize batchTime : Int) (instants : List Int)
    (client : ObservabilityClient A) (batcher : Batcher A) : Prop where
  batchSize : client.batchSize = batchSize
  batchTime : client.batchTime = batchTime
  buffer : client.buffer = batcher.openBatch
  lastFlush : client.lastFlush = batcher.lastClosed
  notBackingOff : client.isBackingOff = false
  known : client.lastFlush ∈ instants

/-- All differences of the instants fit a 32-bit number of seconds. -/
def ClocksFit (instants : List Int) : Prop :=
  ∀ start ∈ instants, ∀ stop ∈ instants,
    -2147483648 ≤ secondsBetween start stop ∧
      secondsBetween start stop < 2147483648

instance (instants : List Int) : Decidable (ClocksFit instants) :=
  inferInstanceAs (Decidable (∀ start ∈ instants, _))

theorem Batches.push
    {batchSize batchTime : Int} {instants : List Int}
    {client : ObservabilityClient A} {batcher : Batcher A}
    (batches : Batches batchSize batchTime instants client batcher)
    (event : A) :
    Batches batchSize batchTime instants (client.push event)
      ⟨batcher.openBatch ++ [event], batcher.lastClosed⟩ where
  batchSize := batches.batchSize
  batchTime := batches.batchTime
  buffer := by rw [push_buffer, batches.buffer]
  lastFlush := batches.lastFlush
  notBackingOff := batches.notBackingOff
  known := batches.known

theorem Batches.prepared
    {batchSize batchTime : Int} {instants : List Int}
    {client : ObservabilityClient A} {batcher : Batcher A}
    (batches : Batches batchSize batchTime instants client batcher)
    (env : Environment) :
    Batches batchSize batchTime instants (client.prepared env) batcher := by
  have same := prepared_sameDelivery env client
  exact
    { batchSize := (prepared_batchSize env client).trans batches.batchSize
      batchTime := (prepared_batchTime env client).trans batches.batchTime
      buffer := same.buffer.trans batches.buffer
      lastFlush := same.lastFlush.trans batches.lastFlush
      notBackingOff := same.isBackingOff.trans batches.notBackingOff
      known := by simpa only [same.lastFlush] using batches.known }

theorem Batches.acknowledge
    {batchSize batchTime : Int} {instants : List Int}
    {client : ObservabilityClient A} {batcher : Batcher A}
    (batches : Batches batchSize batchTime instants client batcher)
    {acknowledgedAt : Int} (known : acknowledgedAt ∈ instants) :
    Batches batchSize batchTime instants
      (client.acknowledge acknowledgedAt) ⟨[], acknowledgedAt⟩ := by
  rw [acknowledge_of_not_backingOff batches.notBackingOff]
  exact ⟨batches.batchSize, batches.batchTime, rfl, rfl,
    batches.notBackingOff, known⟩

/-- With fitting clocks the flush condition of `add` is the batcher's. -/
theorem Batches.flushDue_iff
    {batchSize batchTime : Int} {instants : List Int}
    {client : ObservabilityClient A} {batcher : Batcher A}
    (batches : Batches batchSize batchTime instants client batcher)
    (fit : ClocksFit instants) {now : Int} (known : now ∈ instants) :
    client.FlushDue now ↔
      batcher.openBatch.length ≥ batchSize ∨
        secondsBetween batcher.lastClosed now ≥ batchTime := by
  obtain ⟨lower, upper⟩ := fit _ batches.known _ known
  have elapsed := toInt_of_fits lower upper
  simp [FlushDue, durationSinceLastFlush, batches.notBackingOff, elapsed,
    batches.batchSize, batches.batchTime, batches.buffer,
    ← batches.lastFlush]

section Simulation

variable [Gson A] [EventClass A]

/-- A smooth call sends exactly when it is due, and is then acknowledged. -/
theorem smooth_flush
    {batchSize batchTime : Int} {instants : List Int}
    {client : ObservabilityClient A} {batcher : Batcher A}
    (batches : Batches batchSize batchTime instants client batcher)
    {env : Environment}
    (available : env.ContextAvailable)
    (accepted : sendContent env.http = .ok ())
    (known : env.acknowledgedAt ∈ instants)
    (nonempty : batcher.openBatch ≠ []) :
    Batches batchSize batchTime instants
        (client.flushEvents env).1 ⟨[], env.acknowledgedAt⟩ ∧
      (client.flushEvents env).2.payloads = [batcher.openBatch] := by
  have bufferNonempty : client.buffer ≠ [] := by
    rw [batches.buffer]
    exact nonempty
  have ready := batches.prepared env
  rw [flushEvents_eq, if_neg bufferNonempty,
    if_pos (prepared_initialized available client)]
  simp only [sendBuffer, accepted]
  refine ⟨ready.acknowledge known, ?_⟩
  exact congrArg (fun records => [records]) ready.buffer

theorem batches_next
    {batchSize batchTime : Int} {instants : List Int}
    (fit : ClocksFit instants)
    {client : ObservabilityClient A} {batcher : Batcher A}
    (batches : Batches batchSize batchTime instants client batcher)
    {call : ClientCall A} (smooth : call.Smooth)
    (known : call.instants ⊆ instants) :
    Batches batchSize batchTime instants
        ((clientMachine A).next client call)
        ((Batcher.machine A batchSize batchTime).next batcher
          call.batcherInput) ∧
      ((clientMachine A).output client call).payloads =
        (Batcher.machine A batchSize batchTime).output batcher
          call.batcherInput := by
  cases call with
  | setLastFlush time =>
      have timeKnown : time ∈ instants := known (List.Mem.head _)
      exact ⟨⟨batches.batchSize, batches.batchTime, batches.buffer, rfl,
        batches.notBackingOff, timeKnown⟩, rfl⟩
  | flushEvents env =>
      obtain ⟨available, accepted⟩ := smooth env rfl
      have closedKnown : env.acknowledgedAt ∈ instants :=
        known (List.Mem.head _)
      simp only [Machine.next, Machine.output, clientMachine,
        ClientCall.batcherInput]
      by_cases empty : batcher.openBatch = []
      · have bufferEmpty : client.buffer = [] :=
          batches.buffer.trans empty
        rw [flushEvents_of_empty env bufferEmpty,
          Batcher.step_close_of_empty batchTime empty]
        exact ⟨batches, rfl⟩
      · rw [Batcher.step_close_of_nonempty batchTime empty]
        exact smooth_flush batches available accepted closedKnown empty
  | add env event =>
      obtain ⟨available, accepted⟩ := smooth env rfl
      have nowKnown : env.now ∈ instants := known (List.Mem.head _)
      have closedKnown : env.acknowledgedAt ∈ instants :=
        known (List.Mem.tail _ (List.Mem.head _))
      have pushed := batches.push event
      have dueIff := pushed.flushDue_iff fit nowKnown
      simp only [Machine.next, Machine.output, clientMachine,
        ClientCall.batcherInput, add_eq]
      by_cases due : (client.push event).FlushDue env.now
      · rw [if_pos due, Batcher.step_append_of_due batchTime (dueIff.1 due)]
        exact smooth_flush pushed available accepted closedKnown (by simp)
      · rw [if_neg due,
          Batcher.step_append_of_not_due batchTime (mt dueIff.2 due)]
        exact ⟨pushed, rfl⟩

/-- Whole smooth runs of the client and of the batcher agree. -/
theorem batches_run
    {batchSize batchTime created : Int} {instants : List Int}
    (fit : ClocksFit instants)
    (createdKnown : plusSeconds created 10 ∈ instants)
    {calls : List (ClientCall A)}
    (smooth : ∀ call ∈ calls, call.Smooth)
    (known : ∀ call ∈ calls, call.instants ⊆ instants) :
    Batches batchSize batchTime instants
        ((clientMachine A).after
          (create batchSize batchTime created) calls)
        ((Batcher.machine A batchSize batchTime).after
          ⟨[], plusSeconds created 10⟩
          (calls.map ClientCall.batcherInput)) ∧
      ((clientMachine A).outputs
          (create batchSize batchTime created) calls).map Answer.payloads =
        (Batcher.machine A batchSize batchTime).outputs
          ⟨[], plusSeconds created 10⟩
          (calls.map ClientCall.batcherInput) := by
  have sameInputs :
      List.Forall₂
        (fun call input =>
          (call.Smooth ∧ call.instants ⊆ instants) ∧
            input = call.batcherInput)
        calls (calls.map ClientCall.batcherInput) := by
    rw [List.forall₂_map_right_iff, List.forall₂_same]
    intro call member
    exact ⟨⟨smooth call member, known call member⟩, rfl⟩
  have start :
      Batches batchSize batchTime instants
        (create batchSize batchTime created)
        (⟨[], plusSeconds created 10⟩ : Batcher A) :=
    ⟨rfl, rfl, rfl, rfl, rfl, createdKnown⟩
  have stepSimulates :
      ∀ (client : ObservabilityClient A) (batcher : Batcher A)
          (call : ClientCall A) (input : BatcherInput A),
        Batches batchSize batchTime instants client batcher →
        (call.Smooth ∧ call.instants ⊆ instants) ∧
            input = call.batcherInput →
        True → True →
          Batches batchSize batchTime instants
              ((clientMachine A).next client call)
              ((Batcher.machine A batchSize batchTime).next batcher input) ∧
            ((clientMachine A).output client call).payloads =
              (Batcher.machine A batchSize batchTime).output batcher
                input := by
    intro client batcher call input batches inputShape _ _
    rcases inputShape with ⟨⟨callSmooth, callKnown⟩, rfl⟩
    exact batches_next fit batches callSmooth callKnown
  have simulated :=
    Machine.simulation _ _
      (fun (answer : Answer A) batches => answer.payloads = batches)
      stepSimulates sameInputs start
      (Machine.throughout_of_forall _ (fun _ _ => trivial) _ _)
      (Machine.throughout_of_forall _ (fun _ _ => trivial) _ _)
  refine ⟨simulated.1, ?_⟩
  have sameOutputs := simulated.2
  rwa [← List.forall₂_map_left_iff, List.forall₂_eq_eq_eq] at sameOutputs

/-- Batching equals the reference batcher: the payloads of every call are
the batches that the greedy batcher closes.  Hence every payload has between
one and `max 1 batchSize` records, and fewer records than that remain after
every call. -/
theorem batching_equals_reference
    (batchSize batchTime created : Int) (calls : List (ClientCall A))
    (smooth : ∀ call ∈ calls, call.Smooth)
    (fit :
      ClocksFit
        (plusSeconds created 10 :: calls.flatMap ClientCall.instants)) :
    ((clientMachine A).outputs
          (create batchSize batchTime created) calls).map Answer.payloads =
        (Batcher.machine A batchSize batchTime).outputs
          ⟨[], plusSeconds created 10⟩
          (calls.map ClientCall.batcherInput) ∧
      (∀ answer ∈ (clientMachine A).outputs
          (create batchSize batchTime created) calls,
        ∀ attempt ∈ answer.attempts,
          1 ≤ attempt.records.length ∧
            (attempt.records.length : Int) ≤ max 1 batchSize) ∧
      (((clientMachine A).after
          (create batchSize batchTime created) calls).buffer.length : Int) <
        max 1 batchSize := by
  have known :
      ∀ call ∈ calls,
        call.instants ⊆
          plusSeconds created 10 :: calls.flatMap ClientCall.instants := by
    intro call member instant instantMember
    exact List.Mem.tail _ (List.mem_flatMap.2 ⟨call, member, instantMember⟩)
  obtain ⟨reached, samePayloads⟩ :=
    batches_run fit (List.Mem.head _) smooth known
  have room :
      (⟨[], plusSeconds created 10⟩ : Batcher A).HasRoom batchSize := by
    simp only [Batcher.HasRoom, List.length_nil]
    omega
  obtain ⟨roomAfter, sized⟩ :=
    Batcher.sized_outputs batchTime room
      (calls.map ClientCall.batcherInput)
  refine ⟨samePayloads, ?_, ?_⟩
  · intro answer member attempt attempted
    rw [← samePayloads] at sized
    exact sized _ (List.mem_map_of_mem member) _
      (List.mem_map_of_mem attempted)
  · rw [reached.buffer]
    exact roomAfter

end Simulation

/-- Two records fill the first batch, a third one waits for a flush. -/
def smoothCalls : List (ClientCall LogEvent) :=
  let env := Environment.running (11 * nanosPerSecond) (.response 200 none)
  [.add env ⟨1, []⟩, .add env ⟨2, []⟩, .add env ⟨3, []⟩, .flushEvents env]

theorem batching_equals_reference_smoothCalls :
    letI := plainGson
    ((clientMachine LogEvent).outputs (create 2 10 0) smoothCalls).map
          Answer.payloads =
        (Batcher.machine LogEvent 2 10).outputs ⟨[], plusSeconds 0 10⟩
          (smoothCalls.map ClientCall.batcherInput) ∧
      (∀ answer ∈ (clientMachine LogEvent).outputs (create 2 10 0)
          smoothCalls,
        ∀ attempt ∈ answer.attempts,
          1 ≤ attempt.records.length ∧
            (attempt.records.length : Int) ≤ max 1 2) ∧
      (((clientMachine LogEvent).after (create 2 10 0)
          smoothCalls).buffer.length : Int) < max 1 2 := by
  let gson := plainGson
  apply batching_equals_reference 2 10 0 smoothCalls
  · intro call member env environment
    simp only [smoothCalls, List.mem_cons, List.not_mem_nil, or_false] at member
    rcases member with rfl | rfl | rfl | rfl <;>
      cases environment <;> exact ⟨by decide, rfl⟩
  · decide

end SparkObservability
