import SparkObservability.Client.Freshness
import SparkObservability.Client.Outage

/-!
# The client once the pipeline is back

After an outage the client keeps everything until the wait of its last
refusal is over.  Then it sends all that waits in one request, and from there
on it batches as if nothing had ever failed.
-/

namespace SparkObservability

universe u

variable {A : Type u}

open ObservabilityClient

/-- A record that is added after an outage, for the batcher. -/
def welcomedRecord (addition : Environment × A) :
    RetryingBatcher.Welcome A where
  record := addition.2
  now := addition.1.now
  gate := decide addition.1.ContextAvailable
  closedAt := addition.1.acknowledgedAt

/-- The pipeline acknowledges the request, if there is one. -/
def Environment.Up (env : Environment) : Prop :=
  sendContent env.http = .ok ()

theorem retryingInput_of_up {addition : Environment × A}
    (up : addition.1.Up) :
    (addCall addition).retryingInput = (welcomedRecord addition).input := by
  have accepted :
      addition.1.handOver = .accepted addition.1.acknowledgedAt := by
    rw [Environment.handOver, up]
  simp only [addCall, ClientCall.retryingInput, accepted]
  rfl

theorem prompt_clientPolicy {instants : List Int} (fit : ClocksFit instants)
    (batchSize batchTime : Int) :
    RetryingBatcher.Prompt (clientPolicy batchSize batchTime) batchTime
      instants := by
  intro since knownSince now knownNow
  obtain ⟨lower, upper⟩ := fit since knownSince now knownNow
  have narrowed :
      toInt (secondsBetween since now - clientPause 0) =
        secondsBetween since now := by
    rw [clientPause, Int.sub_zero]
    exact toInt_of_fits lower upper
  simp only [clientPolicy, narrowed, decide_eq_true_eq, ge_iff_le]

section Runs

variable [Gson A] [EventClass A]

/-- A call that finds the pipeline up raises nothing, and none of its sends
fails. -/
theorem up_succeeds (client : ObservabilityClient A)
    {addition : Environment × A} (up : addition.1.Up) :
    ((additionMachine A).output client addition).raised = none ∧
      ∀ attempt ∈ ((additionMachine A).output client addition).attempts,
        attempt.failure = none := by
  have step := clientStep client (addCall addition)
  change
    ((clientMachine A).output client (addCall addition)).raised = none ∧
      ∀ attempt ∈
          ((clientMachine A).output client (addCall addition)).attempts,
        attempt.failure = none
  generalize (clientMachine A).next client (addCall addition) = next,
    (clientMachine A).output client (addCall addition) = answer at step ⊢
  have absurdFailure {env : Environment} {exception : ClientException}
      (environment : (addCall addition).environment? = some env)
      (failed : sendContent env.http = .error exception) : False := by
    cases environment
    rw [up] at failed
    cases failed
  cases step with
  | quiet => simp
  | acknowledged => simp
  | absorbed _ _ _ _ environment failed =>
      exact (absurdFailure environment failed).elim
  | raised _ _ _ _ environment failed =>
      exact (absurdFailure environment failed).elim

theorem up_run_succeeds (client : ObservabilityClient A)
    {additions : List (Environment × A)}
    (up : ∀ addition ∈ additions, addition.1.Up) :
    ∀ answer ∈ (additionMachine A).outputs client additions,
      answer.raised = none ∧
        ∀ attempt ∈ answer.attempts, attempt.failure = none := by
  induction additions generalizing client with
  | nil => simp
  | cons addition rest inductionHypothesis =>
      rw [List.forall_mem_cons] at up
      rw [Machine.outputs_cons, List.forall_mem_cons]
      exact ⟨up_succeeds client up.1, inductionHypothesis _ up.2⟩

/-- What a client sends while the pipeline is up, in the words of the
batcher. -/
theorem up_refines_reopening
    {batchSize batchTime : Int} {client : ObservabilityClient A}
    {batcher : RetryingBatcher A}
    (refines : Refines batchSize batchTime client batcher)
    {additions : List (Environment × A)}
    (up : ∀ addition ∈ additions, addition.1.Up) :
    let reopening :=
      RetryingBatcher.reopening A (clientPolicy batchSize batchTime)
    Refines batchSize batchTime ((additionMachine A).after client additions)
        (reopening.after batcher (additions.map welcomedRecord)) ∧
      ((additionMachine A).outputs client additions).map Answer.payloads =
        (reopening.outputs batcher (additions.map welcomedRecord)).map
          RetryingOutput.sent := by
  intro reopening
  obtain ⟨reached, sameOutputs⟩ :=
    refines.run_additions fun addition member =>
      retryingInput_of_up (up addition member)
  refine ⟨reached, ?_⟩
  have payloads := congrArg (List.map RetryingOutput.sent) sameOutputs
  rw [List.map_map] at payloads
  exact payloads

/-- While the client waits, it sends nothing and keeps everything. -/
theorem recovery_waits
    {batchSize batchTime : Int} {client : ObservabilityClient A}
    {batcher : RetryingBatcher A}
    (refines : Refines batchSize batchTime client batcher)
    (failing : 0 < batcher.failures) {before : List (Environment × A)}
    (up : ∀ earlier ∈ before, earlier.1.Up)
    (elapsed : ∀ earlier ∈ before, ElapsedFits batcher.since earlier.1.now)
    (waits :
      ∀ earlier ∈ before,
        earlier.1.now <
          plusSeconds batcher.since
            (batchTime + clientPause batcher.failures)) :
    Refines batchSize batchTime ((additionMachine A).after client before)
        { batcher with
          waiting := batcher.waiting ++ before.map Prod.snd } ∧
      ((additionMachine A).outputs client before).map Answer.payloads =
        before.map fun _ => [] := by
  obtain ⟨reached, samePayloads⟩ := up_refines_reopening refines up
  have notLate :
      ∀ welcome ∈ before.map welcomedRecord,
        (clientPolicy batchSize batchTime).late batcher.failures batcher.since
            welcome.now =
          false := by
    simp only [List.forall_mem_map]
    intro earlier member
    have still := waits earlier member
    rw [Bool.eq_false_iff, ne_eq, welcomedRecord,
      late_iff (elapsed earlier member)]
    omega
  obtain ⟨kept, silent⟩ :=
    RetryingBatcher.reopening_waits failing notLate
  rw [kept, List.map_map] at reached
  rw [silent, List.map_map, List.map_map] at samePayloads
  exact ⟨reached, samePayloads⟩

/-- The first addition after the wait sends everything, and the retry cycle
is over. -/
theorem recovery_sends
    {batchSize batchTime : Int} {client : ObservabilityClient A}
    {batcher : RetryingBatcher A}
    (refines : Refines batchSize batchTime client batcher)
    (isOpen : batcher.isOpen = true)
    {addition : Environment × A} (up : addition.1.Up)
    (elapsed : ElapsedFits batcher.since addition.1.now)
    (passed :
      plusSeconds batcher.since (batchTime + clientPause batcher.failures) ≤
        addition.1.now) :
    Refines batchSize batchTime ((additionMachine A).next client addition)
        ⟨[], addition.1.acknowledgedAt, 0, true⟩ ∧
      ((additionMachine A).output client addition).payloads =
        [batcher.waiting ++ [addition.2]] := by
  have due :
      (batcher.append (welcomedRecord addition).record).Due
        (clientPolicy batchSize batchTime) (welcomedRecord addition).now :=
    Or.inr ((late_iff elapsed).2 passed)
  have step :=
    RetryingBatcher.reopening_step_of_due (welcomedRecord addition) isOpen due
  obtain ⟨reached, sameOutput⟩ := refines.next (addCall addition)
  rw [retryingInput_of_up up] at reached sameOutput
  have next :
      (RetryingBatcher.machine A (clientPolicy batchSize batchTime)).next
          batcher (welcomedRecord addition).input =
        ⟨[], addition.1.acknowledgedAt, 0, true⟩ :=
    congrArg Prod.fst step
  have output := congrArg Prod.snd step
  rw [next] at reached
  exact ⟨reached, congrArg RetryingOutput.sent (sameOutput.trans output)⟩

/-- After any calls, with `k > 0` refusals in a row absorbed so far: once the
pipeline takes everything again, the client sends nothing until the wait of
the last refusal is over; then the next addition sends all that waits in one
request, and what it does with later additions is what the reference batcher
does from an empty batch. -/
theorem recovery_resumes_batching
    (batchSize batchTime created : Int) (calls : List (ClientCall A))
    {client : ObservabilityClient A}
    (reached :
      client =
        (clientMachine A).after (create batchSize batchTime created) calls)
    {k : Nat}
    (absorbed :
      k =
        absorbedSends
          ((clientMachine A).outputs
            (create batchSize batchTime created) calls))
    (failing : 0 < k)
    (before : List (Environment × A)) (addition : Environment × A)
    (later : List (Environment × A))
    (up : ∀ next ∈ before ++ addition :: later, next.1.Up)
    (elapsed :
      ∀ next ∈ before ++ [addition],
        ElapsedFits client.lastFlush next.1.now)
    (waits :
      ∀ earlier ∈ before,
        earlier.1.now <
          plusSeconds client.lastFlush (batchTime + clientPause k))
    (passed :
      plusSeconds client.lastFlush (batchTime + clientPause k) ≤
        addition.1.now)
    (fit :
      ClocksFit
        (addition.1.acknowledgedAt ::
          (later.map addCall).flatMap ClientCall.instants)) :
    let answers :=
      (additionMachine A).outputs client (before ++ addition :: later)
    answers.map Answer.payloads =
        before.map (fun _ => []) ++
          [client.buffer ++ (before ++ [addition]).map Prod.snd] ::
            (Batcher.machine A batchSize batchTime).outputs
              ⟨[], addition.1.acknowledgedAt⟩
              ((later.map addCall).map ClientCall.batcherInput) ∧
      ∀ answer ∈ answers,
        answer.raised = none ∧
          ∀ attempt ∈ answer.attempts, attempt.failure = none := by
  intro answers
  have refines := ((refines_create batchSize batchTime created).run calls).1
  have started :
      (⟨[], plusSeconds created 10, 0, false⟩ :
        RetryingBatcher A).OpenIfFailing :=
    fun noFailure => absurd noFailure (Nat.lt_irrefl 0)
  have opened :
      ((RetryingBatcher.machine A (clientPolicy batchSize batchTime)).after
        ⟨[], plusSeconds created 10, 0, false⟩
        (calls.map ClientCall.retryingInput)).OpenIfFailing :=
    RetryingBatcher.openIfFailing_after started _
  generalize
    (RetryingBatcher.machine A (clientPolicy batchSize batchTime)).after
      ⟨[], plusSeconds created 10, 0, false⟩
      (calls.map ClientCall.retryingInput) = batcher at refines opened
  have sameFailures : batcher.failures = k :=
    absorbed ▸
      refines.failures_eq (retryState_after batchSize batchTime created calls)
  rw [← reached] at refines
  rw [← sameFailures] at failing waits passed
  rw [refines.lastFlush] at elapsed waits passed
  obtain ⟨waited, silent⟩ :=
    recovery_waits refines failing
      (fun earlier member => up earlier (by simp [member]))
      (fun earlier member => elapsed earlier (by simp [member])) waits
  obtain ⟨resumed, sent⟩ :=
    recovery_sends waited (opened failing) (up addition (by simp))
      (elapsed addition (by simp)) passed
  have laterUp : ∀ next ∈ later, next.1.Up :=
    fun next member => up next (by simp [member])
  have known :
      ∀ welcome ∈ later.map welcomedRecord,
        welcome.now ∈
            addition.1.acknowledgedAt ::
              (later.map addCall).flatMap ClientCall.instants ∧
          welcome.closedAt ∈
            addition.1.acknowledgedAt ::
              (later.map addCall).flatMap ClientCall.instants := by
    simp only [List.forall_mem_map]
    intro next member
    have isKnown (instant : Int)
        (isInstant : instant ∈ (addCall next).instants) :
        instant ∈
          addition.1.acknowledgedAt ::
            (later.map addCall).flatMap ClientCall.instants :=
      List.mem_cons_of_mem _
        (List.mem_flatMap.2
          ⟨addCall next, List.mem_map_of_mem member, isInstant⟩)
    exact
      ⟨isKnown _ (List.Mem.head _),
        isKnown _ (List.Mem.tail _ (List.Mem.head _))⟩
  have sameTold :
      (later.map welcomedRecord).map RetryingBatcher.Welcome.batcherInput =
        (later.map addCall).map ClientCall.batcherInput := by
    rw [List.map_map, List.map_map]
    rfl
  constructor
  · simp only [answers]
    rw [Machine.outputs_append, Machine.outputs_cons, List.map_append,
      List.map_cons, silent, sent, (up_refines_reopening resumed laterUp).2,
      RetryingBatcher.reopening_batches
        (prompt_clientPolicy fit batchSize batchTime) List.mem_cons_self known,
      ← refines.buffer, sameTold]
    simp [clientPolicy]
  · exact up_run_succeeds client up

end Runs

/-- A full batch that the service refuses. -/
def refusedBatch : List (ClientCall LogEvent) :=
  [12, 13].map fun second =>
    .add (Environment.running (second * nanosPerSecond) (.response 503 none))
      ⟨second, []⟩

theorem recovery_resumes_batching_refusedBatch :
    letI := plainGson
    let start : ObservabilityClient LogEvent := create 2 10 0
    let client := (clientMachine LogEvent).after start refusedBatch
    let before := [15, 29].map acceptedAddition
    let later := [32, 33, 45].map acceptedAddition
    let answers :=
      (additionMachine LogEvent).outputs client
        (before ++ acceptedAddition 31 :: later)
    answers.map Answer.payloads =
        before.map (fun _ => []) ++
          [client.buffer ++ (before ++ [acceptedAddition 31]).map Prod.snd] ::
            (Batcher.machine LogEvent 2 10).outputs
              ⟨[], (acceptedAddition 31).1.acknowledgedAt⟩
              ((later.map addCall).map ClientCall.batcherInput) ∧
      ∀ answer ∈ answers,
        answer.raised = none ∧
          ∀ attempt ∈ answer.attempts, attempt.failure = none := by
  let gson := plainGson
  apply recovery_resumes_batching 2 10 0 refusedBatch (k := 1) rfl
  · decide +kernel
  · decide
  · have accepted :
        ∀ seconds ∈ ([15, 29, 31, 32, 33, 45] : List Int),
          (acceptedAddition seconds).1.Up :=
      fun _ _ => rfl
    simpa using accepted
  · decide +kernel
  · decide +kernel
  · decide +kernel
  · decide +kernel

end SparkObservability
