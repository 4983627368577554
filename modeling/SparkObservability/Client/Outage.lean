import SparkObservability.Client.Delivery
import SparkObservability.Client.Refinement

/-!
# The client while the pipeline is down

During an outage the client behaves like the retrying batcher during a
blockade: it asks a few times until the longest wait has passed and with
every record from then on.  A record that the pipeline never takes makes an
outage of its own, because every send carries the whole buffer.
-/

namespace SparkObservability

universe u

variable {A : Type u}

open ObservabilityClient

/-- A record that is added during an outage, for the batcher. -/
def blockedRecord (addition : Environment × A) :
    RetryingBatcher.Blocked A where
  record := addition.2
  now := addition.1.now
  gate := decide addition.1.ContextAvailable

/-- The pipeline answers, if it is asked, with a failure worth a retry. -/
def Environment.Down (env : Environment) : Prop :=
  ∃ exception,
    sendContent env.http = .error exception ∧ exception.isRetryable = true

theorem retryingInput_addCall {addition : Environment × A}
    (down : addition.1.Down) :
    (addCall addition).retryingInput = (blockedRecord addition).input := by
  obtain ⟨exception, failed, retryable⟩ := down
  have refused : addition.1.handOver = .refused := by
    rw [Environment.handOver, failed]
    exact if_pos retryable
  simp only [addCall, ClientCall.retryingInput, refused]
  rfl

theorem clientPause_le (failures : Nat) : clientPause failures ≤ 60 := by
  cases failures with
  | zero => decide
  | succ more =>
      exact Int.min_le_left 60 _

theorem clientPause_of_four_le {failures : Nat} (enough : 4 ≤ failures) :
    clientPause failures = 60 := by
  obtain ⟨more, rfl⟩ := Nat.exists_eq_add_of_le' enough
  have large : (60 : Int) ≤ 5 * 2 ^ (more + 4) := by
    have positive : 0 < (2 : Int) ^ more := Int.pow_pos (by decide)
    rw [Int.pow_add]
    omega
  exact Int.min_eq_left large

theorem clientPause_nonneg (failures : Nat) : 0 ≤ clientPause failures := by
  cases failures with
  | zero => exact Int.le_refl 0
  | succ more =>
      exact Int.le_of_lt
        (RetryCycle.wait_pos (by decide) (by decide) (more + 1))

/-- The elapsed time, less the longest wait, fits 32 bits. -/
def ElapsedFits (since now : Int) : Prop :=
  -2147483648 ≤ secondsBetween since now - 60 ∧
    secondsBetween since now < 2147483648

instance (since now : Int) : Decidable (ElapsedFits since now) :=
  inferInstanceAs (Decidable (_ ∧ _))

theorem late_iff {batchSize batchTime since now : Int} {failures : Nat}
    (fit : ElapsedFits since now) :
    (clientPolicy batchSize batchTime).late failures since now = true ↔
      plusSeconds since (batchTime + clientPause failures) ≤ now := by
  have atMost := clientPause_le failures
  have nonneg := clientPause_nonneg failures
  obtain ⟨lower, upper⟩ := fit
  have narrowed :
      toInt (secondsBetween since now - clientPause failures) =
        secondsBetween since now - clientPause failures :=
    toInt_of_fits (by omega) (by omega)
  rw [← le_secondsBetween_iff]
  simp only [clientPolicy, narrowed, decide_eq_true_eq]
  omega

/-- The waits of the client are exhausted after four refusals. -/
theorem clientPatience {batchSize batchTime since : Int}
    {instants : List Int}
    (fit : ∀ now ∈ instants, ElapsedFits since now) :
    RetryingBatcher.Patience (clientPolicy batchSize batchTime) since
      (plusSeconds since (batchTime + 60)) 4 instants where
  positive := by decide
  within := Nat.le_succ 4
  waits := by
    intro failures now atLeast _ known before
    rw [Bool.eq_false_iff, ne_eq, late_iff (fit now known),
      clientPause_of_four_le atLeast]
    omega
  ends := by
    intro failures now _ known passed
    rw [late_iff (fit now known)]
    have shorter :
        plusSeconds since (batchTime + clientPause failures) ≤
          plusSeconds since (batchTime + 60) :=
      plusSeconds_mono since (by have := clientPause_le failures; omega)
    omega

/-- An addition that sends before the deadline. -/
def earlySend (deadline : Int) (addition : Environment × A)
    (answer : Answer A) : Bool :=
  decide (addition.1.now < deadline) && !answer.attempts.isEmpty

theorem early_blockedRecord (deadline : Int) (addition : Environment × A)
    (answer : Answer A) :
    RetryingBatcher.early deadline (blockedRecord addition)
        answer.retryingOutput =
      earlySend deadline addition answer := by
  simp only [RetryingBatcher.early, earlySend, Answer.retryingOutput,
    Answer.payloads, List.isEmpty_map]
  rfl

theorem countP_early_eq (deadline : Int) (outage : List (Environment × A))
    (answers : List (Answer A)) :
    ((outage.map blockedRecord).zip
          (answers.map Answer.retryingOutput)).countP
        (fun step => RetryingBatcher.early deadline step.1 step.2) =
      (outage.zip answers).countP
        (fun step => earlySend deadline step.1 step.2) := by
  rw [List.zip_map, List.countP_map]
  congr 1
  funext step
  exact early_blockedRecord deadline step.1 step.2

theorem Refines.failures_eq {batchSize batchTime : Int} {failures : Nat}
    {client : ObservabilityClient A} {batcher : RetryingBatcher A}
    (refines : Refines batchSize batchTime client batcher)
    (state : RetryState failures client) :
    batcher.failures = failures := by
  have retries := refines.retry.retries
  rw [state.retries] at retries
  omega

section Runs

variable [Gson A] [EventClass A]

/-- Additions of one kind are inputs of the batcher of that kind. -/
theorem Refines.run_additions
    {batchSize batchTime : Int} {client : ObservabilityClient A}
    {batcher : RetryingBatcher A}
    (refines : Refines batchSize batchTime client batcher)
    {Input : Type u} {input : Input → RetryingInput A}
    {told : Environment × A → Input} {additions : List (Environment × A)}
    (sameInput :
      ∀ addition ∈ additions,
        (addCall addition).retryingInput = input (told addition)) :
    let abstract :=
      (RetryingBatcher.machine A (clientPolicy batchSize batchTime)).comap
        input
    Refines batchSize batchTime ((additionMachine A).after client additions)
        (abstract.after batcher (additions.map told)) ∧
      ((additionMachine A).outputs client additions).map
          Answer.retryingOutput =
        abstract.outputs batcher (additions.map told) := by
  have sameInputs :
      (additions.map addCall).map ClientCall.retryingInput =
        (additions.map told).map input := by
    rw [List.map_map, List.map_map]
    exact List.map_congr_left sameInput
  have run := refines.run (additions.map addCall)
  simp only [additionMachine, Machine.after_comap, Machine.outputs_comap]
  rwa [sameInputs] at run

/-- What an outage makes of the client, in the words of the batcher. -/
theorem outage_refines_blockade
    {batchSize batchTime : Int} {client : ObservabilityClient A}
    {batcher : RetryingBatcher A}
    (refines : Refines batchSize batchTime client batcher)
    (outage : List (Environment × A))
    (down : ∀ addition ∈ outage, addition.1.Down) :
    let blockade :=
      RetryingBatcher.blockade A (clientPolicy batchSize batchTime)
    Refines batchSize batchTime ((additionMachine A).after client outage)
        (blockade.after batcher (outage.map blockedRecord)) ∧
      ((additionMachine A).outputs client outage).map
          Answer.retryingOutput =
        blockade.outputs batcher (outage.map blockedRecord) :=
  refines.run_additions fun addition member =>
    retryingInput_addCall (down addition member)

/-- After any calls, with `k` refusals in a row absorbed so far: an outage is
met with at most `4 - k` sends before the longest wait has passed, and from
then on every record that is added sends everything that waits.  The context
is known already or can be read whenever a record is added. -/
theorem outage_sends
    (batchSize batchTime created : Int) (calls : List (ClientCall A))
    (outage : List (Environment × A))
    (down : ∀ addition ∈ outage, addition.1.Down)
    (available :
      ((clientMachine A).after
            (create batchSize batchTime created)
            calls).logContextInitialized = true ∨
        ∀ addition ∈ outage, addition.1.ContextAvailable)
    (fit :
      ∀ addition ∈ outage,
        ElapsedFits
          ((clientMachine A).after
            (create batchSize batchTime created) calls).lastFlush
          addition.1.now) :
    let start := create batchSize batchTime created
    let client := (clientMachine A).after start calls
    let k := absorbedSends ((clientMachine A).outputs start calls)
    let deadline := plusSeconds client.lastFlush (batchTime + 60)
    (outage.zip ((additionMachine A).outputs client outage)).countP
          (fun step => earlySend deadline step.1 step.2) ≤ 4 - k ∧
      ∀ before addition later,
        outage = before ++ addition :: later →
          deadline ≤ addition.1.now →
            ((additionMachine A).output
                ((additionMachine A).after client before)
                addition).payloads =
              [client.buffer ++ (before ++ [addition]).map Prod.snd] := by
  intro start client k deadline
  have refines := ((refines_create batchSize batchTime created).run calls).1
  generalize
    (RetryingBatcher.machine A (clientPolicy batchSize batchTime)).after
      ⟨[], plusSeconds created 10, 0, false⟩
      (calls.map ClientCall.retryingInput) = batcher at refines
  have sameFailures : batcher.failures = k :=
    refines.failures_eq (retryState_after batchSize batchTime created calls)
  have bounded : batcher.failures ≤ 5 := refines.retry.bounded
  have patience :
      RetryingBatcher.Patience (clientPolicy batchSize batchTime)
        client.lastFlush deadline 4
        ((outage.map blockedRecord).map RetryingBatcher.Blocked.now) := by
    apply clientPatience
    simp only [List.map_map, List.mem_map]
    rintro now ⟨addition, member, rfl⟩
    exact fit addition member
  have known {addition : Environment × A} (member : addition ∈ outage) :
      (blockedRecord addition).now ∈
        (outage.map blockedRecord).map RetryingBatcher.Blocked.now :=
    List.mem_map_of_mem (List.mem_map_of_mem member)
  constructor
  · rw [← sameFailures, ← countP_early_eq,
      (outage_refines_blockade refines outage down).2]
    apply RetryingBatcher.early_handOvers_le patience
      refines.lastFlush.symm bounded
    rintro blocked member
    exact List.mem_map_of_mem member
  · intro before addition later shape passed
    have member : addition ∈ outage := by simp [shape]
    have downBefore : ∀ earlier ∈ before, earlier.1.Down := by
      intro earlier earlierMember
      exact down earlier (by simp [shape, earlierMember])
    have reached := (outage_refines_blockade refines before downBefore).1
    have answered :=
      (outage_refines_blockade reached [addition]
        (by simpa using down addition member)).2
    have blockadeState :=
      RetryingBatcher.after_blockade (clientPolicy batchSize batchTime)
        batcher (before.map blockedRecord)
    have isOpen :
        (((RetryingBatcher.blockade A (clientPolicy batchSize batchTime)).after
              batcher (before.map blockedRecord)).isOpen ||
            (blockedRecord addition).gate) = true := by
      rcases available with initialized | available
      · rw [blockadeState.2.2.2 (refines.isOpen.symm.trans initialized),
          Bool.true_or]
      · rw [show (blockedRecord addition).gate = true from
          decide_eq_true (available addition member), Bool.or_true]
    have sent :=
      RetryingBatcher.sent_after_deadline patience
        (blockadeState.2.1.trans refines.lastFlush.symm)
        (blockadeState.2.2.1 bounded) (known member) passed isOpen
    have sameAnswer := congrArg (List.map RetryingOutput.sent) answered
    simp only [Machine.outputs_cons, Machine.outputs_nil, List.map_cons,
      List.map_nil, List.cons.injEq, and_true] at sameAnswer
    rw [show ∀ answer : Answer A,
      answer.payloads = answer.retryingOutput.sent from fun _ => rfl,
      sameAnswer, sent, blockadeState.1, ← refines.buffer]
    simp [blockedRecord, Function.comp_def]
    rfl

end Runs

/-- The service is unavailable for more than a minute. -/
def longOutage : List (Environment × LogEvent) :=
  [12, 20, 30, 40, 60, 70, 80, 81].map fun second =>
    (Environment.running (second * nanosPerSecond) (.response 503 none),
      ⟨second, []⟩)

theorem outage_sends_longOutage :
    letI := plainGson
    let start : ObservabilityClient LogEvent := create 1 10 0
    let client := (clientMachine LogEvent).after start []
    let k := absorbedSends ((clientMachine LogEvent).outputs start [])
    let deadline := plusSeconds client.lastFlush (10 + 60)
    (longOutage.zip
            ((additionMachine LogEvent).outputs client longOutage)).countP
          (fun step => earlySend deadline step.1 step.2) ≤ 4 - k ∧
      ∀ before addition later,
        longOutage = before ++ addition :: later →
          deadline ≤ addition.1.now →
            ((additionMachine LogEvent).output
                ((additionMachine LogEvent).after client before)
                addition).payloads =
              [client.buffer ++ (before ++ [addition]).map Prod.snd] := by
  let gson := plainGson
  apply outage_sends 1 10 0 [] longOutage
  · simp only [longOutage, List.forall_mem_map]
    intro second _
    exact ⟨_, rfl, rfl⟩
  · right
    simp only [longOutage, List.forall_mem_map]
    intro second _
    exact Environment.running_contextAvailable _ _
  · simp only [longOutage, List.forall_mem_map]
    decide

section BlockedRecord

variable [Gson A] [EventClass A]

/-- One call with a record in the buffer that no send gets through. -/
theorem blocked_next {client : ObservabilityClient A} {record : A}
    (held : record ∈ client.buffer) {call : ClientCall A}
    (blocked :
      ∀ attempt ∈ ((clientMachine A).output client call).attempts,
        record ∈ attempt.records → attempt.failure ≠ none) :
    ((clientMachine A).next client call).buffer = (call.entry client).buffer ∧
      ∀ attempt ∈ ((clientMachine A).output client call).attempts,
        attempt.failure ≠ none ∧
          attempt.records = (call.entry client).buffer := by
  have entryHeld : record ∈ (call.entry client).buffer := by
    rw [entry_buffer]
    exact List.mem_append_left _ held
  have step := clientStep client call
  generalize (clientMachine A).next client call = next,
    (clientMachine A).output client call = answer
    at step blocked ⊢
  cases step with
  | quiet _ kept =>
      rcases kept with rfl | ⟨env, _, rfl⟩ <;> simp
  | acknowledged _ readyShape =>
      subst readyShape
      exact absurd rfl (blocked _ (List.mem_singleton.2 rfl)
        (by simpa using entryHeld))
  | absorbed _ readyShape =>
      subst readyShape
      simp [startBackOff]
  | raised _ readyShape =>
      subst readyShape
      simp

/-- A record that the pipeline never takes blocks everything behind it: no
later send of the client is acknowledged, and its buffer keeps every record
added since. -/
theorem blocked_record_stops_delivery
    (client : ObservabilityClient A) {record : A}
    (held : record ∈ client.buffer) (calls : List (ClientCall A))
    (blocked :
      ∀ answer ∈ (clientMachine A).outputs client calls,
        ∀ attempt ∈ answer.attempts,
          record ∈ attempt.records → attempt.failure ≠ none) :
    deliveredRecords ((clientMachine A).outputs client calls) = [] ∧
      ((clientMachine A).after client calls).buffer =
        client.buffer ++ addedRecords calls := by
  induction calls generalizing client with
  | nil => simp [deliveredRecords, addedRecords]
  | cons call rest inductionHypothesis =>
      obtain ⟨kept, failed⟩ :=
        blocked_next held (blocked _ (List.mem_cons_self))
      have stillHeld :
          record ∈ ((clientMachine A).next client call).buffer := by
        rw [kept, entry_buffer]
        exact List.mem_append_left _ held
      have tail :=
        inductionHypothesis _ stillHeld
          (fun answer member => blocked answer (List.mem_cons_of_mem _ member))
      have nothing :
          ((clientMachine A).output client call).delivered = [] := by
        simp only [Answer.delivered, List.flatMap_eq_nil_iff]
        intro attempt attempted
        exact if_neg (failed attempt attempted).1
      constructor
      · rw [Machine.outputs_cons, deliveredRecords, List.flatMap_cons,
          nothing]
        exact tail.1
      · rw [Machine.after_cons, tail.2, kept, entry_buffer, List.append_assoc,
          ← addedRecords_append]
        rfl

end BlockedRecord

/-- The service answers `413` as long as the first record is in the body. -/
def blockedCalls : List (ClientCall LogEvent) :=
  let tooLarge (second : Int) : Environment :=
    Environment.running (second * nanosPerSecond) (.response 413 none)
  [.add (tooLarge 30) ⟨2, []⟩, .add (tooLarge 31) ⟨3, []⟩,
    .flushEvents (tooLarge 60)]

def blockedClient : ObservabilityClient LogEvent :=
  (create 10 10 0).push ⟨1, []⟩

theorem blocked_record_stops_delivery_blockedCalls :
    letI := plainGson
    deliveredRecords
          ((clientMachine LogEvent).outputs blockedClient blockedCalls) =
        [] ∧
      ((clientMachine LogEvent).after blockedClient blockedCalls).buffer =
        blockedClient.buffer ++ addedRecords blockedCalls := by
  let gson := plainGson
  exact blocked_record_stops_delivery blockedClient
    (List.mem_singleton.2 rfl) blockedCalls (by decide +kernel)

end SparkObservability
