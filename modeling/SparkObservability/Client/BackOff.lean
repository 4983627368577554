import SparkObservability.Client.Retry

/-!
# How long the client waits after a failure

The wait is measured from the last successful flush and added to the batch
time.  It covers the announced back-off exactly when the failed attempt came
no later than the batch time after the last flush; a retry never does.
-/

namespace SparkObservability

universe u

variable {A : Type u}

open ObservabilityClient

/-- The calls of a run that only adds records. -/
def addCall (addition : Environment × A) : ClientCall A :=
  .add addition.1 addition.2

/-- The client as a machine that only adds records. -/
def additionMachine (A : Type u) [Gson A] [EventClass A] :
    Machine (ObservabilityClient A) (Environment × A) (Answer A) :=
  (clientMachine A).comap addCall

/-- The answer of a call whose send failed and was absorbed. -/
def Answer.Absorbed (answer : Answer A) : Prop :=
  answer.raised = none ∧
    ∃ attempt ∈ answer.attempts,
      attempt.failure.any ClientException.isRetryable = true

instance (answer : Answer A) : Decidable answer.Absorbed :=
  inferInstanceAs (Decidable (_ ∧ _))

/-- No whole number of seconds in the window that a back-off shifts to just
before the failed attempt reaches the batch time as a 32-bit integer. -/
def WaitCovered (batchTime lastFlush now backOff : Int) : Prop :=
  ∀ seconds,
    secondsBetween lastFlush now - backOff ≤ seconds →
      plusSeconds lastFlush seconds < now →
        toInt seconds < batchTime

/-- Without wrap-around the window is covered exactly when the attempt came
at most the batch time after the last flush. -/
theorem waitCovered_iff_of_fits
    {batchTime lastFlush now backOff : Int}
    (backOffPos : 0 < backOff)
    (lower : -2147483648 ≤ secondsBetween lastFlush now - backOff)
    (upper : secondsBetween lastFlush now < 2147483648) :
    WaitCovered batchTime lastFlush now backOff ↔
      now ≤ plusSeconds lastFlush batchTime := by
  have fits {seconds : Int}
      (fromWindow : secondsBetween lastFlush now - backOff ≤ seconds)
      (before : plusSeconds lastFlush seconds < now) :
      toInt seconds = seconds := by
    have atMost : seconds ≤ secondsBetween lastFlush now :=
      le_secondsBetween_iff.2 (Int.le_of_lt before)
    exact toInt_of_fits (by omega) (by omega)
  constructor
  · intro covered
    by_contra tooLate
    have before : plusSeconds lastFlush batchTime < now := by omega
    by_cases early : secondsBetween lastFlush now - backOff ≤ batchTime
    · have reached := covered batchTime early before
      rw [fits early before] at reached
      omega
    · -- the window starts after the batch time
      let start := secondsBetween lastFlush now - backOff
      have startBefore : plusSeconds lastFlush start < now :=
        plusSeconds_elapsed_sub_lt (lt_plusSeconds now backOffPos)
      have reached := covered start (Int.le_refl _) startBefore
      rw [fits (Int.le_refl _) startBefore] at reached
      omega
  · intro inTime seconds fromWindow before
    rw [fits fromWindow before]
    by_contra atLeast
    have later :
        plusSeconds lastFlush batchTime ≤ plusSeconds lastFlush seconds :=
      plusSeconds_mono lastFlush (by omega)
    omega

/-- What a client in a retry cycle keeps until it sends again. -/
structure Waiting
    (batchTime lastFlush backOff : Int) (client : ObservabilityClient A) :
    Prop where
  isBackingOff : client.isBackingOff = true
  batchTime : client.batchTime = batchTime
  lastFlush : client.lastFlush = lastFlush
  backOff : client.backOff = backOff
  initialized : client.logContextInitialized = true

theorem Waiting.push {batchTime lastFlush backOff : Int}
    {client : ObservabilityClient A}
    (waiting : Waiting batchTime lastFlush backOff client) (event : A) :
    Waiting batchTime lastFlush backOff (client.push event) :=
  ⟨waiting.isBackingOff, waiting.batchTime, waiting.lastFlush,
    waiting.backOff, waiting.initialized⟩

/-- In a retry cycle an `add` sends exactly when the shifted elapsed time
reaches the batch time. -/
theorem Waiting.sends_add_iff {batchTime lastFlush backOff : Int}
    {client : ObservabilityClient A}
    (waiting : Waiting batchTime lastFlush backOff client)
    (addition : Environment × A) :
    (addCall addition).Sends client ↔
      batchTime ≤
        toInt (secondsBetween lastFlush addition.1.now - backOff) := by
  have pushed := waiting.push addition.2
  have prepared :=
    prepared_of_initialized addition.1 _ pushed.initialized
  simp only [addCall, ClientCall.Sends, FlushDue, durationSinceLastFlush,
    prepared, pushed.isBackingOff, pushed.batchTime, pushed.lastFlush,
    pushed.backOff, pushed.initialized, toInt_toInt_sub]
  simp

/-- If the window is not covered, one more `add` before the deadline is
enough to send again. -/
theorem Waiting.sends_of_not_covered
    {batchTime lastFlush backOff now : Int}
    (backOffPos : 0 < backOff)
    (notCovered : ¬ WaitCovered batchTime lastFlush now backOff)
    {client : ObservabilityClient A}
    (waiting : Waiting batchTime lastFlush backOff client) (event : A) :
    ∃ clock,
      now ≤ clock ∧ clock < plusSeconds now backOff ∧
        (addCall
          (Environment.running clock (.response 200 none), event)).Sends
          client := by
  simp only [WaitCovered, not_forall, Int.not_lt] at notCovered
  obtain ⟨seconds, fromWindow, before, reached⟩ := notCovered
  let due := plusSeconds lastFlush (seconds + backOff)
  have dueBefore : due < plusSeconds now backOff := by
    rw [show due = plusSeconds (plusSeconds lastFlush seconds) backOff from
      plusSeconds_add lastFlush seconds backOff]
    exact plusSeconds_lt_plusSeconds_iff.2 before
  by_cases passed : due ≤ now
  · -- the window is already open at the failed attempt
    have elapsed : secondsBetween lastFlush now = seconds + backOff := by
      have atLeast := le_secondsBetween_iff.2 passed
      omega
    refine ⟨now, Int.le_refl _, ?_, ?_⟩
    · exact lt_plusSeconds now backOffPos
    · rw [waiting.sends_add_iff]
      simpa [Environment.running, elapsed] using reached
  · refine ⟨due, by omega, dueBefore, ?_⟩
    rw [waiting.sends_add_iff]
    have elapsed : secondsBetween lastFlush due = seconds + backOff :=
      secondsBetween_plusSeconds lastFlush (seconds + backOff)
    simpa [Environment.running, elapsed] using reached

section BackOff

variable [Gson A] [EventClass A]

/-- An `add` that does not send leaves a waiting client waiting. -/
theorem Waiting.next_of_not_sends {batchTime lastFlush backOff : Int}
    {client : ObservabilityClient A}
    (waiting : Waiting batchTime lastFlush backOff client)
    {addition : Environment × A}
    (noSend : ¬ (addCall addition).Sends client) :
    Waiting batchTime lastFlush backOff
      ((clientMachine A).next client (addCall addition)) := by
  have pushed := waiting.push addition.2
  rcases kept_of_not_sends noSend with same | ⟨env, same⟩
  · rw [same]
    exact pushed
  · have unchanged := prepared_of_initialized env _ pushed.initialized
    rw [same]
    simpa only [addCall, ClientCall.entry, unchanged] using pushed

/-- After an absorbed failure the client, which has been prepared, starts to
back off. -/
theorem next_of_absorbed
    {client : ObservabilityClient A} {addition : Environment × A}
    (absorbed :
      ((clientMachine A).output client (addCall addition)).Absorbed) :
    ∃ env,
      (((addCall addition).entry client).prepared env).logContextInitialized =
          true ∧
        (clientMachine A).next client (addCall addition) =
          (((addCall addition).entry client).prepared env).startBackOff := by
  obtain ⟨notRaised, attempt, attempted, failed⟩ := absorbed
  have step := clientStep client (addCall addition)
  generalize (clientMachine A).next client (addCall addition) = next,
    (clientMachine A).output client (addCall addition) = answer
    at step notRaised attempted ⊢
  cases step with
  | quiet => simp at attempted
  | acknowledged =>
      rw [List.mem_singleton.1 attempted] at failed
      simp at failed
  | @absorbed env _ _ _ readyShape initialized =>
      subst readyShape
      exact ⟨env, initialized, rfl⟩
  | raised => simp at notRaised

/-- An absorbed failure doubles the back-off up to its maximum. -/
theorem backOff_of_absorbed
    {client : ObservabilityClient A} {addition : Environment × A}
    (absorbed :
      ((clientMachine A).output client (addCall addition)).Absorbed) :
    ((clientMachine A).next client (addCall addition)).backOff =
      min (client.backOff * 2) maxBackoff := by
  obtain ⟨env, _, startsBackOff⟩ := next_of_absorbed absorbed
  have same := prepared_sameDelivery env ((addCall addition).entry client)
  rw [startsBackOff]
  simp only [startBackOff, same.backOff]
  rfl

/-- An absorbed failure leaves a client that waits from its last flush. -/
theorem waiting_of_absorbed
    {client : ObservabilityClient A} {addition : Environment × A}
    (absorbed :
      ((clientMachine A).output client (addCall addition)).Absorbed) :
    Waiting client.batchTime client.lastFlush
      ((clientMachine A).next client (addCall addition)).backOff
      ((clientMachine A).next client (addCall addition)) := by
  obtain ⟨env, initialized, startsBackOff⟩ := next_of_absorbed absorbed
  have same := prepared_sameDelivery env ((addCall addition).entry client)
  rw [startsBackOff]
  refine ⟨rfl, ?_, same.lastFlush, rfl, initialized⟩
  exact prepared_batchTime env ((addCall addition).entry client)

/-- As long as the window is covered, no `add` before the deadline sends. -/
theorem Waiting.no_send_before_deadline
    {batchTime lastFlush backOff now : Int}
    (covered : WaitCovered batchTime lastFlush now backOff)
    {client : ObservabilityClient A}
    (waiting : Waiting batchTime lastFlush backOff client)
    {later : List (Environment × A)}
    (ordered :
      (now :: later.map fun addition => addition.1.now).Pairwise (· ≤ ·)) :
    (additionMachine A).Throughout
      (fun state addition =>
        addition.1.now < plusSeconds now backOff →
          ((additionMachine A).output state addition).attempts = [])
      client later := by
  induction later generalizing client with
  | nil => trivial
  | cons addition rest inductionHypothesis =>
      rw [List.map_cons, List.pairwise_cons, List.pairwise_cons] at ordered
      obtain ⟨nowFirst, headFirst, restOrdered⟩ := ordered
      have nowHead : now ≤ addition.1.now :=
        nowFirst _ (List.Mem.head _)
      by_cases early : addition.1.now < plusSeconds now backOff
      · have noSend : ¬ (addCall addition).Sends client := by
          rw [waiting.sends_add_iff]
          have shifted :
              plusSeconds lastFlush
                  (secondsBetween lastFlush addition.1.now - backOff) <
                now :=
            plusSeconds_elapsed_sub_lt early
          have below :=
            covered (secondsBetween lastFlush addition.1.now - backOff)
              (Int.sub_le_sub_right (secondsBetween_mono nowHead) backOff)
              shifted
          omega
        refine ⟨fun _ => ?_, ?_⟩
        · exact not_not.1
            (mt (attempts_ne_nil_iff_sends client (addCall addition)).1
              noSend)
        · apply inductionHypothesis (waiting.next_of_not_sends noSend)
          exact List.pairwise_cons.2
            ⟨fun reading member =>
              nowFirst reading (List.Mem.tail _ member), restOrdered⟩
      · -- from here on the deadline has passed
        refine ⟨fun contradiction => absurd contradiction early, ?_⟩
        rw [Machine.throughout_iff_cut]
        intro before next later shape nextEarly
        have headNext : addition.1.now ≤ next.1.now := by
          apply headFirst
          rw [shape]
          exact List.mem_map_of_mem (by simp)
        omega

/-- The back-off of a reachable client is positive. -/
theorem backOff_pos_after
    (batchSize batchTime created : Int) (calls : List (ClientCall A)) :
    0 < ((clientMachine A).after
      (create batchSize batchTime created) calls).backOff := by
  rw [(retryState_after batchSize batchTime created calls).backOff]
  exact RetryCycle.wait_pos (by decide) (by decide) _

/-- After an absorbed failure of an `add`, no continuation with an ordered
clock sends before the announced back-off is over exactly when the failed
`add` came while its window was covered. -/
theorem backOff_respected_iff
    (batchSize batchTime created : Int)
    (before : List (Environment × A)) (env : Environment) (event : A)
    (absorbed :
      ((additionMachine A).output
        ((additionMachine A).after
          (create batchSize batchTime created) before)
        (env, event)).Absorbed) :
    let client :=
      (additionMachine A).after (create batchSize batchTime created) before
    let waiting := (additionMachine A).next client (env, event)
    (∀ later : List (Environment × A),
        (env.now :: later.map fun addition => addition.1.now).Pairwise
            (· ≤ ·) →
          (additionMachine A).Throughout
            (fun state addition =>
              addition.1.now < plusSeconds env.now waiting.backOff →
                ((additionMachine A).output state addition).attempts = [])
            waiting later) ↔
      WaitCovered batchTime client.lastFlush env.now
        (min (client.backOff * 2) maxBackoff) := by
  intro client waiting
  have sameBackOff :
      waiting.backOff = min (client.backOff * 2) maxBackoff :=
    backOff_of_absorbed absorbed
  rw [← sameBackOff]
  have isWaiting :
      Waiting client.batchTime client.lastFlush waiting.backOff waiting :=
    waiting_of_absorbed absorbed
  have sameBatchTime : client.batchTime = batchTime := by
    have setup :=
      after_sameSetup (create batchSize batchTime created)
        (before.map addCall)
    rw [← Machine.after_comap] at setup
    exact setup.batchTime
  rw [sameBatchTime] at isWaiting
  have backOffPos : 0 < waiting.backOff := by
    have positive :=
      backOff_pos_after batchSize batchTime created
        ((before ++ [(env, event)]).map addCall)
    rw [← Machine.after_comap, Machine.after_append] at positive
    exact positive
  constructor
  · intro respected
    by_contra notCovered
    obtain ⟨clock, ordered, early, sends⟩ :=
      isWaiting.sends_of_not_covered backOffPos notCovered event
    have quiet :=
      respected [(Environment.running clock (.response 200 none), event)]
        (by simpa [Environment.running] using ordered)
    exact (attempts_ne_nil_iff_sends waiting _).2 sends (quiet.1 early)
  · intro covered later ordered
    exact isWaiting.no_send_before_deadline covered ordered

end BackOff

/-- A record that fails `seconds` seconds after the epoch. -/
def failingAddition (seconds : Int) : Environment × LogEvent :=
  (.running (seconds * nanosPerSecond) (.response 503 (some "busy")), ⟨0, []⟩)

/-- An idle gap before the first failure defeats the wait: the failure at
110 s announces 10 s, and the record of 111 s is sent at once. -/
theorem backOff_ignored_after_idle_gap :
    letI := plainGson
    let machine := additionMachine LogEvent
    let client := create 100 10 0
    (machine.output client (failingAddition 110)).Absorbed ∧
      (machine.next client (failingAddition 110)).backOff = 10 ∧
      (failingAddition 110).1.now ≤ (failingAddition 111).1.now ∧
      (failingAddition 111).1.now <
        plusSeconds (failingAddition 110).1.now 10 ∧
      (machine.output (machine.next client (failingAddition 110))
        (failingAddition 111)).attempts.length = 1 := by
  refine ⟨?_, ?_, ?_, ?_, ?_⟩ <;> decide +kernel

/-- A batch that fills up in time and fails is followed by a full wait. -/
theorem backOff_respected_iff_full_batch :
    letI := plainGson
    let machine := additionMachine LogEvent
    let waiting := machine.next (create 1 10 0) (failingAddition 15)
    (∀ later : List (Environment × LogEvent),
        ((failingAddition 15).1.now ::
            later.map fun addition => addition.1.now).Pairwise (· ≤ ·) →
          machine.Throughout
            (fun state addition =>
              addition.1.now <
                  plusSeconds (failingAddition 15).1.now waiting.backOff →
                (machine.output state addition).attempts = [])
            waiting later) ↔
      WaitCovered 10 (plusSeconds 0 10) (failingAddition 15).1.now
        (min (initialBackoff * 2) maxBackoff) :=
  letI := plainGson
  backOff_respected_iff 1 10 0 [] (failingAddition 15).1
    (failingAddition 15).2 (by decide +kernel)

end SparkObservability
