import SparkObservability.Client.Operations

/-!
# What one call of the client does

The equations of `flushEvents` and `add`, and the inversion of one step of
the client machine: a call either sends nothing, or it sends the whole buffer
once and the send is acknowledged, absorbed or raised.
-/

namespace SparkObservability

universe u

namespace ObservabilityClient

variable {A : Type u}

/-- The client once the context is initialized as far as it can be. -/
def prepared (env : Environment) (client : ObservabilityClient A) :
    ObservabilityClient A :=
  if client.logContextInitialized then
    client
  else
    client.initLogContext (env.sparkEnv 0)

/-- The condition under which `add` calls `flushEvents`. -/
def FlushDue (client : ObservabilityClient A) (now : Int) : Prop :=
  (client.isBackingOff = false ∧ client.buffer.length ≥ client.batchSize) ∨
    client.durationSinceLastFlush now ≥ client.batchTime

instance (client : ObservabilityClient A) (now : Int) :
    Decidable (client.FlushDue now) :=
  inferInstanceAs (Decidable (_ ∨ _))

/-- The JSON array sent for a list of events. -/
def payload [Gson A] [EventClass A] (client : ObservabilityClient A)
    (events : List A) : String :=
  "[" ++
    String.intercalate ","
      (events.map fun event => Gson.render A (client.enrichedObject event)) ++
    "]"

/-- Agreement on everything but the context and the constructor arguments. -/
structure SameDelivery (first second : ObservabilityClient A) : Prop where
  buffer : first.buffer = second.buffer
  lastFlush : first.lastFlush = second.lastFlush
  isBackingOff : first.isBackingOff = second.isBackingOff
  backOff : first.backOff = second.backOff
  retries : first.retries = second.retries

/-- The constructor arguments of the client never change, and a context once
initialized stays as it is. -/
structure SameSetup (first second : ObservabilityClient A) : Prop where
  batchSize : first.batchSize = second.batchSize
  batchTime : first.batchTime = second.batchTime
  context :
    second.logContextInitialized = true →
      first.appName = second.appName ∧ first.appId = second.appId ∧
        first.executorId = second.executorId

theorem SameSetup.initialized {first second : ObservabilityClient A}
    (same : SameSetup first second)
    (initialized : second.logContextInitialized = true) :
    first.logContextInitialized = true := by
  obtain ⟨sameName, sameId, sameExecutor⟩ := same.context initialized
  simpa [logContextInitialized, sameName, sameId, sameExecutor] using
    initialized

theorem SameSetup.trans {first second third : ObservabilityClient A}
    (left : SameSetup first second) (right : SameSetup second third) :
    SameSetup first third where
  batchSize := left.batchSize.trans right.batchSize
  batchTime := left.batchTime.trans right.batchTime
  context initialized := by
    obtain ⟨nameRight, idRight, executorRight⟩ := right.context initialized
    obtain ⟨nameLeft, idLeft, executorLeft⟩ :=
      left.context (right.initialized initialized)
    exact ⟨nameLeft.trans nameRight, idLeft.trans idRight,
      executorLeft.trans executorRight⟩

section Prepared

variable (env : Environment) (client : ObservabilityClient A)

@[simp]
theorem prepared_batchSize :
    (client.prepared env).batchSize = client.batchSize := by
  unfold prepared
  split <;> rfl

@[simp]
theorem prepared_batchTime :
    (client.prepared env).batchTime = client.batchTime := by
  unfold prepared
  split <;> rfl

theorem prepared_sameDelivery :
    SameDelivery (client.prepared env) client := by
  by_cases initialized : client.logContextInitialized = true
  · rw [prepared, if_pos initialized]
    exact ⟨rfl, rfl, rfl, rfl, rfl⟩
  · rw [prepared, if_neg initialized]
    exact ⟨rfl, rfl, rfl, rfl, rfl⟩

@[simp]
theorem prepared_buffer : (client.prepared env).buffer = client.buffer :=
  (client.prepared_sameDelivery env).buffer

theorem prepared_of_initialized
    (initialized : client.logContextInitialized = true) :
    client.prepared env = client := by
  rw [prepared, if_pos initialized]

end Prepared

@[simp]
theorem push_buffer (client : ObservabilityClient A) (event : A) :
    (client.push event).buffer = client.buffer ++ [event] :=
  rfl

theorem prepared_sameSetup
    (env : Environment) (client : ObservabilityClient A) :
    SameSetup (client.prepared env) client where
  batchSize := by simp
  batchTime := by simp
  context initialized := by
    simp [prepared_of_initialized env client initialized]

theorem acknowledge_sameSetup
    (client : ObservabilityClient A) (acknowledgedAt : Int) :
    SameSetup (client.acknowledge acknowledgedAt) client := by
  simp only [acknowledge]
  split <;> exact ⟨rfl, rfl, fun _ => ⟨rfl, rfl, rfl⟩⟩

theorem acknowledge_of_not_backingOff
    {client : ObservabilityClient A}
    (notBackingOff : client.isBackingOff = false) (acknowledgedAt : Int) :
    client.acknowledge acknowledgedAt =
      { client with lastFlush := acknowledgedAt, buffer := [] } := by
  simp [acknowledge, notBackingOff]

theorem startBackOff_sameSetup (client : ObservabilityClient A) :
    SameSetup client.startBackOff client :=
  ⟨rfl, rfl, fun _ => ⟨rfl, rfl, rfl⟩⟩

private theorem foldl_comma_eq_intercalate
    (first : String) (rest : List String) :
    rest.foldl (fun x y => x ++ "," ++ y) first =
      String.intercalate "," (first :: rest) := by
  induction rest generalizing first with
  | nil => simp
  | cons second rest inductionHypothesis =>
      rw [List.foldl_cons, inductionHypothesis]
      rw [String.intercalate_cons_append, String.intercalate_cons_cons]

theorem reduceWithComma_of_ne_nil
    {texts : List String} (nonempty : texts ≠ []) :
    reduceWithComma texts = some (String.intercalate "," texts) := by
  cases texts with
  | nil => exact absurd rfl nonempty
  | cons first rest =>
      rw [reduceWithComma, foldl_comma_eq_intercalate]

section Equations

variable [Gson A] [EventClass A]

theorem flushEvents_of_empty
    (env : Environment) {client : ObservabilityClient A}
    (empty : client.buffer = []) :
    client.flushEvents env = (client, ⟨[], none⟩) := by
  rw [flushEvents]
  split
  next mapped => simp [empty] at mapped
  next texts mapped =>
    have noTexts : texts = [] := by
      simpa [empty, eq_comm] using mapped
    simp [noTexts, reduceWithComma]

theorem flushEvents_of_initialized
    (env : Environment) {client : ObservabilityClient A}
    (nonempty : client.buffer ≠ [])
    (initialized : client.logContextInitialized = true) :
    client.flushEvents env =
      client.sendBuffer env (client.payload client.buffer) := by
  have mappedAll := mapM_enrich_of_initialized initialized client.buffer
  rw [flushEvents]
  split
  next mapped => simp [mappedAll] at mapped
  next texts mapped =>
    have textsShape := Option.some.inj (mapped.symm.trans mappedAll)
    have textsNonempty : texts ≠ [] := by
      simp [textsShape, nonempty]
    rw [reduceWithComma_of_ne_nil textsNonempty]
    simp only [payload, textsShape]

theorem flushEvents_of_uninitialized
    (env : Environment) {client : ObservabilityClient A}
    (nonempty : client.buffer ≠ [])
    (uninitialized : client.logContextInitialized = false) :
    client.flushEvents env =
      if (client.initLogContext (env.sparkEnv 0)).logContextInitialized then
        (client.initLogContext (env.sparkEnv 0)).sendBuffer env
          ((client.initLogContext (env.sparkEnv 0)).payload client.buffer)
      else
        (client.initLogContext (env.sparkEnv 0), ⟨[], none⟩) := by
  obtain ⟨event, rest, shape⟩ := List.exists_cons_of_ne_nil nonempty
  have mappedNone : client.buffer.mapM client.enrich = none := by
    simp [shape, enrich, uninitialized]
  rw [flushEvents]
  split
  next =>
    by_cases ready :
        (client.initLogContext (env.sparkEnv 0)).logContextInitialized = true
    · rw [if_pos ready]
      simp only [ready, dif_pos]
      exact flushEvents_of_initialized _ nonempty ready
    · rw [if_neg ready]
      simp [ready]
  next texts mapped => simp [mappedNone] at mapped

/-- `flushEvents` without its recursion: prepare the context and send the
whole buffer, unless there is nothing to send or no context. -/
theorem flushEvents_eq
    (env : Environment) (client : ObservabilityClient A) :
    client.flushEvents env =
      if client.buffer = [] then
        (client, ⟨[], none⟩)
      else if (client.prepared env).logContextInitialized then
        (client.prepared env).sendBuffer env
          ((client.prepared env).payload client.buffer)
      else
        (client.prepared env, ⟨[], none⟩) := by
  by_cases empty : client.buffer = []
  · rw [if_pos empty, flushEvents_of_empty env empty]
  · rw [if_neg empty]
    cases initialized : client.logContextInitialized with
    | true =>
        rw [prepared_of_initialized env client initialized,
          if_pos initialized, flushEvents_of_initialized env empty initialized]
    | false =>
        have preparedShape :
            client.prepared env =
              client.initLogContext (env.sparkEnv 0) := by
          simp [prepared, initialized]
        rw [preparedShape, flushEvents_of_uninitialized env empty initialized]

/-- `add` is a push followed by a flush if one is due. -/
theorem add_eq
    (env : Environment) (client : ObservabilityClient A) (event : A) :
    client.add env event =
      if (client.push event).FlushDue env.now then
        (client.push event).flushEvents env
      else
        (client.push event, ⟨[], none⟩) := by
  simp only [add, FlushDue]
  by_cases backingOff : (client.push event).isBackingOff = true
  · simp [backingOff]
  · have notBackingOff : (client.push event).isBackingOff = false := by
      simpa using backingOff
    simp [notBackingOff]

end Equations

end ObservabilityClient

open ObservabilityClient

variable {A : Type u}

namespace ClientCall

/-- The client at the point where the call may flush. -/
def entry (client : ObservabilityClient A) :
    ClientCall A → ObservabilityClient A
  | .add _ event => client.push event
  | .flushEvents _ => client
  | .setLastFlush time => client.setLastFlush time

def environment? : ClientCall A → Option Environment
  | .add env _ => some env
  | .flushEvents env => some env
  | .setLastFlush _ => none

/-- The call reaches `sendContent`. -/
def Sends (client : ObservabilityClient A) : ClientCall A → Prop
  | .add env event =>
      (client.push event).FlushDue env.now ∧
        ((client.push event).prepared env).logContextInitialized = true
  | .flushEvents env =>
      client.buffer ≠ [] ∧ (client.prepared env).logContextInitialized = true
  | .setLastFlush _ => False

/-- The call sends, and the send fails with an exception that is not
retryable or that finds no retries left. -/
def GivesUp (client : ObservabilityClient A) (call : ClientCall A) : Prop :=
  call.Sends client ∧
    ∃ env exception,
      call.environment? = some env ∧
        sendContent env.http = .error exception ∧
        (exception.isRetryable = false ∨ client.retries ≤ 0)

end ClientCall

theorem entry_sameSetup
    (client : ObservabilityClient A) (call : ClientCall A) :
    SameSetup (call.entry client) client := by
  cases call <;> exact ⟨rfl, rfl, fun _ => ⟨rfl, rfl, rfl⟩⟩

/-- What one call does.  The constructors of a send share the client `ready`
that sends, whose context is initialized and whose buffer is not empty. -/
inductive ClientStep [Gson A] [EventClass A]
    (client : ObservabilityClient A) (call : ClientCall A) :
    ObservabilityClient A × Answer A → Prop
  | quiet {next : ObservabilityClient A}
      (noSend : ¬ call.Sends client)
      (kept :
        next = call.entry client ∨
          ∃ env, call.environment? = some env ∧
            next = (call.entry client).prepared env) :
      ClientStep client call (next, ⟨[], none⟩)
  | acknowledged {env : Environment} {ready : ObservabilityClient A}
      (sends : call.Sends client)
      (readyShape : ready = (call.entry client).prepared env)
      (initialized : ready.logContextInitialized = true)
      (nonempty : ready.buffer ≠ [])
      (environment : call.environment? = some env)
      (accepted : sendContent env.http = .ok ()) :
      ClientStep client call
        (ready.acknowledge env.acknowledgedAt,
          ⟨[⟨ready.buffer, httpRequest (ready.payload ready.buffer), none⟩],
            none⟩)
  | absorbed {env : Environment} {ready : ObservabilityClient A}
      {exception : ClientException}
      (sends : call.Sends client)
      (readyShape : ready = (call.entry client).prepared env)
      (initialized : ready.logContextInitialized = true)
      (nonempty : ready.buffer ≠ [])
      (environment : call.environment? = some env)
      (failed : sendContent env.http = .error exception)
      (retryable : exception.isRetryable = true)
      (retriesLeft : 0 < ready.retries) :
      ClientStep client call
        (ready.startBackOff,
          ⟨[⟨ready.buffer, httpRequest (ready.payload ready.buffer),
              some exception⟩],
            none⟩)
  | raised {env : Environment} {ready : ObservabilityClient A}
      {exception : ClientException}
      (sends : call.Sends client)
      (readyShape : ready = (call.entry client).prepared env)
      (initialized : ready.logContextInitialized = true)
      (nonempty : ready.buffer ≠ [])
      (environment : call.environment? = some env)
      (failed : sendContent env.http = .error exception)
      (notAbsorbed :
        exception.isRetryable = false ∨ ready.retries ≤ 0) :
      ClientStep client call
        (ready,
          ⟨[⟨ready.buffer, httpRequest (ready.payload ready.buffer),
              some exception⟩],
            some (nonRetryableError exception)⟩)

section Inversion

variable [Gson A] [EventClass A]

private theorem clientStep_of_sendBuffer
    {client : ObservabilityClient A} {call : ClientCall A}
    {env : Environment} {ready : ObservabilityClient A}
    (sends : call.Sends client)
    (readyShape : ready = (call.entry client).prepared env)
    (initialized : ready.logContextInitialized = true)
    (nonempty : ready.buffer ≠ [])
    (environment : call.environment? = some env) :
    ClientStep client call
      (ready.sendBuffer env (ready.payload ready.buffer)) := by
  unfold sendBuffer
  split
  next accepted =>
    exact .acknowledged sends readyShape initialized nonempty environment
      accepted
  next exception failed =>
    split
    next absorbs =>
      simp only [Bool.and_eq_true, decide_eq_true_eq] at absorbs
      exact .absorbed sends readyShape initialized nonempty environment
        failed absorbs.1 absorbs.2
    next notAbsorbs =>
      refine .raised sends readyShape initialized nonempty environment
        failed ?_
      simp only [Bool.and_eq_true, decide_eq_true_eq, not_and_or,
        Bool.not_eq_true, gt_iff_lt, Int.not_lt] at notAbsorbs
      exact notAbsorbs

/-- A flush that a call reaches with a nonempty buffer is one client step. -/
private theorem clientStep_of_flush
    (client : ObservabilityClient A) (call : ClientCall A)
    {env : Environment}
    (nonempty : (call.entry client).buffer ≠ [])
    (environment : call.environment? = some env)
    (sendsIff :
      call.Sends client ↔
        ((call.entry client).prepared env).logContextInitialized = true) :
    ClientStep client call ((call.entry client).flushEvents env) := by
  rw [flushEvents_eq, if_neg nonempty]
  by_cases initialized :
      ((call.entry client).prepared env).logContextInitialized = true
  · rw [if_pos initialized]
    have step :=
      clientStep_of_sendBuffer (sendsIff.2 initialized) rfl initialized
        (by simpa using nonempty) environment
    simpa using step
  · rw [if_neg initialized]
    apply ClientStep.quiet
    · exact mt sendsIff.1 initialized
    · exact Or.inr ⟨env, environment, rfl⟩

/-- Every step of the client machine is one of the client steps. -/
theorem clientStep
    (client : ObservabilityClient A) (call : ClientCall A) :
    ClientStep client call
      ((clientMachine A).next client call,
        (clientMachine A).output client call) := by
  change ClientStep client call ((clientMachine A).step client call)
  cases call with
  | setLastFlush time =>
      exact .quiet (fun sends => sends) (Or.inl rfl)
  | flushEvents env =>
      by_cases empty : client.buffer = []
      · have step :
            (clientMachine A).step client (.flushEvents env) =
              (client, ⟨[], none⟩) :=
          flushEvents_of_empty env empty
        rw [step]
        exact .quiet (fun sends => sends.1 empty) (Or.inl rfl)
      · exact clientStep_of_flush client (.flushEvents env) empty rfl
          (by simp [ClientCall.Sends, ClientCall.entry, empty])
  | add env event =>
      have step :
          (clientMachine A).step client (.add env event) =
            client.add env event := rfl
      rw [step, add_eq]
      by_cases due : (client.push event).FlushDue env.now
      · rw [if_pos due]
        apply clientStep_of_flush client (.add env event)
        · simp [ClientCall.entry]
        · rfl
        · simp [ClientCall.Sends, ClientCall.entry, due]
      · rw [if_neg due]
        apply ClientStep.quiet
        · exact fun sends => due sends.1
        · exact Or.inl rfl

/-- A call that sends nothing leaves the client that it was ready to send
from, prepared or not. -/
theorem kept_of_not_sends
    {client : ObservabilityClient A} {call : ClientCall A}
    (noSend : ¬ call.Sends client) :
    (clientMachine A).next client call = call.entry client ∨
      ∃ env,
        (clientMachine A).next client call =
          (call.entry client).prepared env := by
  have step := clientStep client call
  generalize (clientMachine A).next client call = next,
    (clientMachine A).output client call = answer
    at step ⊢
  cases step with
  | quiet _ kept =>
      rcases kept with same | ⟨env, _, same⟩
      · exact Or.inl same
      · exact Or.inr ⟨env, same⟩
  | acknowledged sends => exact absurd sends noSend
  | absorbed sends => exact absurd sends noSend
  | raised sends => exact absurd sends noSend

theorem attempts_ne_nil_iff_sends
    (client : ObservabilityClient A) (call : ClientCall A) :
    ((clientMachine A).output client call).attempts ≠ [] ↔
      call.Sends client := by
  have step := clientStep client call
  generalize (clientMachine A).next client call = next,
    (clientMachine A).output client call = answer
    at step ⊢
  cases step with
  | quiet noSend _ => simp [noSend]
  | acknowledged sends => simp [sends]
  | absorbed sends => simp [sends]
  | raised sends => simp [sends]

theorem raised_ne_none_iff_givesUp
    (client : ObservabilityClient A) (call : ClientCall A) :
    ((clientMachine A).output client call).raised ≠ none ↔
      call.GivesUp client := by
  have retriesOf (env : Environment) :
      ((call.entry client).prepared env).retries = client.retries := by
    rw [((call.entry client).prepared_sameDelivery env).retries]
    cases call <;> rfl
  have step := clientStep client call
  generalize (clientMachine A).next client call = next,
    (clientMachine A).output client call = answer
    at step ⊢
  cases step with
  | quiet noSend _ =>
      refine iff_of_false (by simp) ?_
      intro givesUp
      exact noSend givesUp.1
  | acknowledged _ _ _ _ environment accepted =>
      refine iff_of_false (by simp) ?_
      intro givesUp
      rcases givesUp with
        ⟨_, other, exception, otherEnvironment, failed, _⟩
      rw [environment] at otherEnvironment
      cases otherEnvironment
      rw [accepted] at failed
      cases failed
  | absorbed _ readyShape _ _ environment failed retryable retriesLeft =>
      refine iff_of_false (by simp) ?_
      intro givesUp
      rcases givesUp with
        ⟨_, other, exception, otherEnvironment, otherFailed, forGood⟩
      rw [environment] at otherEnvironment
      cases otherEnvironment
      rw [failed] at otherFailed
      cases otherFailed
      rw [readyShape, retriesOf] at retriesLeft
      rcases forGood with notRetryable | noRetries
      · rw [retryable] at notRetryable
        cases notRetryable
      · omega
  | @raised env _ exception sends readyShape _ _ environment failed
      notAbsorbed =>
      rw [readyShape, retriesOf] at notAbsorbed
      exact iff_of_true (by simp)
        ⟨sends, env, exception, environment, failed, notAbsorbed⟩

theorem next_sameSetup
    (client : ObservabilityClient A) (call : ClientCall A) :
    SameSetup ((clientMachine A).next client call) client := by
  have fromEntry := entry_sameSetup client call
  have fromReady (env : Environment) :=
    (prepared_sameSetup env (call.entry client)).trans fromEntry
  have step := clientStep client call
  generalize (clientMachine A).next client call = next,
    (clientMachine A).output client call = answer
    at step ⊢
  cases step with
  | quiet _ kept =>
      rcases kept with rfl | ⟨env, _, rfl⟩
      · exact fromEntry
      · exact fromReady env
  | acknowledged _ readyShape =>
      subst readyShape
      exact (acknowledge_sameSetup _ _).trans (fromReady _)
  | absorbed _ readyShape =>
      subst readyShape
      exact (startBackOff_sameSetup _).trans (fromReady _)
  | raised _ readyShape =>
      subst readyShape
      exact fromReady _

/-- What a run of calls keeps of the client it started from. -/
theorem after_sameSetup
    (client : ObservabilityClient A) (calls : List (ClientCall A)) :
    SameSetup ((clientMachine A).after client calls) client :=
  (clientMachine A).after_invariant
    (motive := fun reached => SameSetup reached client)
    (fun reached call same => (next_sameSetup reached call).trans same)
    ⟨rfl, rfl, fun _ => ⟨rfl, rfl, rfl⟩⟩ calls

end Inversion

end SparkObservability
