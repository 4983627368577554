import SparkObservability.Effects
import SparkObservability.Services.OpenSearch
import SparkObservability.Services.SecretsManager

/-!
# Invocations of Lambda functions

An invocation works on the secrets and on the domain.  Secrets Manager may
refuse any of its calls for reasons of its own, and OpenSearch may give any
answer to any request; a request that is not answered with success has no
effect.
-/

namespace SparkObservability

/-- A refusal that does not depend on the secrets. -/
structure ServiceFault where
  code : String
  notMissing : PyException.clientError code ≠ SecretsManager.resourceNotFound

/-- How the services behave during an invocation. -/
structure Services where
  /-- The answer to the request with the given number, which arrives at the
  given domain. -/
  respond : Nat → Domain → Request → Response
  /-- The refusal, if any, of the call of Secrets Manager with the given
  number. -/
  fault : Nat → Option ServiceFault
  randomPassword : String → String
  /-- The status of an update of the domain's configuration, and the text of
  the metadata it comes with. -/
  updateDomainConfig : Except PyException Response

/-- What outlives an invocation. -/
structure World where
  secrets : SecretsManager
  domain : Domain

structure Session where
  secrets : SecretsManager
  domain : Domain
  exchanges : List (Request × Response)
  secretCalls : Nat

/-- The start of an invocation. -/
def World.session (world : World) : Session :=
  ⟨world.secrets, world.domain, [], 0⟩

def Session.world (session : Session) : World :=
  ⟨session.secrets, session.domain⟩

/-- One more call of Secrets Manager has been made. -/
def Session.counted (session : Session) : Session :=
  { session with secretCalls := session.secretCalls + 1 }

theorem Session.exchanges_counted (session : Session) :
    session.counted.exchanges = session.exchanges :=
  (rfl)

theorem Session.secretCalls_counted (session : Session) :
    session.counted.secretCalls = session.secretCalls + 1 :=
  (rfl)

abbrev Lambda (α : Type) := Effect PyException Session α

/-- Go on with a value, or raise. -/
def orRaise {α : Type} : Except PyException α → Lambda α
  | .ok value => pure value
  | .error error => throw error

open Effect

@[simp]
theorem orRaise_ok {α : Type} (value : α) :
    orRaise (.ok value) = (pure value : Lambda α) :=
  rfl

@[simp]
theorem perform_orRaise
    {α : Type} (result : Except PyException α) (session : Session) :
    (orRaise result).perform session = (result, session) := by
  cases result <;> rfl

theorem keeps_orRaise
    {related : Session → Session → Prop}
    (reflexive : ∀ session, related session session) {α : Type}
    (result : Except PyException α) :
    Keeps related (orRaise result) := by
  intro session
  rw [perform_orRaise]
  exact reflexive session

namespace Services

variable (services : Services)

/-- A call of Secrets Manager: its value and the secrets after it. -/
def callSecrets {α : Type}
    (operation : SecretsManager → Except PyException (α × SecretsManager)) :
    Lambda α := do
  let session ← get
  set session.counted
  match services.fault session.secretCalls with
  | some fault => throw (.clientError fault.code)
  | none =>
      let (value, secrets) ← orRaise (operation session.secrets)
      modify fun session => { session with secrets := secrets }
      return value

/-- A call that only reads. -/
def query {α : Type} (operation : SecretsManager → Except PyException α) :
    Lambda α :=
  services.callSecrets fun secrets =>
    (operation secrets).map fun value => (value, secrets)

/-- A call that only writes. -/
def command
    (operation : SecretsManager → Except PyException SecretsManager) :
    Lambda Unit :=
  services.callSecrets fun secrets =>
    (operation secrets).map fun changed => ((), changed)

/-- A request to OpenSearch. -/
def send (request : Request) : Lambda Response := do
  let session ← get
  let response :=
    services.respond session.exchanges.length session.domain request
  set
    { session with
      domain :=
        if response.Ok then session.domain.serve request else session.domain
      exchanges := session.exchanges ++ [(request, response)] }
  return response

/-! ## How the calls end -/

theorem perform_callSecrets_of_fault
    {α : Type}
    (operation : SecretsManager → Except PyException (α × SecretsManager))
    {session : Session} {fault : ServiceFault}
    (refused : services.fault session.secretCalls = some fault) :
    (services.callSecrets operation).perform session =
      (.error (.clientError fault.code), session.counted) := by
  simp only [callSecrets, perform_bind, perform_get, perform_set, refused]
  rfl

theorem perform_query_of_fault
    {α : Type} (operation : SecretsManager → Except PyException α)
    {session : Session} {fault : ServiceFault}
    (refused : services.fault session.secretCalls = some fault) :
    (services.query operation).perform session =
      (.error (.clientError fault.code), session.counted) :=
  services.perform_callSecrets_of_fault _ refused

theorem perform_query_of_none
    {α : Type} (operation : SecretsManager → Except PyException α)
    {session : Session}
    (accepted : services.fault session.secretCalls = none) :
    (services.query operation).perform session =
      (operation session.secrets, session.counted) := by
  simp only [query, callSecrets, perform_bind, perform_get, perform_set,
    accepted, perform_orRaise]
  cases operation session.secrets <;> rfl

theorem perform_command_of_fault
    (operation : SecretsManager → Except PyException SecretsManager)
    {session : Session} {fault : ServiceFault}
    (refused : services.fault session.secretCalls = some fault) :
    (services.command operation).perform session =
      (.error (.clientError fault.code), session.counted) :=
  services.perform_callSecrets_of_fault _ refused

theorem perform_command_of_none
    (operation : SecretsManager → Except PyException SecretsManager)
    {session : Session}
    (accepted : services.fault session.secretCalls = none) :
    (services.command operation).perform session =
      match operation session.secrets with
      | .ok secrets => (.ok (), { session.counted with secrets := secrets })
      | .error error => (.error error, session.counted) := by
  simp only [command, callSecrets, perform_bind, perform_get, perform_set,
    accepted, perform_orRaise]
  cases operation session.secrets <;> rfl

/-- The session after a request that got the given answer. -/
def answered
    (session : Session) (request : Request) (response : Response) : Session :=
  { session with
    domain :=
      if response.Ok then session.domain.serve request else session.domain
    exchanges := session.exchanges ++ [(request, response)] }

def reply (session : Session) (request : Request) : Response :=
  services.respond session.exchanges.length session.domain request

def exchange (session : Session) (request : Request) : Session :=
  answered session request (services.reply session request)

@[simp]
theorem perform_send (request : Request) (session : Session) :
    (services.send request).perform session =
      (.ok (services.reply session request),
        services.exchange session request) :=
  rfl

/-! ## Sequences of requests -/

/-- The answer to a request depends on its number only. -/
def Scripted (responses : Nat → Response) : Prop :=
  ∀ number domain request,
    services.respond number domain request = responses number

theorem reply_of_scripted
    {responses : Nat → Response} (scripted : services.Scripted responses)
    (session : Session) (request : Request) :
    services.reply session request = responses session.exchanges.length :=
  scripted _ _ _

theorem exchanges_exchange (session : Session) (request : Request) :
    (services.exchange session request).exchanges =
      session.exchanges ++ [(request, services.reply session request)] :=
  rfl

theorem length_exchanges_exchange (session : Session) (request : Request) :
    (services.exchange session request).exchanges.length =
      session.exchanges.length + 1 := by
  rw [exchanges_exchange, List.length_append, List.length_singleton]

theorem secretCalls_exchange (session : Session) (request : Request) :
    (services.exchange session request).secretCalls = session.secretCalls :=
  (rfl)

/-- It does not matter when the calls of Secrets Manager are counted. -/
theorem exchange_counted (session : Session) (request : Request) :
    services.exchange session.counted request =
      (services.exchange session request).counted :=
  (rfl)

theorem reply_counted (session : Session) (request : Request) :
    services.reply session.counted request = services.reply session request :=
  (rfl)

theorem domain_exchange_of_ok
    {session : Session} {request : Request}
    (ok : (services.reply session request).Ok) :
    (services.exchange session request).domain =
      session.domain.serve request :=
  if_pos ok

theorem domain_exchange_of_not_ok
    {session : Session} {request : Request}
    (notOk : ¬ (services.reply session request).Ok) :
    (services.exchange session request).domain = session.domain :=
  if_neg notOk

/-- One request after the other. -/
def exchangeAll : Session → List Request → Session
  | session, [] => session
  | session, request :: rest =>
      exchangeAll (services.exchange session request) rest

theorem secrets_exchangeAll
    (session : Session) (requests : List Request) :
    (services.exchangeAll session requests).secrets = session.secrets := by
  induction requests generalizing session with
  | nil => rfl
  | cons request rest inductionHypothesis =>
      exact inductionHypothesis (services.exchange session request)

section Scripts

variable {services} {responses : Nat → Response}

theorem domain_exchangeAll
    (scripted : services.Scripted responses) {session : Session}
    {requests : List Request}
    (ok :
      ∀ index < requests.length,
        (responses (session.exchanges.length + index)).Ok) :
    (services.exchangeAll session requests).domain =
      requests.foldl Domain.serve session.domain := by
  induction requests generalizing session with
  | nil => rfl
  | cons request rest inductionHypothesis =>
      have firstOk : (services.reply session request).Ok := by
        rw [services.reply_of_scripted scripted]
        exact ok 0 (Nat.zero_lt_succ _)
      rw [exchangeAll, List.foldl_cons, inductionHypothesis,
        services.domain_exchange_of_ok firstOk]
      intro index inRest
      rw [services.length_exchanges_exchange, Nat.add_assoc, Nat.add_comm 1]
      exact ok (index + 1) (Nat.succ_lt_succ inRest)

theorem mem_exchangeAll_of_mem
    {session : Session} {exchanged : Request × Response}
    (member : exchanged ∈ session.exchanges) (requests : List Request) :
    exchanged ∈ (services.exchangeAll session requests).exchanges := by
  induction requests generalizing session with
  | nil => exact member
  | cons request rest inductionHypothesis =>
      exact inductionHypothesis (List.mem_append_left _ member)

theorem first_mem_exchangeAll
    (scripted : services.Scripted responses) (session : Session)
    (request : Request) (rest : List Request) :
    (request, responses session.exchanges.length) ∈
      (services.exchangeAll session (request :: rest)).exchanges := by
  have exchanged :
      (request, responses session.exchanges.length) ∈
        (services.exchange session request).exchanges := by
    rw [services.exchanges_exchange, services.reply_of_scripted scripted]
    exact List.mem_append_right _ (List.mem_singleton_self _)
  exact mem_exchangeAll_of_mem exchanged rest

theorem ok_of_mem_exchangeAll
    (scripted : services.Scripted responses) {session : Session}
    {requests : List Request}
    (ok :
      ∀ index < requests.length,
        (responses (session.exchanges.length + index)).Ok)
    {exchanged : Request × Response}
    (member :
      exchanged ∈ (services.exchangeAll session requests).exchanges) :
    exchanged ∈ session.exchanges ∨ exchanged.2.Ok := by
  induction requests generalizing session with
  | nil => exact Or.inl member
  | cons request rest inductionHypothesis =>
      have restOk :
          ∀ index < rest.length,
            (responses
              ((services.exchange session request).exchanges.length +
                index)).Ok := by
        intro index inRest
        rw [services.length_exchanges_exchange, Nat.add_assoc, Nat.add_comm 1]
        exact ok (index + 1) (Nat.succ_lt_succ inRest)
      rcases inductionHypothesis restOk member with earlier | answered
      · rcases List.mem_append.1 earlier with before | first
        · exact Or.inl before
        · rw [List.mem_singleton] at first
          rw [first, services.reply_of_scripted scripted]
          exact Or.inr (ok 0 (Nat.zero_lt_succ _))
      · exact Or.inr answered

end Scripts

/-! ## Reading secrets -/

/-- What a secret value says as a JSON text; a binary one is taken for
Base64. -/
def parseSecret [PythonLibrary] :
    SecretValue → Except PyException JsonValue
  | .string text => Python.loads text
  | .binary bytes => do
      let secret ← Python.b64decode bytes
      let text ← PythonLibrary.decode secret
      Python.loads text

/-- `get_secret`, which both functions have. -/
def getSecret [PythonLibrary] (secretArn : String) : Lambda JsonValue := do
  let value ←
    services.query fun secrets => secrets.getSecretValue secretArn none none
  orRaise (parseSecret value)

/-! ## What the calls leave alone -/

theorem query_ends
    {α : Type} (operation : SecretsManager → Except PyException α)
    (session : Session) :
    (∃ fault : ServiceFault,
        (services.query operation).perform session =
          (.error (.clientError fault.code), session.counted)) ∨
      (services.query operation).perform session =
        (operation session.secrets, session.counted) := by
  cases refused : services.fault session.secretCalls with
  | none => exact Or.inr (services.perform_query_of_none operation refused)
  | some fault =>
      exact Or.inl ⟨fault, services.perform_query_of_fault operation refused⟩

section Keeps

variable {related : Session → Session → Prop}

theorem keeps_query
    (countKept : ∀ session, related session session.counted) {α : Type}
    (operation : SecretsManager → Except PyException α) :
    Keeps related (services.query operation) := by
  intro session
  rcases services.query_ends operation session with ⟨fault, ends⟩ | ends
  · rw [ends]
    exact countKept session
  · rw [ends]
    exact countKept session

theorem keeps_getSecret [PythonLibrary]
    (reflexive : ∀ session, related session session)
    (countKept : ∀ session, related session session.counted)
    (transitive :
      ∀ session middle final,
        related session middle → related middle final → related session final)
    (arn : String) :
    Keeps related (services.getSecret arn) :=
  (services.keeps_query countKept _).bind transitive fun value =>
    keeps_orRaise reflexive (parseSecret value)

end Keeps

end Services

end SparkObservability
