import SparkObservability.Services.Session

/-!
# What a function can touch

A function that only reads current secrets and sends requests of an allowed
kind is a tree of such calls.  Whatever the services answer, it leaves the
secrets alone, it changes the domain by allowed requests only, and it cannot
tell two worlds apart in which the current secrets and the domain are the
same.
-/

namespace SparkObservability

/-- What the secrets give to a function that reads them. -/
def SecretsManager.reading [PythonLibrary] (secrets : SecretsManager)
    (arn : String) : Except PyException JsonValue :=
  match secrets.getSecretValue arn none none with
  | .ok value => Services.parseSecret value
  | .error error => .error error

namespace Services

open Effect

variable [PythonLibrary] (services : Services)

/-- The answer to the next reading of a secret. -/
def secretAnswer (arn : String) (session : Session) :
    Except PyException JsonValue :=
  match services.fault session.secretCalls with
  | some fault => .error (.clientError fault.code)
  | none => session.secrets.reading arn

theorem perform_getSecret (arn : String) (session : Session) :
    (services.getSecret arn).perform session =
      (services.secretAnswer arn session, session.counted) := by
  rw [getSecret, secretAnswer]
  cases refused : services.fault session.secretCalls with
  | some fault =>
      rw [perform_bind_of_error (services.perform_query_of_fault _ refused)]
  | none =>
      have ends :=
        services.perform_query_of_none
          (fun secrets => secrets.getSecretValue arn none none) refused
      rw [SecretsManager.reading]
      cases stored : session.secrets.getSecretValue arn none none with
      | error error =>
          rw [stored] at ends
          rw [perform_bind_of_error ends]
      | ok value =>
          rw [stored] at ends
          rw [perform_bind_of_ok ends, perform_orRaise]

/-- Only what is stored is read. -/
theorem reading_of_secretAnswer {arn : String} {session : Session}
    {object : JsonValue}
    (answer : services.secretAnswer arn session = .ok object) :
    session.secrets.reading arn = .ok object := by
  rw [secretAnswer] at answer
  split at answer
  · cases answer
  · exact answer

/-- The function reads secrets, which give it what `reading` says, and sends
allowed requests. -/
inductive Asks (reading : String → Except PyException JsonValue)
    (allowed : Request → Prop) {α : Type} : Lambda α → Prop
  | returns (value : α) : Asks reading allowed (pure value)
  | raises (error : PyException) : Asks reading allowed (throw error)
  | sends {request : Request} {next : Response → Lambda α}
      (isAllowed : allowed request)
      (rest : ∀ response, Asks reading allowed (next response)) :
      Asks reading allowed (services.send request >>= next)
  | reads {arn : String} {next : JsonValue → Lambda α}
      (rest :
        ∀ object, reading arn = .ok object →
          Asks reading allowed (next object)) :
      Asks reading allowed (services.getSecret arn >>= next)

namespace Asks

variable {services} {reading : String → Except PyException JsonValue}
  {allowed : Request → Prop} {α β : Type}

theorem bind {program : Lambda α} {next : α → Lambda β}
    (first : Asks services reading allowed program)
    (rest : ∀ value, Asks services reading allowed (next value)) :
    Asks services reading allowed (program >>= next) := by
  induction first with
  | returns value =>
      rw [pure_bind]
      exact rest value
  | raises error => exact .raises error
  | sends isAllowed _ inductionHypothesis =>
      rw [bind_assoc]
      exact .sends isAllowed inductionHypothesis
  | reads _ inductionHypothesis =>
      rw [bind_assoc]
      exact .reads inductionHypothesis

theorem orRaise {result : Except PyException α} {next : α → Lambda β}
    (rest :
      ∀ value, result = .ok value →
        Asks services reading allowed (next value)) :
    Asks services reading allowed (orRaise result >>= next) := by
  cases result with
  | ok value =>
      rw [orRaise_ok, pure_bind]
      exact rest value rfl
  | error error => exact .raises error

/-- The function leaves the secrets alone and changes the domain by allowed
requests. -/
theorem serves {program : Lambda α}
    (asks : Asks services reading allowed program) (session : Session)
    (agrees : session.secrets.reading = reading) :
    (program.perform session).2.secrets = session.secrets ∧
      ∃ served : List Request,
        (∀ request ∈ served, allowed request) ∧
          (program.perform session).2.domain =
            served.foldl Domain.serve session.domain := by
  induction asks generalizing session with
  | returns value => exact ⟨rfl, [], by simp, rfl⟩
  | raises error => exact ⟨rfl, [], by simp, rfl⟩
  | @sends request next isAllowed rest inductionHypothesis =>
      rw [perform_bind_of_ok (services.perform_send request session)]
      obtain ⟨sameSecrets, served, allAllowed, domainAfter⟩ :=
        inductionHypothesis (services.reply session request)
          (services.exchange session request) agrees
      refine ⟨sameSecrets, ?_⟩
      rw [domainAfter]
      by_cases ok : (services.reply session request).Ok
      · rw [services.domain_exchange_of_ok ok]
        exact ⟨request :: served,
          List.forall_mem_cons.2 ⟨isAllowed, allAllowed⟩, rfl⟩
      · rw [services.domain_exchange_of_not_ok ok]
        exact ⟨served, allAllowed, rfl⟩
  | @reads arn next rest inductionHypothesis =>
      have ends := services.perform_getSecret arn session
      cases answer : services.secretAnswer arn session with
      | error error =>
          rw [answer] at ends
          rw [perform_bind_of_error ends]
          exact ⟨rfl, [], by simp, rfl⟩
      | ok object =>
          rw [answer] at ends
          rw [perform_bind_of_ok ends]
          have isRead : reading arn = .ok object := by
            rw [← agrees]
            exact services.reading_of_secretAnswer answer
          exact inductionHypothesis object isRead session.counted agrees

end Asks

/-- The two sessions look the same to a function that reads current
secrets. -/
structure LooksLike (session other : Session) : Prop where
  reading : session.secrets.reading = other.secrets.reading
  domain : session.domain = other.domain
  exchanges : session.exchanges = other.exchanges
  secretCalls : session.secretCalls = other.secretCalls

variable {services} in
/-- The function does the same in sessions that look the same to it. -/
theorem Asks.indistinct {reading : String → Except PyException JsonValue}
    {allowed : Request → Prop} {α : Type} {program : Lambda α}
    (asks : Asks services reading allowed program) (session other : Session)
    (agrees : session.secrets.reading = reading)
    (alike : LooksLike session other) :
    (program.perform session).1 = (program.perform other).1 ∧
      LooksLike (program.perform session).2 (program.perform other).2 := by
  induction asks generalizing session other with
  | returns value => exact ⟨rfl, alike⟩
  | raises error => exact ⟨rfl, alike⟩
  | @sends request next _ _ inductionHypothesis =>
      have sameReply :
          services.reply session request = services.reply other request := by
        rw [reply, reply, alike.exchanges, alike.domain]
      rw [perform_bind_of_ok (services.perform_send request session),
        perform_bind_of_ok (services.perform_send request other), sameReply]
      refine
        inductionHypothesis (services.reply other request)
          (services.exchange session request)
          (services.exchange other request) agrees
          ⟨alike.reading, ?_, ?_, alike.secretCalls⟩
      · simp only [exchange, answered, sameReply, alike.domain]
      · simp only [exchange, answered, sameReply, alike.exchanges]
  | @reads arn next rest inductionHypothesis =>
      have sameAnswer :
          services.secretAnswer arn session =
            services.secretAnswer arn other := by
        rw [secretAnswer, secretAnswer, alike.secretCalls, alike.reading]
      have counted : LooksLike session.counted other.counted :=
        ⟨alike.reading, alike.domain, alike.exchanges,
          congrArg (· + 1) alike.secretCalls⟩
      have ends := services.perform_getSecret arn session
      have otherEnds := services.perform_getSecret arn other
      rw [sameAnswer] at ends
      cases answer : services.secretAnswer arn other with
      | error error =>
          rw [answer] at ends otherEnds
          rw [perform_bind_of_error ends, perform_bind_of_error otherEnds]
          exact ⟨rfl, counted⟩
      | ok object =>
          rw [answer] at ends otherEnds
          rw [perform_bind_of_ok ends, perform_bind_of_ok otherEnds]
          have isRead : reading arn = .ok object := by
            rw [← agrees, alike.reading]
            exact services.reading_of_secretAnswer answer
          exact
            inductionHypothesis object isRead session.counted other.counted
              agrees counted

end Services

end SparkObservability
