import SparkObservability.Bootstrap.Operations

/-!
# The requests of the bootstrap

When the helpers of the handlers return, and what they have changed then.
-/

namespace SparkObservability

structure Account where
  username : String
  password : String

/-- The secret is one as the stack generates them: it has a username and a
password that is its own JSON string. -/
structure Credentials [PythonLibrary]
    (secrets : SecretsManager) (arn : String) (account : Account) : Prop where
  stored :
    ∃ value members,
      secrets.getSecretValue arn none none = .ok value ∧
        Services.parseSecret value = .ok (.object members) ∧
        members.lookup "username" = some (.string account.username) ∧
        members.lookup "password" = some (.string account.password)
  plain : IsPlainText account.password

namespace Bootstrap

open Effect Domain

/-! ## The helpers -/

def HasSecrets (secrets : SecretsManager) (session : Session) : Prop :=
  session.secrets = secrets

section Helpers

variable (services : Services) (secrets : SecretsManager)

theorem returnsWhen_send (request : Request) :
    ReturnsWhen (HasSecrets secrets) (services.send request)
      (fun _ => True) (fun session => services.reply session request)
      (fun session => services.exchange session request) where
  returns_iff session _ result final := by
    rw [services.perform_send, Prod.mk.injEq, Except.ok.injEq, true_and]
  invariant_next _ fit := fit

theorem returnsWhen_requireOk (response : Response) (what : String) :
    ReturnsWhen (HasSecrets secrets) (requireOk response what)
      (fun _ => response.Ok) (fun _ => ()) (fun session => session) where
  returns_iff session _ result final := by
    rw [requireOk]
    split
    · next ok => simp [ok]
    · next notOk => simp [notOk]
  invariant_next _ fit := fit

/-- A request whose answer is checked. -/
theorem returnsWhen_checked (request : Request) (what : String) :
    ReturnsWhen (HasSecrets secrets)
      (services.send request >>= fun response => requireOk response what)
      (fun session => (services.reply session request).Ok) (fun _ => ())
      (fun session => services.exchange session request) :=
  ((returnsWhen_send services secrets request).bind
      (fun response _ => response.Ok) (fun _ _ => ())
      (fun _ session => session)
      fun _ _ => returnsWhen_requireOk secrets _ what).congr
    fun _ _ => iff_of_eq (true_and _)

theorem sendToOs_put (path : String) (document : JsonValue) :
    sendToOs services .put path (.json document) [] =
      services.send (putRequest path document) :=
  rfl

theorem sendToOs_delete (path : String) (headers : List (String × String)) :
    sendToOs services .delete path .none headers =
      services.send (deleteRequest headers path) :=
  rfl

theorem osResource_put_file (path : String) (file : JsonFile) :
    osResource services .put path (some file.content) [] =
      services.send (putRequest path file.document) := by
  simp [osResource, loadContent, file.loads, orRaise, sendToOs_put]

def importRequest (resources : Resources) : Request :=
  ⟨.postFile, importPath, .file resources.dataSkew, dashboardHeaders⟩

theorem osResource_import (resources : Resources) :
    osResource services .postFile importPath (some resources.dataSkew)
        dashboardHeaders =
      services.send (importRequest resources) := by
  simp [osResource, loadContent, sendToOs, importRequest]

theorem returnsWhen_indexTemplate (name : String) (file : JsonFile) :
    ReturnsWhen (HasSecrets secrets)
      (indexTemplate services name (some file.content) .create)
      (fun session =>
        (services.reply session
          (putRequest (indexTemplatePath name) file.document)).Ok)
      (fun _ => ())
      (fun session =>
        services.exchange session
          (putRequest (indexTemplatePath name) file.document)) := by
  rw [indexTemplate, osResource_put_file]
  exact returnsWhen_checked services secrets _ _

theorem returnsWhen_updateDomainConfig :
    ReturnsWhen (HasSecrets secrets) (updateDomainConfig services)
      (fun _ => ∃ text, services.updateDomainConfig = .ok ⟨200, text⟩)
      (fun _ => ()) (fun session => session) where
  returns_iff session _ result final := by
    rw [updateDomainConfig]
    rcases services.updateDomainConfig with error | ⟨statusCode, text⟩
    · simp [orRaise]
    · by_cases success : statusCode = 200
      · simp [orRaise, success]
      · simp [orRaise, success]
  invariant_next _ fit := fit

variable [PythonLibrary] {secrets}

theorem returnsWhen_getSecret
    {arn : String} {value : SecretValue} {object : JsonValue}
    (stored : secrets.getSecretValue arn none none = .ok value)
    (parsed : Services.parseSecret value = .ok object) :
    ReturnsWhen (HasSecrets secrets) (services.getSecret arn)
      (fun session => services.fault session.secretCalls = none)
      (fun _ => object) Session.counted where
  returns_iff session fit result final := by
    have storedHere :
        session.secrets.getSecretValue arn none none = .ok value := by
      rw [fit]
      exact stored
    rw [Services.getSecret]
    cases refused : services.fault session.secretCalls with
    | some fault =>
        rw [perform_bind_of_error
          (services.perform_query_of_fault _ refused)]
        simp
    | none =>
        have answer :=
          services.perform_query_of_none
            (fun secrets => secrets.getSecretValue arn none none) refused
        rw [storedHere] at answer
        rw [perform_bind_of_ok answer, perform_orRaise, parsed]
        simp
  invariant_next _ fit := fit

/-- A checked request that a secret is read for. -/
theorem returnsWhen_secret_then
    {arn : String} {value : SecretValue} {object : JsonValue}
    (stored : secrets.getSecretValue arn none none = .ok value)
    (parsed : Services.parseSecret value = .ok object)
    {rest : JsonValue → Lambda Unit} {request : Request} (what : String)
    (restShape :
      rest object =
        services.send request >>= fun response => requireOk response what) :
    ReturnsWhen (HasSecrets secrets) (services.getSecret arn >>= rest)
      (fun session =>
        services.fault session.secretCalls = none ∧
          (services.reply session.counted request).Ok)
      (fun _ => ())
      (fun session => services.exchange session.counted request) := by
  refine
    (returnsWhen_getSecret services stored parsed).bind
      (fun _ session => (services.reply session request).Ok) (fun _ _ => ())
      (fun _ session => services.exchange session request) ?_
  intro session _
  rw [restShape]
  exact returnsWhen_checked services secrets request what

theorem returnsWhen_user [Jinja]
    {arn : String} {account : Account} {template : Template}
    {document : JsonValue}
    (credentials : Credentials secrets arn account)
    (rendered :
      Python.loads
          (Jinja.render template.content "secret_password"
            account.password) =
        .ok document) :
    ReturnsWhen (HasSecrets secrets) (user services arn template .create)
      (fun session =>
        services.fault session.secretCalls = none ∧
          (services.reply session.counted
            (putRequest (internalUserPath (.string account.username))
              document)).Ok)
      (fun _ => ())
      (fun session =>
        services.exchange session.counted
          (putRequest (internalUserPath (.string account.username))
            document)) := by
  obtain ⟨value, members, stored, parsed, name, word⟩ := credentials.stored
  apply returnsWhen_secret_then services stored parsed (arn ++ " creation")
  simp only [Python.subscript, name, word, Python.formatted, rendered, orRaise,
    pure_bind, sendToOs_put]

theorem returnsWhen_user_delete [Jinja]
    {arn : String} {account : Account}
    (credentials : Credentials secrets arn account) (template : Template) :
    ReturnsWhen (HasSecrets secrets) (user services arn template .delete)
      (fun session =>
        services.fault session.secretCalls = none ∧
          (services.reply session.counted
            (deleteRequest []
              (internalUserPath (.string account.username)))).Ok)
      (fun _ => ())
      (fun session =>
        services.exchange session.counted
          (deleteRequest []
            (internalUserPath (.string account.username)))) := by
  obtain ⟨value, members, stored, parsed, name, _⟩ := credentials.stored
  apply returnsWhen_secret_then services stored parsed ("deleting " ++ arn)
  simp only [Python.subscript, name, orRaise, pure_bind, sendToOs_delete]

end Helpers

/-! ## Sequences of requests -/

section Sequences

variable (services : Services) {secrets : SecretsManager}

/-- The rest of the handler follows a checked request. -/
theorem returnsWhen_checked_then
    {α : Type} (request : Request) (what : String) {rest : Lambda α}
    {restCondition : Session → Prop} {restValue : Session → α}
    {restNext : Session → Session}
    (restReturns :
      ReturnsWhen (HasSecrets secrets) rest restCondition restValue
        restNext) :
    ReturnsWhen (HasSecrets secrets)
      (services.send request >>= fun response =>
        requireOk response what >>= fun _ => rest)
      (fun session =>
        (services.reply session request).Ok ∧
          restCondition (services.exchange session request))
      (fun session => restValue (services.exchange session request))
      (fun session => restNext (services.exchange session request)) := by
  rw [← bind_assoc]
  exact (returnsWhen_checked services secrets request what).seq restReturns

theorem returnsWhen_unchecked_then
    {α : Type} (request : Request) {rest : Lambda α}
    {restCondition : Session → Prop} {restValue : Session → α}
    {restNext : Session → Session}
    (restReturns :
      ReturnsWhen (HasSecrets secrets) rest restCondition restValue
        restNext) :
    ReturnsWhen (HasSecrets secrets)
      (services.send request >>= fun _ => rest)
      (fun session => restCondition (services.exchange session request))
      (fun session => restValue (services.exchange session request))
      (fun session => restNext (services.exchange session request)) :=
  ((returnsWhen_send services secrets request).bind
      (fun _ => restCondition) (fun _ => restValue) (fun _ => restNext)
      fun _ _ => restReturns).congr
    fun _ _ => iff_of_eq (true_and _)

end Sequences

end Bootstrap

end SparkObservability
