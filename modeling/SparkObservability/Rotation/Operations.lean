import SparkObservability.Machine
import SparkObservability.Services.Session

/-!
# The rotation of a secret

`lambda_handler` of the rotation function and the functions of its four
steps.
-/

namespace SparkObservability

/-- The members of the event that the handler reads. -/
structure RotationEvent where
  secretId : Option String
  clientRequestToken : Option String
  step : Option String
  deriving DecidableEq, Repr

namespace Rotation

variable [PythonLibrary] (services : Services)

/-- `event[key]` -/
def eventMember (key : String) : Option String → Lambda String
  | some value => pure value
  | none => throw (.keyError key)

/-- `send_to_os` -/
def sendToOs
    (action : Action) (path : String) (payload : Payload)
    (headers : List (String × String)) : Lambda Response :=
  services.send ⟨action, path, payload, headers⟩

/-! ## The four steps -/

def createSecret
    (excludeCharacters : Option String) (arn token : String) :
    Lambda Unit := do
  let _ ←
    services.query fun secrets =>
      secrets.getSecretValue arn none (some "AWSCURRENT")
  tryCatch
    (do
      let _ ←
        services.query fun secrets =>
          secrets.getSecretValue arn (some token) (some "AWSPENDING")
      return ())
    fun error =>
      if error = SecretsManager.resourceNotFound then do
        let excluded := excludeCharacters.getD "/@\"'\\"
        let password ←
          services.query fun _ => .ok (services.randomPassword excluded)
        services.command fun secrets =>
          secrets.putSecretValue arn token (.string password) "AWSPENDING"
      else
        throw error

/-- In the f-string of the payload the colon after `"op"` starts a format
specification. -/
def payloadSpec (password : JsonValue) : String :=
  " \"replace\", \"path\": \"/password\", \"value\": " ++
    Python.formatted password

/-- The request is sent before the payload is built, and without it. -/
def setSecret (arn _token : String) : Lambda Unit := do
  let secret ← services.getSecret arn
  let username ← orRaise (Python.subscript secret "username")
  let response ←
    sendToOs services .patch (Domain.internalUserPath username) .none []
  let password ← orRaise (Python.subscript secret "password")
  let _payload ← orRaise (Python.format "op" (payloadSpec password))
  if response.Ok then
    return ()
  else
    throw
      (.exception
        ("Error " ++ toString response.statusCode ++ " in rotation " ++
          Python.formatted username ++ " password: " ++ response.text))

def testSecret (arn _token : String) : Lambda Unit := do
  let _ ←
    orRaise (Python.interpolate "No test secret to run for ".toList [arn])
  return ()

def finishSecret (arn token : String) : Lambda Unit := do
  let metadata ← services.query fun secrets => secrets.describeSecret arn
  let currentVersion :=
    (metadata.versionIdsToStages.find? fun version =>
      "AWSCURRENT" ∈ version.2).map Prod.fst
  if currentVersion = some token then
    return ()
  else
    services.command fun secrets =>
      secrets.updateSecretVersionStage arn "AWSCURRENT" token currentVersion

/-! ## The handler -/

/-- The function of a step with the parameters that it declares: the client,
the ARN and the token, or the last two only. -/
inductive StepFunction where
  | withClient (body : String → String → Lambda Unit)
  | withoutClient (body : String → String → Lambda Unit)

/-- The call with the client, the ARN and the token. -/
def StepFunction.call (arn token : String) : StepFunction → Lambda Unit
  | .withClient body => body arn token
  | .withoutClient _ => throw .typeError

def stepFunction? (excludeCharacters : Option String) (step : String) :
    Option StepFunction :=
  if step = "createSecret" then
    some (.withClient (createSecret services excludeCharacters))
  else if step = "setSecret" then
    some (.withoutClient (setSecret services))
  else if step = "testSecret" then
    some (.withoutClient testSecret)
  else if step = "finishSecret" then
    some (.withoutClient (finishSecret services))
  else
    none

/-- The handler once the members of the event are read. -/
def handle
    (excludeCharacters : Option String) (arn token step : String) :
    Lambda Unit := do
  let metadata ← services.query fun secrets => secrets.describeSecret arn
  match metadata.rotationEnabled with
  | none => throw (.keyError "RotationEnabled")
  | some false =>
      throw
        (.valueError ("Secret " ++ arn ++ " is not enabled for rotation"))
  | some true =>
      match metadata.versionIdsToStages.lookup token with
      | none =>
          throw
            (.valueError
              ("Secret version " ++ token ++
                " has no stage for rotation of secret " ++ arn ++ "."))
      | some stages =>
          if "AWSCURRENT" ∈ stages then
            return ()
          else if "AWSPENDING" ∉ stages then
            throw
              (.valueError
                ("Secret version " ++ token ++
                  " not set as AWSPENDING for rotation of secret " ++ arn ++
                  "."))
          else
            match stepFunction? services excludeCharacters step with
            | some function => function.call arn token
            | none => throw (.valueError "Invalid step parameter")

def lambdaHandler
    (excludeCharacters : Option String) (event : RotationEvent) :
    Lambda Unit := do
  let arn ← eventMember "SecretId" event.secretId
  let token ← eventMember "ClientRequestToken" event.clientRequestToken
  let step ← eventMember "Step" event.step
  handle services excludeCharacters arn token step

end Rotation

/-- An invocation of the rotation function; `excludeCharacters` is a variable
of its environment. -/
structure RotationInvocation where
  event : RotationEvent
  services : Services
  excludeCharacters : Option String

/-- The secrets and the domain, and the rotation function at work on them. -/
def rotationMachine [PythonLibrary] :
    Machine World RotationInvocation (Except PyException Unit) where
  step world invocation :=
    let (outcome, session) :=
      (Rotation.lambdaHandler invocation.services invocation.excludeCharacters
        invocation.event).perform world.session
    (session.world, outcome)

end SparkObservability
