import SparkObservability.Bootstrap.Templates
import SparkObservability.Machine
import SparkObservability.Services.Session

/-!
# The bootstrap of the domain

`on_event` of the bootstrap function with its three handlers, and the helpers
that they issue their requests through.
-/

namespace SparkObservability

/-- A resource file with a JSON text. -/
structure JsonFile where
  content : String
  document : JsonValue
  loads : Python.loads content = .ok document

/-- The resource files without variables. -/
structure Resources where
  pipelineRole : JsonFile
  logsTemplate : JsonFile
  taskTemplate : JsonFile
  stageAggTemplate : JsonFile
  dataSkew : String

/-- The environment of the bootstrap function. -/
structure BootstrapSettings where
  resources : Resources
  adminSecretArn : String
  userSecretArn : String
  pipelineIamRole : String

namespace Bootstrap

variable (services : Services)

/-! ## Requests -/

def sendToOs
    (action : Action) (path : String) (payload : Payload)
    (headers : List (String × String)) : Lambda Response :=
  match action with
  | .patch => throw (.exception "HTTP action not supported")
  | _ => services.send ⟨action, path, payload, headers⟩

/-- The content of a file, whose path has to be given. -/
def loadContent : Option String → Lambda String
  | some content => pure content
  | none => throw .typeError

def osResource
    (action : Action) (osPath : String) (resource : Option String)
    (headers : List (String × String)) : Lambda Response :=
  match action with
  | .post | .put => do
      let content ← loadContent resource
      let payload ← orRaise (Python.loads content)
      sendToOs services action osPath (.json payload) headers
  | .postFile => do
      let content ← loadContent resource
      sendToOs services .postFile osPath (.file content) headers
  | .delete => sendToOs services .delete osPath .none headers
  | .patch =>
      throw
        (.exception "Resource action not supported, only POST, PUT or DELETE")

/-- The check that the helpers make of a response. -/
def requireOk (response : Response) (what : String) : Lambda Unit :=
  if response.Ok then
    pure ()
  else
    throw
      (.exception
        ("Error " ++ toString response.statusCode ++ " in " ++ what ++ ": " ++
          response.text))

/-! ## Saved objects -/

def dropMember (key : String) (value : JsonValue) :
    Except PyException JsonValue := do
  if ← Python.contains value key then
    Python.delete value key
  else
    return value

/-- One result of an import, without its metadata. -/
def cleanResult (result : JsonValue) : Except PyException JsonValue := do
  let withoutMeta ← dropMember "meta" result
  dropMember "overwrite" withoutMeta

/-- The results of an import, which are changed in place. -/
def cleanResults (results : JsonValue) : Except PyException JsonValue := do
  let items ← Python.iterate results
  let cleaned ← items.mapM cleanResult
  match results with
  | .array _ => return .array cleaned
  | _ => return results

def importedResources (response : Response) :
    Except PyException JsonValue := do
  let body ← Python.loads response.text
  let results ← Python.subscript body "successResults"
  cleanResults results

def dashboardHeaders : List (String × String) := [("osd-xsrf", "true")]

/-- `saved_objects` with the action `DELETE`; its `CREATE` is not called. -/
def deleteSavedObject
    [PythonLibrary] (name : String) (type id : JsonValue) : Lambda Unit := do
  let path :=
    Domain.savedObjectPath (Python.formatted type) (Python.formatted id)
  let response ← osResource services .delete path none dashboardHeaders
  requireOk response ("deleting " ++ name ++ " dashboard")

/-! ## Index templates and users -/

inductive CrudAction where
  | create
  | delete

def indexTemplatePath (name : String) : String :=
  "_index_template/" ++ name

def indexTemplate (name : String) (resource : Option String) :
    CrudAction → Lambda Unit
  | .create => do
      let response ←
        osResource services .put (indexTemplatePath name) resource []
      requireOk response (name ++ " index template creation")
  | .delete => do
      let response ←
        osResource services .delete (indexTemplatePath name) none []
      requireOk response ("deleting " ++ name ++ " index template")

def user [PythonLibrary] [Jinja] (secretArn : String) (template : Template) :
    CrudAction → Lambda Unit
  | .create => do
      let secret ← services.getSecret secretArn
      let password ← orRaise (Python.subscript secret "password")
      let payload :=
        Jinja.render template.content "secret_password"
          (Python.formatted password)
      let username ← orRaise (Python.subscript secret "username")
      let document ← orRaise (Python.loads payload)
      let response ←
        sendToOs services .put (Domain.internalUserPath username)
          (.json document) []
      requireOk response (secretArn ++ " creation")
  | .delete => do
      let secret ← services.getSecret secretArn
      let username ← orRaise (Python.subscript secret "username")
      let response ←
        sendToOs services .delete (Domain.internalUserPath username) .none []
      requireOk response ("deleting " ++ secretArn)

/-! ## The handlers -/

variable [PythonLibrary] [Jinja] (settings : BootstrapSettings)

def rolePath : String := "_opendistro/_security/api/roles/pipeline_role"

def roleMappingPath : String :=
  "_opendistro/_security/api/rolesmapping/pipeline_role"

def importPath : String := "_dashboards/api/saved_objects/_import?overwrite=true"

/-- Enable the database of internal users. -/
def updateDomainConfig : Lambda Unit := do
  let response ← orRaise services.updateDomainConfig
  if response.statusCode = 200 then
    pure ()
  else
    throw
      (.exception
        ("Error " ++ toString response.statusCode ++
          " in domain security configuration update: " ++ response.text))

/-- The answer to the first request is not looked at. -/
def onCreate (event : JsonValue) : Lambda JsonValue := do
  let _ ← orRaise (Python.subscript event "ResourceProperties")
  let resources := settings.resources
  let _ ←
    osResource services .put rolePath (some resources.pipelineRole.content) []
  let payload :=
    Jinja.render pipelineRoleMappingTemplate.content "backend_role"
      settings.pipelineIamRole
  let mapping ← orRaise (Python.loads payload)
  let response ← sendToOs services .put roleMappingPath (.json mapping) []
  requireOk response "pipeline role mapping creation"
  updateDomainConfig services
  user services settings.adminSecretArn adminTemplate .create
  user services settings.userSecretArn userTemplate .create
  indexTemplate services "spark_logs" (some resources.logsTemplate.content)
    .create
  indexTemplate services "spark_task_metrics"
    (some resources.taskTemplate.content) .create
  indexTemplate services "spark_stage_agg_metrics"
    (some resources.stageAggTemplate.content) .create
  let response ←
    osResource services .postFile importPath (some resources.dataSkew)
      dashboardHeaders
  requireOk response "saved objects creation"
  let imported ← orRaise (importedResources response)
  return .object [("Data", .object [("Resources", imported)])]

def onUpdate (event : JsonValue) : Lambda JsonValue := do
  let _ ← orRaise (Python.subscript event "PhysicalResourceId")
  let _ ← orRaise (Python.subscript event "ResourceProperties")
  onCreate services settings event

/-- The first requests of a deletion, which need no event. -/
def deleteResources : Lambda Unit := do
  let response ← sendToOs services .delete rolePath .none []
  requireOk response "deleting the pipeline role"
  let response ← sendToOs services .delete roleMappingPath .none []
  requireOk response "deleting the pipeline role mapping"
  user services settings.adminSecretArn adminTemplate .delete
  user services settings.userSecretArn userTemplate .delete
  indexTemplate services "spark_logs" none .delete
  indexTemplate services "spark_task_metrics" none .delete
  indexTemplate services "spark_stage_agg_metrics" none .delete

/-- The saved objects of an event are deleted one by one. -/
def deleteSavedObjects : List JsonValue → Lambda Unit
  | [] => pure ()
  | resource :: rest => do
      let type ← orRaise (Python.subscript resource "type")
      let id ← orRaise (Python.subscript resource "id")
      deleteSavedObject services "nested" type id
      deleteSavedObjects rest

def onDelete (event : JsonValue) : Lambda JsonValue := do
  let _ ← orRaise (Python.subscript event "PhysicalResourceId")
  deleteResources services settings
  let data ← orRaise (Python.subscript event "Data")
  let resources ← orRaise (Python.subscript data "Resources")
  let items ← orRaise (Python.iterate resources)
  deleteSavedObjects services items
  return .null

def isRequestType (requestType : JsonValue) (name : String) : Bool :=
  match requestType with
  | .string text => text = name
  | _ => false

def onEvent (event : JsonValue) : Lambda JsonValue := do
  let requestType ← orRaise (Python.subscript event "RequestType")
  if isRequestType requestType "Create" then
    onCreate services settings event
  else if isRequestType requestType "Update" then
    onUpdate services settings event
  else if isRequestType requestType "Delete" then
    onDelete services settings event
  else
    throw
      (.exception ("Invalid request type: " ++ Python.formatted requestType))

end Bootstrap

structure BootstrapInvocation where
  event : JsonValue
  services : Services

/-- The secrets and the domain, and the bootstrap function at work on
them. -/
def bootstrapMachine [PythonLibrary] [Jinja] (settings : BootstrapSettings) :
    Machine World BootstrapInvocation (Except PyException JsonValue) where
  step world invocation :=
    let (outcome, session) :=
      (Bootstrap.onEvent invocation.services settings
        invocation.event).perform world.session
    (session.world, outcome)

end SparkObservability
