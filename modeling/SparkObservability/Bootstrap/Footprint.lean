import SparkObservability.Bootstrap.Deletion
import SparkObservability.Services.Footprint

/-!
# What the bootstrap can touch

Every event, whatever it says, makes the bootstrap send some of a few requests
and read two secrets.  The paths of a creation are the only ones outside the
saved objects that it can change, and it puts no other document there than the
intended one.
-/

namespace SparkObservability

namespace Bootstrap

open Effect Domain Services

section Requests

variable [PythonLibrary] [Jinja] (services : Services)
  (settings : BootstrapSettings)

/-- The two secrets with the templates of their users. -/
def templateUsers : List (String × Template) :=
  [(settings.adminSecretArn, adminTemplate),
    (settings.userSecretArn, userTemplate)]

omit [PythonLibrary] [Jinja] in
theorem mem_templateUsers :
    (settings.adminSecretArn, adminTemplate) ∈ templateUsers settings ∧
      (settings.userSecretArn, userTemplate) ∈ templateUsers settings :=
  ⟨List.Mem.head _, List.Mem.tail _ (List.Mem.head _)⟩

/-- The names of the index templates with their files. -/
def templateFiles : List (String × JsonFile) :=
  [("spark_logs", settings.resources.logsTemplate),
    ("spark_task_metrics", settings.resources.taskTemplate),
    ("spark_stage_agg_metrics", settings.resources.stageAggTemplate)]

/-- The requests of the handlers, as far as the secrets determine them. -/
structure Permits (reading : String → Except PyException JsonValue)
    (allowed : Request → Prop) : Prop where
  role :
    allowed (putRequest rolePath settings.resources.pipelineRole.document)
  mapping :
    ∀ document,
      Python.loads
          (Jinja.render pipelineRoleMappingTemplate.content "backend_role"
            settings.pipelineIamRole) =
        .ok document →
        allowed (putRequest roleMappingPath document)
  user :
    ∀ account ∈ templateUsers settings,
      ∀ object password username document,
        reading account.1 = .ok object →
          Python.subscript object "password" = .ok password →
          Python.subscript object "username" = .ok username →
          Python.loads
              (Jinja.render account.2.content "secret_password"
                (Python.formatted password)) =
            .ok document →
            allowed (putRequest (internalUserPath username) document)
  template :
    ∀ file ∈ templateFiles settings,
      allowed (putRequest (indexTemplatePath file.1) file.2.document)
  importObjects : allowed (importRequest settings.resources)
  deleteRole :
    allowed (deleteRequest [] rolePath) ∧
      allowed (deleteRequest [] roleMappingPath)
  deleteUser :
    ∀ account ∈ templateUsers settings,
      ∀ object username,
        reading account.1 = .ok object →
          Python.subscript object "username" = .ok username →
            allowed (deleteRequest [] (internalUserPath username))
  deleteTemplate :
    ∀ file ∈ templateFiles settings,
      allowed (deleteRequest [] (indexTemplatePath file.1))
  deleteObject :
    ∀ type id,
      allowed (deleteRequest dashboardHeaders (savedObjectPath type id))

variable {services settings}
  {reading : String → Except PyException JsonValue}
  {allowed : Request → Prop}

omit [Jinja] in
theorem asks_requireOk (response : Response) (what : String) :
    Asks services reading allowed (requireOk response what) := by
  rw [requireOk]
  split
  · exact .returns ()
  · exact .raises _

omit [Jinja] in
/-- A request whose answer is checked. -/
theorem asks_checked {request : Request} (isAllowed : allowed request)
    (what : String) :
    Asks services reading allowed
      (services.send request >>= fun response => requireOk response what) :=
  .sends isAllowed fun response => asks_requireOk response what

variable (services) in
omit [Jinja] in
theorem asks_updateDomainConfig :
    Asks services reading allowed (updateDomainConfig services) := by
  refine .orRaise fun response _ => ?_
  split
  · exact .returns ()
  · exact .raises _

variable (permits : Permits settings reading allowed)

include permits

theorem asks_user_create {account : String × Template}
    (listed : account ∈ templateUsers settings) :
    Asks services reading allowed
      (user services account.1 account.2 .create) := by
  refine .reads fun object isRead => ?_
  refine .orRaise fun password hasPassword => ?_
  refine .orRaise fun username hasUsername => ?_
  refine .orRaise fun document loaded => ?_
  exact asks_checked
    (permits.user account listed object password username document isRead
      hasPassword hasUsername loaded) _

theorem asks_user_delete {account : String × Template}
    (listed : account ∈ templateUsers settings) :
    Asks services reading allowed
      (user services account.1 account.2 .delete) := by
  refine .reads fun object isRead => ?_
  refine .orRaise fun username hasUsername => ?_
  exact asks_checked
    (permits.deleteUser account listed object username isRead hasUsername) _

theorem asks_indexTemplate_create {file : String × JsonFile}
    (listed : file ∈ templateFiles settings) :
    Asks services reading allowed
      (indexTemplate services file.1 (some file.2.content) .create) := by
  rw [indexTemplate, osResource_put_file]
  exact asks_checked (permits.template file listed) _

theorem asks_indexTemplate_delete {file : String × JsonFile}
    (listed : file ∈ templateFiles settings) :
    Asks services reading allowed
      (indexTemplate services file.1 none .delete) :=
  asks_checked (permits.deleteTemplate file listed) _

theorem asks_onCreate (event : JsonValue) :
    Asks services reading allowed (onCreate services settings event) := by
  obtain ⟨admin, dashboardUser⟩ := mem_templateUsers settings
  have templates :
      ∀ file ∈ templateFiles settings,
        Asks services reading allowed
          (indexTemplate services file.1 (some file.2.content) .create) :=
    fun _ listed => asks_indexTemplate_create permits listed
  simp only [templateFiles, List.forall_mem_cons] at templates
  obtain ⟨logs, task, stageAgg, _⟩ := templates
  rw [onCreate]
  refine .orRaise fun properties _ => ?_
  dsimp only
  rw [osResource_put_file, osResource_import]
  refine .sends permits.role fun _ => ?_
  refine .orRaise fun document loaded => ?_
  refine .sends (permits.mapping document loaded) fun _ => ?_
  refine (asks_requireOk _ _).bind fun _ => ?_
  refine (asks_updateDomainConfig services).bind fun _ => ?_
  refine (asks_user_create permits admin).bind fun _ => ?_
  refine (asks_user_create permits dashboardUser).bind fun _ => ?_
  refine logs.bind fun _ => ?_
  refine task.bind fun _ => ?_
  refine stageAgg.bind fun _ => ?_
  refine .sends permits.importObjects fun response => ?_
  refine (asks_requireOk _ _).bind fun _ => ?_
  exact .orRaise fun imported _ => .returns _

theorem asks_deleteResources :
    Asks services reading allowed (deleteResources services settings) := by
  obtain ⟨admin, dashboardUser⟩ := mem_templateUsers settings
  have templates :
      ∀ file ∈ templateFiles settings,
        Asks services reading allowed
          (indexTemplate services file.1 none .delete) :=
    fun _ listed => asks_indexTemplate_delete permits listed
  simp only [templateFiles, List.forall_mem_cons] at templates
  obtain ⟨logs, task, stageAgg, _⟩ := templates
  rw [deleteResources]
  refine .sends permits.deleteRole.1 fun _ => ?_
  refine (asks_requireOk _ _).bind fun _ => ?_
  refine .sends permits.deleteRole.2 fun _ => ?_
  refine (asks_requireOk _ _).bind fun _ => ?_
  refine (asks_user_delete permits admin).bind fun _ => ?_
  refine (asks_user_delete permits dashboardUser).bind fun _ => ?_
  refine logs.bind fun _ => ?_
  refine task.bind fun _ => ?_
  exact stageAgg

theorem asks_deleteSavedObjects (resources : List JsonValue) :
    Asks services reading allowed
      (deleteSavedObjects services resources) := by
  induction resources with
  | nil => exact .returns ()
  | cons resource rest inductionHypothesis =>
      rw [deleteSavedObjects]
      refine .orRaise fun type _ => ?_
      refine .orRaise fun id _ => ?_
      refine Asks.bind (asks_checked (permits.deleteObject _ _) _) fun _ => ?_
      exact inductionHypothesis

/-- Whatever the event is, the bootstrap sends permitted requests only. -/
theorem asks_onEvent (event : JsonValue) :
    Asks services reading allowed (onEvent services settings event) := by
  rw [onEvent]
  refine .orRaise fun requestType _ => ?_
  split
  · exact asks_onCreate permits event
  split
  · refine .orRaise fun _ _ => ?_
    refine .orRaise fun _ _ => ?_
    exact asks_onCreate permits event
  split
  · refine .orRaise fun _ _ => ?_
    refine (asks_deleteResources permits).bind fun _ => ?_
    refine .orRaise fun data _ => ?_
    refine .orRaise fun resources _ => ?_
    refine .orRaise fun items _ => ?_
    refine (asks_deleteSavedObjects permits items).bind fun _ => ?_
    exact .returns _
  · exact .raises _

omit permits in
theorem permits_all (reading : String → Except PyException JsonValue) :
    Permits settings reading fun _ => True where
  role := trivial
  mapping _ _ := trivial
  user _ _ _ _ _ _ _ _ _ _ := trivial
  template _ _ := trivial
  importObjects := trivial
  deleteRole := ⟨trivial, trivial⟩
  deleteUser _ _ _ _ _ _ := trivial
  deleteTemplate _ _ := trivial
  deleteObject _ _ := trivial

end Requests

/-! ## Domains that stay intact -/

section Intact

variable [PythonLibrary] (settings : BootstrapSettings) (admin user : Account)
  (initial : Domain)

/-- Outside the saved objects every path has what it had at the beginning,
except for the paths of a creation, which may also have nothing or the
intended document. -/
def Intact (domain : Domain) : Prop :=
  ∀ path, kind path ≠ ['_', 'd'] →
    domain path = initial path ∨
      (path ∈ createdPaths settings admin user ∧ domain path = none) ∨
        ∃ document ∈ createdDocuments settings admin user,
          document.1 = path ∧ domain path = some document.2

def KeepsIntact (request : Request) : Prop :=
  ∀ domain : Domain,
    Intact settings admin user initial domain →
      Intact settings admin user initial (domain.serve request)

variable {settings admin user initial}

omit [PythonLibrary] in
theorem serve_deleteRequest (domain : Domain)
    (headers : List (String × String)) (path : String) :
    domain.serve (deleteRequest headers path) =
      Function.update domain path none :=
  rfl

omit [PythonLibrary] in
theorem serve_importRequest (domain : Domain) (resources : Resources) :
    domain.serve (importRequest resources) =
      domain.importObjects resources.dataSkew :=
  rfl

theorem keepsIntact_put {document : String × JsonValue}
    (created : document ∈ createdDocuments settings admin user) :
    KeepsIntact settings admin user initial
      (putRequest document.1 document.2) := by
  intro domain intact path notObject
  rw [serve_putRequest]
  by_cases same : path = document.1
  · subst same
    exact Or.inr (Or.inr ⟨document, created, rfl, Function.update_self ..⟩)
  · rw [Function.update_of_ne same]
    exact intact path notObject

theorem keepsIntact_delete {path : String}
    (created : path ∈ createdPaths settings admin user)
    (headers : List (String × String)) :
    KeepsIntact settings admin user initial (deleteRequest headers path) := by
  intro domain intact other notObject
  rw [serve_deleteRequest]
  by_cases same : other = path
  · subst same
    exact Or.inr (Or.inl ⟨created, Function.update_self ..⟩)
  · rw [Function.update_of_ne same]
    exact intact other notObject

theorem keepsIntact_deleteObject (headers : List (String × String))
    (type id : String) :
    KeepsIntact settings admin user initial
      (deleteRequest headers (savedObjectPath type id)) := by
  intro domain intact other notObject
  have different : other ≠ savedObjectPath type id := by
    rintro rfl
    exact notObject (kind_savedObjectPath type id)
  rw [serve_deleteRequest, Function.update_of_ne different]
  exact intact other notObject

theorem keepsIntact_import :
    KeepsIntact settings admin user initial
      (importRequest settings.resources) := by
  intro domain intact other notObject
  rw [serve_importRequest, importObjects_of_kind_ne notObject]
  exact intact other notObject

/-- What credentials give to a function that reads them. -/
theorem reading_of_credentials {secrets : SecretsManager} {arn : String}
    {account : Account} (credentials : Credentials secrets arn account) :
    ∃ members,
      secrets.reading arn = .ok (.object members) ∧
        members.lookup "username" = some (.string account.username) ∧
        members.lookup "password" = some (.string account.password) := by
  obtain ⟨value, members, stored, parsed, name, word⟩ := credentials.stored
  refine ⟨members, ?_, name, word⟩
  rw [SecretsManager.reading, stored]
  exact parsed

/-- What is read of an account with credentials. -/
theorem subscript_of_credentials {secrets : SecretsManager} {arn : String}
    {account : Account} (credentials : Credentials secrets arn account)
    {object : JsonValue} (isRead : secrets.reading arn = .ok object) :
    (∀ username, Python.subscript object "username" = .ok username →
        username = .string account.username) ∧
      ∀ password, Python.subscript object "password" = .ok password →
        password = .string account.password := by
  obtain ⟨members, stored, name, word⟩ := reading_of_credentials credentials
  rw [stored] at isRead
  cases isRead
  simp only [Python.subscript, name, word, Except.ok.injEq]
  exact ⟨fun _ same => same.symm, fun _ same => same.symm⟩

variable (settings admin user initial) in
/-- The documents of a creation may be put, and their paths deleted. -/
theorem keepsIntact_created :
    (∀ document ∈ createdDocuments settings admin user,
        KeepsIntact settings admin user initial
          (putRequest document.1 document.2)) ∧
      ∀ document ∈ createdDocuments settings admin user,
        KeepsIntact settings admin user initial
          (deleteRequest [] document.1) :=
  ⟨fun _ created => keepsIntact_put created,
    fun _ created => keepsIntact_delete (List.mem_map_of_mem created) []⟩

variable [Jinja]

/-- The document of a user is the intended one. -/
theorem document_of_loads (lawful : Jinja.Lawful)
    {template : Template} {roles : List JsonValue} {account : Account}
    (isFile : template ∈ renderedFiles)
    (named : template.variableName = "secret_password")
    (loads :
      ∀ {password : String}, IsPlainText password →
        Python.loads (template.before ++ password ++ template.after) =
          .ok (userDocument password roles))
    (plain : IsPlainText account.password) {document : JsonValue}
    (loaded :
      Python.loads
          (Jinja.render template.content "secret_password"
            (Python.formatted (.string account.password))) =
        .ok document) :
    document = userDocument account.password roles := by
  have rendered := lawful.render_content template isFile account.password
  rw [named] at rendered
  rw [Python.formatted, rendered, loads plain, Except.ok.injEq] at loaded
  exact loaded.symm

/-- With credentials, every permitted request keeps the domain intact. -/
theorem permits_keepsIntact (lawful : Jinja.Lawful)
    {secrets : SecretsManager}
    (plainRole : IsPlainText settings.pipelineIamRole)
    (adminCredentials : Credentials secrets settings.adminSecretArn admin)
    (userCredentials : Credentials secrets settings.userSecretArn user) :
    Permits settings secrets.reading
      (KeepsIntact settings admin user initial) := by
  obtain ⟨puts, deletes⟩ := keepsIntact_created settings admin user initial
  simp only [createdDocuments, List.forall_mem_cons] at puts deletes
  obtain ⟨role, mapping, putAdmin, putUser, logs, task, stageAgg, _⟩ := puts
  obtain ⟨deleteRole, deleteMapping, deleteAdmin, deleteUser, deleteLogs,
    deleteTask, deleteStageAgg, _⟩ := deletes
  refine
    { role := role
      mapping := ?_
      user := ?_
      template := ?_
      importObjects := keepsIntact_import
      deleteRole := ⟨deleteRole, deleteMapping⟩
      deleteUser := ?_
      deleteTemplate := ?_
      deleteObject := fun _ _ => keepsIntact_deleteObject _ _ _ }
  · intro document loaded
    have rendered :=
      lawful.render_content pipelineRoleMappingTemplate
        pipelineRoleMappingTemplate_mem settings.pipelineIamRole
    have intended := loads_pipelineRoleMappingTemplate plainRole
    rw [← rendered] at intended
    have same := intended.symm.trans loaded
    cases same
    exact mapping
  · simp only [templateUsers, List.forall_mem_cons]
    refine ⟨?_, ?_, by simp⟩
    · intro object password username document isRead hasPassword hasUsername
        loaded
      obtain ⟨names, words⟩ :=
        subscript_of_credentials adminCredentials isRead
      rw [words password hasPassword] at loaded
      rw [names username hasUsername,
        document_of_loads lawful adminTemplate_mem rfl loads_adminTemplate
          adminCredentials.plain loaded]
      exact putAdmin
    · intro object password username document isRead hasPassword hasUsername
        loaded
      obtain ⟨names, words⟩ :=
        subscript_of_credentials userCredentials isRead
      rw [words password hasPassword] at loaded
      rw [names username hasUsername,
        document_of_loads lawful userTemplate_mem rfl loads_userTemplate
          userCredentials.plain loaded]
      exact putUser
  · simp only [templateFiles, List.forall_mem_cons]
    exact ⟨logs, task, stageAgg, by simp⟩
  · simp only [templateUsers, List.forall_mem_cons]
    refine ⟨?_, ?_, by simp⟩
    · intro object username isRead hasUsername
      rw [(subscript_of_credentials adminCredentials isRead).1 username
        hasUsername]
      exact deleteAdmin
    · intro object username isRead hasUsername
      rw [(subscript_of_credentials userCredentials isRead).1 username
        hasUsername]
      exact deleteUser
  · simp only [templateFiles, List.forall_mem_cons]
    exact ⟨deleteLogs, deleteTask, deleteStageAgg, by simp⟩

end Intact

end Bootstrap

end SparkObservability
