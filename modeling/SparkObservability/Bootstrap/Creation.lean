import SparkObservability.Bootstrap.Requests

/-!
# The creation of the bootstrap

The handler of a creation returns exactly when all its requests but the first
one are answered with success.  The answer to the first one, which creates the
pipeline role, is not looked at.
-/

namespace SparkObservability

namespace Bootstrap

open Effect Domain

section Creation

variable (services : Services) {secrets : SecretsManager}

/-- What the handler returns once the saved objects are imported. -/
def creationResult (response : Response) : JsonValue :=
  match importedResources response with
  | .ok imported => .object [("Data", .object [("Resources", imported)])]
  | .error _ => .null

theorem returnsWhen_result (response : Response) :
    ReturnsWhen (HasSecrets secrets)
      (orRaise (importedResources response) >>= fun imported =>
        pure (.object [("Data", .object [("Resources", imported)])]))
      (fun _ => ∃ imported, importedResources response = .ok imported)
      (fun _ => creationResult response) (fun session => session) where
  returns_iff session _ result final := by
    rw [creationResult]
    cases importedResources response with
    | error error => simp [orRaise]
    | ok imported => simp [orRaise]
  invariant_next _ fit := fit

theorem returnsWhen_import (resources : Resources) :
    ReturnsWhen (HasSecrets secrets)
      (services.send (importRequest resources) >>= fun response =>
        requireOk response "saved objects creation" >>= fun _ =>
          orRaise (importedResources response) >>= fun imported =>
            pure (.object [("Data", .object [("Resources", imported)])]))
      (fun session =>
        (services.reply session (importRequest resources)).Ok ∧
          ∃ imported,
            importedResources
                (services.reply session (importRequest resources)) =
              .ok imported)
      (fun session =>
        creationResult (services.reply session (importRequest resources)))
      (fun session => services.exchange session (importRequest resources)) :=
  ((returnsWhen_send services secrets (importRequest resources)).bind
      (fun response _ =>
        response.Ok ∧ ∃ imported, importedResources response = .ok imported)
      (fun response _ => creationResult response)
      (fun _ session => session)
      fun _ _ =>
        (returnsWhen_requireOk secrets _ _).seq (returnsWhen_result _)).congr
    fun _ _ => iff_of_eq (true_and _)

variable [PythonLibrary] {settings : BootstrapSettings}

def userRequest (account : Account) (roles : List JsonValue) : Request :=
  putRequest (internalUserPath (.string account.username))
    (userDocument account.password roles)

/-- The documents of a creation, by their paths. -/
def createdDocuments (settings : BootstrapSettings) (admin user : Account) :
    List (String × JsonValue) :=
  [(rolePath, settings.resources.pipelineRole.document),
    (roleMappingPath, pipelineRoleMapping settings.pipelineIamRole),
    (internalUserPath (.string admin.username),
      userDocument admin.password adminRoles),
    (internalUserPath (.string user.username),
      userDocument user.password userRoles),
    (indexTemplatePath "spark_logs", settings.resources.logsTemplate.document),
    (indexTemplatePath "spark_task_metrics",
      settings.resources.taskTemplate.document),
    (indexTemplatePath "spark_stage_agg_metrics",
      settings.resources.stageAggTemplate.document)]

theorem nodup_createdDocuments
    (settings : BootstrapSettings) {admin user : Account}
    (different : admin.username ≠ user.username) :
    ((createdDocuments settings admin user).map Prod.fst).Nodup := by
  have users :
      internalUserPath (.string admin.username) ≠
        internalUserPath (.string user.username) :=
    fun same => different (internalUserPath_string_injective same)
  have notUser :
      ∀ path : String, kind path ≠ ['_', 'p'] →
        ∀ username : String, path ≠ internalUserPath (.string username) := by
    intro path otherKind username
    apply ne_of_kind_ne
    rw [kind_internalUserPath]
    exact otherKind
  have role := notUser rolePath (by decide)
  have mapping := notUser roleMappingPath (by decide)
  have logs := notUser (indexTemplatePath "spark_logs") (by decide)
  have task := notUser (indexTemplatePath "spark_task_metrics") (by decide)
  have stageAgg :=
    notUser (indexTemplatePath "spark_stage_agg_metrics") (by decide)
  have others :
      [rolePath, roleMappingPath, indexTemplatePath "spark_logs",
        indexTemplatePath "spark_task_metrics",
        indexTemplatePath "spark_stage_agg_metrics"].Nodup := by
    decide
  simp only [createdDocuments, List.map_cons, List.map_nil]
  simp only [List.nodup_cons, List.mem_cons, List.not_mem_nil, not_or,
    or_false] at others ⊢
  obtain
    ⟨⟨roleMapping, roleLogs, roleTask, roleStageAgg⟩,
      ⟨mappingLogs, mappingTask, mappingStageAgg⟩, others⟩ :=
    others
  exact
    ⟨⟨roleMapping, role _, role _, roleLogs, roleTask, roleStageAgg⟩,
      ⟨mapping _, mapping _, mappingLogs, mappingTask, mappingStageAgg⟩,
      ⟨users, (logs _).symm, (task _).symm, (stageAgg _).symm⟩,
      ⟨(logs _).symm, (task _).symm, (stageAgg _).symm⟩, others⟩

/-- An import leaves the documents of a creation alone. -/
theorem kind_createdDocuments
    {admin user : Account} {document : String × JsonValue}
    (created : document ∈ createdDocuments settings admin user) :
    kind document.1 ≠ ['_', 'd'] := by
  simp only [createdDocuments, List.mem_cons, List.not_mem_nil,
    or_false] at created
  have role : kind rolePath ≠ ['_', 'd'] := by decide
  have mapping : kind roleMappingPath ≠ ['_', 'd'] := by decide
  have template :
      ∀ name ∈ ["spark_logs", "spark_task_metrics", "spark_stage_agg_metrics"],
        kind (indexTemplatePath name) ≠ ['_', 'd'] := by
    decide
  have account :
      ∀ username : String,
        kind (internalUserPath (.string username)) ≠ ['_', 'd'] := by
    intro username
    rw [kind_internalUserPath]
    decide
  rcases created with rfl | rfl | rfl | rfl | rfl | rfl | rfl
  · exact role
  · exact mapping
  · exact account _
  · exact account _
  · exact template "spark_logs" (by decide)
  · exact template "spark_task_metrics" (by decide)
  · exact template "spark_stage_agg_metrics" (by decide)

/-- The requests of a creation before the import. -/
def creationRequests
    (settings : BootstrapSettings) (admin user : Account) : List Request :=
  (createdDocuments settings admin user).map fun document =>
    putRequest document.1 document.2

/-- A user whose template is read with the password as a string. -/
theorem returnsWhen_templateUser [Jinja]
    (lawful : Jinja.Lawful) {template : Template} {roles : List JsonValue}
    (isFile : template ∈ renderedFiles)
    (named : template.variableName = "secret_password")
    (loads :
      ∀ {password : String}, IsPlainText password →
        Python.loads (template.before ++ password ++ template.after) =
          .ok (userDocument password roles))
    {arn : String} {account : Account}
    (credentials : Credentials secrets arn account) :
    ReturnsWhen (HasSecrets secrets) (user services arn template .create)
      (fun session =>
        services.fault session.secretCalls = none ∧
          (services.reply session.counted (userRequest account roles)).Ok)
      (fun _ => ())
      (fun session =>
        services.exchange session.counted (userRequest account roles)) := by
  apply returnsWhen_user services credentials
  rw [← named, lawful.render_content template isFile account.password]
  exact loads credentials.plain

/-! ## The handler -/

/-- All requests but the first one are answered with success, and so are the
other calls that the handler makes. -/
structure OthersAnswered
    (services : Services) (responses : Nat → Response) : Prop where
  mapping : (responses 1).Ok
  configured : ∃ text, services.updateDomainConfig = .ok ⟨200, text⟩
  secretsRead : services.fault 0 = none ∧ services.fault 1 = none
  users : (responses 2).Ok ∧ (responses 3).Ok
  templates : (responses 4).Ok ∧ (responses 5).Ok ∧ (responses 6).Ok
  importAnswered : (responses 7).Ok
  results : ∃ imported, importedResources (responses 7) = .ok imported

theorem onCreate_ends [Jinja] {services : Services} {responses : Nat → Response}
    (lawful : Jinja.Lawful) (scripted : services.Scripted responses)
    {admin account : Account}
    (adminCredentials : Credentials secrets settings.adminSecretArn admin)
    (userCredentials : Credentials secrets settings.userSecretArn account)
    (plainRole : IsPlainText settings.pipelineIamRole)
    {event properties : JsonValue}
    (hasProperties :
      Python.subscript event "ResourceProperties" = .ok properties)
    {session : Session} (fit : HasSecrets secrets session)
    (fresh : session.exchanges = [] ∧ session.secretCalls = 0)
    (value : JsonValue) (final : Session) :
    (onCreate services settings event).perform session = (.ok value, final) ↔
      OthersAnswered services responses ∧
        creationResult (responses 7) = value ∧
        services.exchangeAll session.counted.counted
            (creationRequests settings admin account ++
              [importRequest settings.resources]) =
          final := by
  have rendered :
      Python.loads
          (Jinja.render pipelineRoleMappingTemplate.content "backend_role"
            settings.pipelineIamRole) =
        .ok (pipelineRoleMapping settings.pipelineIamRole) := by
    have inserted :=
      lawful.render_content pipelineRoleMappingTemplate
        pipelineRoleMappingTemplate_mem settings.pipelineIamRole
    exact inserted ▸ loads_pipelineRoleMappingTemplate plainRole
  have chain :=
    returnsWhen_unchecked_then services
      (putRequest rolePath settings.resources.pipelineRole.document)
      (returnsWhen_checked_then services
        (putRequest roleMappingPath
          (pipelineRoleMapping settings.pipelineIamRole))
        "pipeline role mapping creation"
        ((returnsWhen_updateDomainConfig services secrets).seq
          ((returnsWhen_templateUser services lawful adminTemplate_mem rfl
              loads_adminTemplate adminCredentials).seq
            ((returnsWhen_templateUser services lawful userTemplate_mem rfl
                loads_userTemplate userCredentials).seq
              ((returnsWhen_indexTemplate services secrets "spark_logs"
                  settings.resources.logsTemplate).seq
                ((returnsWhen_indexTemplate services secrets
                    "spark_task_metrics"
                    settings.resources.taskTemplate).seq
                  ((returnsWhen_indexTemplate services secrets
                      "spark_stage_agg_metrics"
                      settings.resources.stageAggTemplate).seq
                    (returnsWhen_import services settings.resources))))))))
  have whole := chain.returns_iff session fit value final
  rw [onCreate]
  simp only [hasProperties, rendered, orRaise_ok, pure_bind, osResource_put_file,
    osResource_import, sendToOs_put]
  rw [whole]
  simp only [services.reply_of_scripted scripted,
    services.length_exchanges_exchange, services.secretCalls_exchange,
    services.exchange_counted, Session.exchanges_counted,
    Session.secretCalls_counted, fresh.1, fresh.2, List.length_nil,
    creationRequests, createdDocuments, List.map_cons, List.map_nil,
    List.cons_append, List.nil_append, Services.exchangeAll]
  constructor
  · rintro
      ⟨⟨mapping, configured, ⟨adminRead, adminOk⟩, ⟨userRead, userOk⟩,
          logsOk, taskOk, stageAggOk, importOk, results⟩,
        sameValue, sameEnd⟩
    exact
      ⟨⟨mapping, configured, ⟨adminRead, userRead⟩, ⟨adminOk, userOk⟩,
          ⟨logsOk, taskOk, stageAggOk⟩, importOk, results⟩,
        sameValue, sameEnd⟩
  · rintro
      ⟨⟨mapping, configured, ⟨adminRead, userRead⟩, ⟨adminOk, userOk⟩,
          ⟨logsOk, taskOk, stageAggOk⟩, importOk, results⟩,
        sameValue, sameEnd⟩
    exact
      ⟨⟨mapping, configured, ⟨adminRead, adminOk⟩, ⟨userRead, userOk⟩,
          logsOk, taskOk, stageAggOk, importOk, results⟩,
        sameValue, sameEnd⟩

/-! ## Imported objects -/

def HasImported (settings : BootstrapSettings) (session : Session) : Prop :=
  ∀ path ∈ importedPaths settings.resources.dataSkew,
    session.domain path ≠ none

/-- Whatever the services answer, a creation that returns has imported the
saved objects. -/
theorem onCreate_establishes [Jinja] (event : JsonValue) :
    Establishes (HasImported settings) (onCreate services settings event) := by
  rw [onCreate]
  -- The import is the last request.
  iterate 11 refine establishes_bind fun _ => ?_
  intro session value final returns path imported
  rw [osResource_import] at returns
  have fit : HasSecrets session.secrets session := rfl
  obtain ⟨⟨ok, _⟩, _, rfl⟩ :=
    ((returnsWhen_import services settings.resources).returns_iff session fit
      value final).1 returns
  rw [services.domain_exchange_of_ok ok]
  exact importObjects_ne_none imported session.domain

end Creation

end Bootstrap

end SparkObservability
