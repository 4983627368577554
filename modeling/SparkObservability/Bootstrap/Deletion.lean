import SparkObservability.Bootstrap.Creation

/-!
# The deletion of the bootstrap

A request to delete the bootstrap does not carry the data that its creation
returned, and the handler looks for the saved objects in that data.  It raises
after it has deleted the other resources.
-/

namespace SparkObservability

namespace Bootstrap

open Effect Domain

/-! ## Requests that leave the saved objects alone -/

/-- The two sessions have the same saved objects. -/
def SameObjects (session final : Session) : Prop :=
  ∀ path, kind path = ['_', 'd'] → final.domain path = session.domain path

theorem sameObjects_refl (session : Session) : SameObjects session session :=
  fun _ _ => rfl

theorem sameObjects_trans
    (session middle final : Session)
    (first : SameObjects session middle) (second : SameObjects middle final) :
    SameObjects session final :=
  fun path object => (second path object).trans (first path object)

section Requests

variable (services : Services)

theorem keeps_send_delete
    {path : String} (notObject : kind path ≠ ['_', 'd']) :
    Keeps SameObjects (services.send (deleteRequest [] path)) := by
  intro session other object
  have different : other ≠ path := by
    rintro rfl
    exact notObject object
  rw [services.perform_send]
  by_cases ok : (services.reply session (deleteRequest [] path)).Ok
  · rw [services.domain_exchange_of_ok ok]
    exact Function.update_of_ne different _ _
  · rw [services.domain_exchange_of_not_ok ok]

theorem keeps_requireOk (response : Response) (what : String) :
    Keeps SameObjects (requireOk response what) := by
  rw [requireOk]
  split
  · exact keeps_pure sameObjects_refl ()
  · exact keeps_throw sameObjects_refl _

/-- A deletion whose answer is checked. -/
theorem keeps_checked_delete
    {path : String} (notObject : kind path ≠ ['_', 'd']) (what : String) :
    Keeps SameObjects
      (services.send (deleteRequest [] path) >>= fun response =>
        requireOk response what) :=
  (keeps_send_delete services notObject).bind sameObjects_trans
    fun response => keeps_requireOk response what

end Requests

/-! ## Deletions never return -/

/-- A request as CloudFormation sends it. -/
structure IsDeletion (event : JsonValue) : Prop where
  requestType :
    Python.subscript event "RequestType" = .ok (.string "Delete")
  physicalId :
    ∃ id, Python.subscript event "PhysicalResourceId" = .ok id
  properties :
    ∃ properties,
      Python.subscript event "ResourceProperties" = .ok properties
  withoutData : Python.subscript event "Data" = .error (.keyError "Data")

section Deletion

variable [PythonLibrary] [Jinja] (services : Services)
  (settings : BootstrapSettings) {event : JsonValue}

theorem onEvent_of_delete
    (requestType :
      Python.subscript event "RequestType" = .ok (.string "Delete")) :
    onEvent services settings event = onDelete services settings event := by
  rw [onEvent, requestType, orRaise_ok, pure_bind]
  rfl

theorem onEvent_of_deletion (deletion : IsDeletion event) :
    onEvent services settings event =
      (deleteResources services settings >>= fun _ =>
        throw (.keyError "Data")) := by
  obtain ⟨id, hasId⟩ := deletion.physicalId
  rw [onEvent_of_delete services settings deletion.requestType, onDelete,
    hasId, deletion.withoutData, orRaise_ok, pure_bind]
  rfl

/-- The saved objects are looked for in vain. -/
theorem onEvent_never_returns
    (deletion : IsDeletion event) (session final : Session)
    (value : JsonValue) :
    (onEvent services settings event).perform session ≠ (.ok value, final) := by
  rw [onEvent_of_deletion services settings deletion]
  intro returns
  obtain ⟨first, middle, _, raises⟩ := perform_bind_eq_ok_iff.1 returns
  cases raises

/-! ## Deletions leave the saved objects alone -/

theorem keeps_user_delete (arn : String) (template : Template) :
    Keeps SameObjects (user services arn template .delete) := by
  have keepsSecret :=
    services.keeps_getSecret sameObjects_refl sameObjects_refl
      sameObjects_trans arn
  refine keepsSecret.bind sameObjects_trans ?_
  intro secret
  refine (keeps_orRaise sameObjects_refl _).bind sameObjects_trans ?_
  intro username
  apply keeps_checked_delete
  rw [kind_internalUserPath]
  decide

theorem keeps_deleteResources :
    Keeps SameObjects (deleteResources services settings) := by
  have keepsTemplate :
      ∀ name ∈ ["spark_logs", "spark_task_metrics", "spark_stage_agg_metrics"],
        Keeps SameObjects (indexTemplate services name none .delete) := by
    intro name listed
    apply keeps_checked_delete
    revert name
    decide
  rw [deleteResources, ← bind_assoc]
  refine (keeps_checked_delete services (by decide) _).bind sameObjects_trans ?_
  intro _
  rw [← bind_assoc]
  refine (keeps_checked_delete services (by decide) _).bind sameObjects_trans ?_
  intro _
  refine (keeps_user_delete services _ _).bind sameObjects_trans ?_
  intro _
  refine (keeps_user_delete services _ _).bind sameObjects_trans ?_
  intro _
  refine (keepsTemplate _ (by decide)).bind sameObjects_trans ?_
  intro _
  refine (keepsTemplate _ (by decide)).bind sameObjects_trans ?_
  intro _
  exact keepsTemplate _ (by decide)

end Deletion

/-! ## Deletions with services that work -/

/-- OpenSearch answers 404 to the deletion of what is not there and accepts
everything else, and Secrets Manager refuses nothing. -/
structure Working (services : Services) : Prop where
  absent :
    ∀ number (domain : Domain) request,
      request.action = .delete → domain request.path = none →
        (services.respond number domain request).statusCode = 404
  present :
    ∀ number (domain : Domain) request,
      ¬ (request.action = .delete ∧ domain request.path = none) →
        (services.respond number domain request).statusCode = 200
  accepted : ∀ number, services.fault number = none

section Working

variable {services : Services}

theorem ok_of_present
    (working : Working services) {session : Session} {path : String}
    (present : session.domain path ≠ none) (headers : List (String × String)) :
    (services.reply session (deleteRequest headers path)).Ok := by
  have answer :=
    working.present session.exchanges.length session.domain
      (deleteRequest headers path) fun absent => present absent.2
  rw [Response.Ok, Services.reply, answer]
  decide

/-- The requests are all answered with success. -/
def AllOk (services : Services) : Session → List Request → Prop
  | _, [] => True
  | session, request :: rest =>
      (services.reply session request).Ok ∧
        AllOk services (services.exchange session request) rest

/-- What is there can be deleted, one resource after the other. -/
theorem delete_all
    (working : Working services) {session : Session} {paths : List String}
    (distinct : paths.Nodup)
    (present : ∀ path ∈ paths, session.domain path ≠ none)
    (headers : List (String × String)) :
    AllOk services session (paths.map (deleteRequest headers)) ∧
      ∀ path,
        (services.exchangeAll session
            (paths.map (deleteRequest headers))).domain path =
          if path ∈ paths then none else session.domain path := by
  induction paths generalizing session with
  | nil => exact ⟨trivial, fun _ => rfl⟩
  | cons first rest inductionHypothesis =>
      rw [List.nodup_cons] at distinct
      have firstOk :=
        ok_of_present working (present first (List.Mem.head _)) headers
      have domainAfter :
          (services.exchange session (deleteRequest headers first)).domain =
            Function.update session.domain first none :=
        services.domain_exchange_of_ok firstOk
      have restPresent :
          ∀ path ∈ rest,
            (services.exchange session (deleteRequest headers first)).domain path ≠
              none := by
        intro path inRest
        have different : path ≠ first := by
          rintro rfl
          exact distinct.1 inRest
        rw [domainAfter, Function.update_of_ne different]
        exact present path (List.mem_cons_of_mem _ inRest)
      obtain ⟨restOk, restDomain⟩ := inductionHypothesis distinct.2 restPresent
      refine ⟨⟨firstOk, restOk⟩, ?_⟩
      intro path
      rw [List.map_cons, Services.exchangeAll, restDomain, domainAfter]
      by_cases same : path = first
      · subst same
        simp
      · simp [same]

theorem statusCode_of_absent
    (working : Working services) {session : Session} {path : String}
    (absent : session.domain path = none) :
    (services.reply session (deleteRequest [] path)).statusCode = 404 :=
  working.absent _ _ _ rfl absent

theorem not_ok_of_absent
    (working : Working services) {session : Session} {path : String}
    (absent : session.domain path = none) :
    ¬ (services.reply session (deleteRequest [] path)).Ok := by
  rw [Response.Ok, statusCode_of_absent working absent]
  decide

variable [PythonLibrary] [Jinja] {settings : BootstrapSettings}
  {secrets : SecretsManager} {admin account : Account}

/-- The paths of the resources that need no event to be deleted. -/
def createdPaths
    (settings : BootstrapSettings) (admin user : Account) : List String :=
  (createdDocuments settings admin user).map Prod.fst

omit [Jinja] in
theorem nodup_createdPaths
    (settings : BootstrapSettings)
    (differentUsers : admin.username ≠ account.username) :
    (createdPaths settings admin account).Nodup :=
  nodup_createdDocuments settings differentUsers

/-- Where everything is there, the resources are deleted. -/
theorem perform_deleteResources
    (working : Working services)
    (adminCredentials : Credentials secrets settings.adminSecretArn admin)
    (userCredentials : Credentials secrets settings.userSecretArn account)
    (differentUsers : admin.username ≠ account.username)
    {session : Session} (fit : HasSecrets secrets session)
    (complete :
      ∀ path ∈ createdPaths settings admin account,
        session.domain path ≠ none) :
    ∃ final,
      (deleteResources services settings).perform session = (.ok (), final) ∧
        final.secrets = session.secrets ∧
        ∀ path,
          final.domain path =
            if path ∈ createdPaths settings admin account then none
            else session.domain path := by
  have chain :=
    returnsWhen_checked_then services (deleteRequest [] rolePath)
      "deleting the pipeline role"
      (returnsWhen_checked_then services (deleteRequest [] roleMappingPath)
        "deleting the pipeline role mapping"
        ((returnsWhen_user_delete services adminCredentials adminTemplate).seq
          ((returnsWhen_user_delete services userCredentials userTemplate).seq
            ((returnsWhen_checked services secrets
                (deleteRequest [] (indexTemplatePath "spark_logs"))
                "deleting spark_logs index template").seq
              ((returnsWhen_checked services secrets
                  (deleteRequest [] (indexTemplatePath "spark_task_metrics"))
                  "deleting spark_task_metrics index template").seq
                (returnsWhen_checked services secrets
                  (deleteRequest []
                    (indexTemplatePath "spark_stage_agg_metrics"))
                  "deleting spark_stage_agg_metrics index template"))))))
  obtain ⟨allOk, domainAfter⟩ :=
    delete_all working (nodup_createdPaths settings differentUsers) complete []
  obtain ⟨roleOk, mappingOk, adminOk, userOk, logsOk, taskOk, stageAggOk, _⟩ :=
    allOk
  refine
    ⟨(services.exchangeAll session
        ((createdPaths settings admin account).map
          (deleteRequest []))).counted.counted,
      (chain.returns_iff session fit _ _).2 ⟨?_, rfl, ?_⟩, ?_, domainAfter⟩
  · simp only [services.exchange_counted, services.reply_counted,
      working.accepted, true_and]
    exact ⟨roleOk, mappingOk, adminOk, userOk, logsOk, taskOk, stageAggOk⟩
  · simp only [services.exchange_counted, createdPaths, createdDocuments,
      List.map_cons, List.map_nil, Services.exchangeAll]
  · exact services.secrets_exchangeAll _ _

variable (settings) in
/-- Where the role is gone already, its deletion raises. -/
theorem perform_deleteResources_of_absent
    (working : Working services) {session : Session}
    (roleGone : session.domain rolePath = none) :
    ∃ text,
      (deleteResources services settings).perform session =
        (.error
            (.exception ("Error 404 in deleting the pipeline role: " ++ text)),
          services.exchange session (deleteRequest [] rolePath)) := by
  have status := statusCode_of_absent working roleGone
  have refused := not_ok_of_absent working roleGone
  refine ⟨(services.reply session (deleteRequest [] rolePath)).text, ?_⟩
  rw [deleteResources, sendToOs_delete,
    perform_bind_of_ok
      (services.perform_send (deleteRequest [] rolePath) session)]
  apply perform_bind_of_error
  rw [requireOk, if_neg refused, perform_throw, status]
  rfl

/-! ## Deletions that carry the data of the creation -/

/-- An entry of the data, which names a saved object. -/
def Names (resource : JsonValue) (object : String × String) : Prop :=
  Python.subscript resource "type" = .ok (.string object.1) ∧
    Python.subscript resource "id" = .ok (.string object.2)

def objectPaths (objects : List (String × String)) : List String :=
  objects.map fun object => savedObjectPath object.1 object.2

omit [Jinja] in
theorem perform_deleteSavedObject
    {session : Session} {object : String × String}
    (ok :
      (services.reply session
        (deleteRequest dashboardHeaders
          (savedObjectPath object.1 object.2))).Ok) :
    (deleteSavedObject services "nested" (.string object.1)
        (.string object.2)).perform session =
      (.ok (),
        services.exchange session
          (deleteRequest dashboardHeaders
            (savedObjectPath object.1 object.2))) := by
  have sent :=
    services.perform_send
      (deleteRequest dashboardHeaders (savedObjectPath object.1 object.2))
      session
  rw [deleteSavedObject]
  simp only [Python.formatted, osResource, sendToOs_delete]
  rw [perform_bind_of_ok sent, requireOk, if_pos ok, perform_pure]

omit [Jinja] in
theorem perform_deleteSavedObjects
    {resources : List JsonValue} {objects : List (String × String)}
    (named : List.Forall₂ Names resources objects) {session : Session}
    (allOk :
      AllOk services session
        ((objectPaths objects).map (deleteRequest dashboardHeaders))) :
    (deleteSavedObjects services resources).perform session =
      (.ok (),
        services.exchangeAll session
          ((objectPaths objects).map (deleteRequest dashboardHeaders))) := by
  induction named generalizing session with
  | nil => rfl
  | cons names _ inductionHypothesis =>
      obtain ⟨hasType, hasId⟩ := names
      obtain ⟨firstOk, restOk⟩ := allOk
      rw [deleteSavedObjects, hasType, hasId]
      simp only [orRaise_ok, pure_bind]
      rw [perform_bind_of_ok (perform_deleteSavedObject firstOk)]
      exact inductionHypothesis restOk

/-- A request to delete the bootstrap with the data of its creation. -/
structure IsDeletionOf
    (event : JsonValue) (objects : List (String × String)) : Prop where
  requestType :
    Python.subscript event "RequestType" = .ok (.string "Delete")
  physicalId :
    ∃ id, Python.subscript event "PhysicalResourceId" = .ok id
  data :
    ∃ data resources,
      Python.subscript event "Data" = .ok data ∧
        Python.subscript data "Resources" = .ok (.array resources) ∧
        List.Forall₂ Names resources objects

/-- Then the deletion would do what it is for. -/
theorem perform_onEvent_of_data
    (working : Working services) {event : JsonValue}
    {objects : List (String × String)} (deletion : IsDeletionOf event objects)
    (adminCredentials : Credentials secrets settings.adminSecretArn admin)
    (userCredentials : Credentials secrets settings.userSecretArn account)
    (differentUsers : admin.username ≠ account.username)
    (differentObjects : (objectPaths objects).Nodup)
    {session : Session} (fit : HasSecrets secrets session)
    (complete :
      ∀ path ∈ createdPaths settings admin account ++ objectPaths objects,
        session.domain path ≠ none) :
    ∃ final,
      (onEvent services settings event).perform session = (.ok .null, final) ∧
        ∀ path,
          final.domain path =
            if path ∈ createdPaths settings admin account ++ objectPaths objects
            then none else session.domain path := by
  obtain ⟨id, hasId⟩ := deletion.physicalId
  obtain ⟨data, resources, hasData, hasResources, named⟩ := deletion.data
  obtain ⟨middle, deleted, _, domainBetween⟩ :=
    perform_deleteResources working adminCredentials userCredentials
      differentUsers fit
      fun path created => complete path (List.mem_append_left _ created)
  have objectsThere :
      ∀ path ∈ objectPaths objects, middle.domain path ≠ none := by
    intro path object
    have notCreated : path ∉ createdPaths settings admin account := by
      intro created
      obtain ⟨document, member, rfl⟩ := List.mem_map.1 created
      obtain ⟨named, _, same⟩ := List.mem_map.1 object
      apply kind_createdDocuments member
      rw [← same, kind_savedObjectPath]
    rw [domainBetween path, if_neg notCreated]
    exact complete path (List.mem_append_right _ object)
  obtain ⟨allOk, domainAfter⟩ :=
    delete_all working differentObjects objectsThere dashboardHeaders
  rw [onEvent_of_delete services settings deletion.requestType, onDelete,
    hasId, hasData]
  simp only [orRaise_ok, pure_bind, hasResources, Python.iterate]
  rw [perform_bind_of_ok deleted,
    perform_bind_of_ok (perform_deleteSavedObjects named allOk)]
  refine ⟨_, rfl, ?_⟩
  intro path
  rw [domainAfter]
  by_cases object : path ∈ objectPaths objects
  · simp [object]
  · simp [object, domainBetween]

end Working

end Bootstrap

end SparkObservability
