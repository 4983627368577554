import SparkObservability.Backend.Interplay

/-!
# What the data of a creation is for

A deletion that is given the data which the creation has returned removes
everything that the creation has put there, also when the passwords have been
rotated in between.
-/

namespace SparkObservability

namespace Domain

/-- An import changes the objects of its content only. -/
theorem importObjects_of_not_mem
    {path content : String} (notImported : path ∉ importedPaths content)
    (domain : Domain) :
    domain.importObjects content path = domain path := by
  rw [importedPaths] at notImported
  rw [importObjects]
  generalize savedObjects content = objects at notImported
  induction objects generalizing domain with
  | nil => rfl
  | cons object rest inductionHypothesis =>
      rw [List.map_cons, List.mem_cons, not_or] at notImported
      rw [List.foldl_cons, inductionHypothesis _ notImported.2,
        Function.update_of_ne notImported.1]

end Domain

namespace Bootstrap

open Domain Effect

/-! ## The results of an import -/

/-- The response names the objects that have been imported. -/
def Reports (response : Response) (objects : List (String × String)) : Prop :=
  ∃ body results,
    Python.loads response.text = .ok body ∧
      Python.subscript body "successResults" = .ok (.array results) ∧
      List.Forall₂ Names results objects

theorem subscript_eq_ok
    {value member : JsonValue} {key : String}
    (found : Python.subscript value key = .ok member) :
    ∃ members,
      value = .object members ∧ members.lookup key = some member := by
  cases value with
  | object members =>
      refine ⟨members, rfl, ?_⟩
      rw [Python.subscript] at found
      cases present : members.lookup key with
      | none =>
          rw [present] at found
          cases found
      | some other =>
          rw [present] at found
          cases found
          rfl
  | _ => cases found

theorem lookup_filter_of_ne
    {members : List (String × JsonValue)} {key dropped : String}
    (different : key ≠ dropped) :
    (members.filter fun member => member.1 ≠ dropped).lookup key =
      members.lookup key := by
  induction members with
  | nil => rfl
  | cons member rest inductionHypothesis =>
      rw [List.filter_cons]
      by_cases kept : member.1 ≠ dropped
      · rw [if_pos (decide_eq_true kept), List.lookup_cons, List.lookup_cons,
          inductionHypothesis]
      · have other : (key == member.1) = false := by
          rw [not_not.1 kept]
          exact beq_false_of_ne different
        rw [if_neg (by simpa using kept), List.lookup_cons, other,
          inductionHypothesis]

/-- Without another member the object still names the same thing. -/
theorem names_dropMember
    {result : JsonValue} {object : String × String}
    (names : Names result object) (key : String)
    (notType : "type" ≠ key) (notId : "id" ≠ key) :
    ∃ rest, dropMember key result = .ok rest ∧ Names rest object := by
  obtain ⟨hasType, hasId⟩ := names
  obtain ⟨members, rfl, typeFound⟩ := subscript_eq_ok hasType
  rw [dropMember, Python.contains]
  by_cases present : key ∈ members.map Prod.fst
  · refine
      ⟨.object (members.filter fun member => member.1 ≠ key), ?_, ?_, ?_⟩
    · simp only [present, decide_true, Python.delete, if_true]
      rfl
    · rw [Python.subscript, lookup_filter_of_ne notType, typeFound]
    · rw [Python.subscript, lookup_filter_of_ne notId]
      exact hasId
  · refine ⟨.object members, ?_, hasType, hasId⟩
    simp only [present, decide_false]
    rfl

theorem names_cleanResult
    {result : JsonValue} {object : String × String}
    (names : Names result object) :
    ∃ cleaned, cleanResult result = .ok cleaned ∧ Names cleaned object := by
  obtain ⟨withoutMeta, dropped, stillNames⟩ :=
    names_dropMember names "meta" (by decide) (by decide)
  obtain ⟨cleaned, droppedToo, namesAfter⟩ :=
    names_dropMember stillNames "overwrite" (by decide) (by decide)
  refine ⟨cleaned, ?_, namesAfter⟩
  rw [cleanResult, dropped]
  exact droppedToo

theorem names_mapM_cleanResult
    {results : List JsonValue} {objects : List (String × String)}
    (named : List.Forall₂ Names results objects) :
    ∃ cleaned,
      results.mapM cleanResult = .ok cleaned ∧
        List.Forall₂ Names cleaned objects := by
  induction named with
  | nil => exact ⟨[], rfl, .nil⟩
  | cons names _ inductionHypothesis =>
      obtain ⟨first, firstCleaned, firstNames⟩ := names_cleanResult names
      obtain ⟨rest, restCleaned, restNames⟩ := inductionHypothesis
      refine ⟨first :: rest, ?_, .cons firstNames restNames⟩
      rw [List.mapM_cons, firstCleaned, restCleaned]
      rfl

/-- What the creation returns names the objects that have been imported. -/
theorem creationResult_of_reports
    {response : Response} {objects : List (String × String)}
    (reports : Reports response objects) :
    ∃ resources,
      creationResult response =
          .object [("Data", .object [("Resources", .array resources)])] ∧
        List.Forall₂ Names resources objects := by
  obtain ⟨body, results, loaded, found, named⟩ := reports
  obtain ⟨cleaned, mapped, stillNamed⟩ := names_mapM_cleanResult named
  have imported : importedResources response = .ok (.array cleaned) := by
    rw [importedResources, loaded]
    change
      (Python.subscript body "successResults" >>= fun results =>
        cleanResults results) =
        _
    rw [found]
    change cleanResults (.array results) = _
    rw [cleanResults]
    change
      (results.mapM cleanResult >>= fun cleaned =>
        pure (JsonValue.array cleaned)) =
        _
    rw [mapped]
    rfl
  refine ⟨cleaned, ?_, stillNamed⟩
  rw [creationResult, imported]

/-- A request to delete the bootstrap with what its creation returned. -/
structure IsDeletionWith (event value : JsonValue) : Prop where
  requestType :
    Python.subscript event "RequestType" = .ok (.string "Delete")
  physicalId :
    ∃ id, Python.subscript event "PhysicalResourceId" = .ok id
  data :
    ∃ data,
      Python.subscript value "Data" = .ok data ∧
        Python.subscript event "Data" = .ok data

theorem isDeletionOf_of_reports
    {response : Response} {objects : List (String × String)}
    (reports : Reports response objects) {event : JsonValue}
    (deletion : IsDeletionWith event (creationResult response)) :
    IsDeletionOf event objects where
  requestType := deletion.requestType
  physicalId := deletion.physicalId
  data := by
    obtain ⟨data, returned, carried⟩ := deletion.data
    obtain ⟨resources, shape, named⟩ := creationResult_of_reports reports
    rw [shape] at returned
    cases returned
    exact ⟨_, resources, carried, rfl, named⟩

end Bootstrap

/-! ## There and back -/

section RoundTrip

open Bootstrap Rotation Services Machine Domain

variable [PythonLibrary]

/-- What is there after a complete creation. -/
structure Created
    (settings : BootstrapSettings) (admin user : Account)
    (world later : World) : Prop where
  present :
    ∀ path,
      path ∈ createdPaths settings admin user ∨
          path ∈ importedPaths settings.resources.dataSkew →
        later.domain path ≠ none
  elsewhere :
    ∀ path,
      ¬ (path ∈ createdPaths settings admin user ∨
          path ∈ importedPaths settings.resources.dataSkew) →
        later.domain path = world.domain path
  reading : later.secrets.reading = world.secrets.reading

variable [Jinja] {settings : BootstrapSettings}
  {world : World} {admin user : Account}

/-- A creation returns a result, and after some rotations a deletion removes
what the creation has put, and nothing else. -/
structure Undoes
    (settings : BootstrapSettings) (admin user : Account) (world : World)
    (creation : BootstrapInvocation) (rotations : List RotationInvocation)
    (deletion : BootstrapInvocation) (result : JsonValue) : Prop where
  created :
    (backendMachine settings).output world (.inl creation) =
      .inl (.ok result)
  deleted :
    (backendMachine settings).output
        ((backendMachine settings).after world
          (.inl creation :: rotations.map .inr))
        (.inl deletion) =
      .inl (.ok .null)
  domain :
    ∀ path,
      ((backendMachine settings).after world
          (.inl creation :: rotations.map .inr ++ [.inl deletion])).domain
          path =
        if path ∈ createdPaths settings admin user ∨
            path ∈ importedPaths settings.resources.dataSkew then
          none
        else
          world.domain path

theorem Created.rotated
    {later : World} (created : Created settings admin user world later)
    (rotations : List RotationInvocation) :
    Created settings admin user world
      ((backendMachine settings).after later (rotations.map Sum.inr)) := by
  induction rotations generalizing later with
  | nil => exact created
  | cons rotation rest inductionHypothesis =>
      have sameDomain := domain_next later rotation
      rw [List.map_cons, after_cons]
      apply inductionHypothesis
      constructor
      · intro path member
        change (rotationMachine.next later rotation).domain path ≠ none
        rw [sameDomain]
        exact created.present path member
      · intro path notMember
        change (rotationMachine.next later rotation).domain path = _
        rw [sameDomain]
        exact created.elsewhere path notMember
      · exact (reading_next later rotation).trans created.reading

omit [Jinja] in
variable (settings admin user) in
/-- Where a complete creation has put nothing, nothing has changed. -/
theorem domain_exchangeAll_of_not_mem
    {services : Services} {responses : Nat → Response}
    (scripted : services.Scripted responses)
    (ok : ∀ number < 8, (responses number).Ok) {session : Session}
    (fresh : session.exchanges = []) {path : String}
    (notCreated : path ∉ createdPaths settings admin user)
    (notImported : path ∉ importedPaths settings.resources.dataSkew) :
    (services.exchangeAll session
        (creationRequests settings admin user ++
          [importRequest settings.resources])).domain path =
      session.domain path := by
  have allOk := ok_of_fresh settings admin user ok fresh
  rw [domain_exchangeAll scripted allOk, List.foldl_append, List.foldl_cons,
    List.foldl_nil, serve_importRequest, importObjects_of_not_mem notImported]
  exact foldl_serve_of_not_mem notCreated session.domain

section Credentials

variable (adminCredentials :
    Credentials world.secrets settings.adminSecretArn admin)
  (userCredentials : Credentials world.secrets settings.userSecretArn user)
  (differentUsers : admin.username ≠ user.username)

include adminCredentials userCredentials differentUsers

theorem created_of_answered
    (lawful : Jinja.Lawful)
    (plainRole : IsPlainText settings.pipelineIamRole)
    {creation : BootstrapInvocation} {responses : Nat → Response}
    (scripted : creation.services.Scripted responses)
    (deploys : IsDeployment creation.event) (roleOk : (responses 0).Ok)
    (answered : OthersAnswered creation.services responses) :
    (bootstrapMachine settings).output world creation =
        .ok (creationResult (responses 7)) ∧
      Created settings admin user world
        ((bootstrapMachine settings).next world creation) := by
  have ok := answered.ok_of_role roleOk
  have returns :=
    perform_onEvent_of_answered lawful scripted plainRole adminCredentials
      userCredentials deploys answered
  have step := bootstrapMachine_step creation returns
  have succeeded :
      (bootstrapMachine settings).output world creation =
        .ok (creationResult (responses 7)) :=
    congrArg Prod.snd step
  have requestType :
      Python.subscript creation.event "RequestType" = .ok (.string "Create") ∨
        Python.subscript creation.event "RequestType" =
          .ok (.string "Update") :=
    deploys.requestType.imp_right And.left
  have objects := hasObjects_next requestType succeeded
  have unchanged :
      ((bootstrapMachine settings).next world creation).secrets =
        world.secrets :=
    secrets_next world creation
  refine ⟨succeeded, ?_, ?_, congrArg SecretsManager.reading unchanged⟩
  · rintro path (created | imported)
    · obtain ⟨document, listed, rfl⟩ := List.mem_map.1 created
      rw [next, step]
      exact
        (complete_of_answered scripted ok differentUsers rfl listed).trans_ne
          (Option.some_ne_none _)
    · exact objects path imported
  · intro path notMember
    obtain ⟨notCreated, notImported⟩ := not_or.1 notMember
    rw [next, step]
    exact
      domain_exchangeAll_of_not_mem settings admin user scripted ok rfl
        notCreated notImported

theorem removed_of_created
    {later : World} (created : Created settings admin user world later)
    {deletion : BootstrapInvocation} {objects : List (String × String)}
    (deletes : IsDeletionOf deletion.event objects)
    (differentObjects : (objectPaths objects).Nodup)
    (imported :
      ∀ path,
        path ∈ objectPaths objects ↔
          path ∈ importedPaths settings.resources.dataSkew)
    (working : Working deletion.services) :
    (bootstrapMachine settings).output later deletion = .ok .null ∧
      ∀ path,
        ((bootstrapMachine settings).next later deletion).domain path =
          if path ∈ createdPaths settings admin user ∨
              path ∈ importedPaths settings.resources.dataSkew then
            none
          else
            world.domain path := by
  have fit : HasSecrets later.secrets later.session := rfl
  have complete :
      ∀ path ∈ createdPaths settings admin user ++ objectPaths objects,
        later.session.domain path ≠ none := by
    intro path member
    rw [List.mem_append, imported] at member
    exact created.present path member
  obtain ⟨final, deleted, domainAfter⟩ :=
    perform_onEvent_of_data working deletes
      (adminCredentials.of_reading created.reading)
      (userCredentials.of_reading created.reading) differentUsers
      differentObjects fit complete
  have step := bootstrapMachine_step deletion deleted
  refine ⟨congrArg Prod.snd step, ?_⟩
  intro path
  rw [next, step]
  refine (domainAfter path).trans ?_
  simp only [List.mem_append, imported]
  by_cases member :
      path ∈ createdPaths settings admin user ∨
        path ∈ importedPaths settings.resources.dataSkew
  · rw [if_pos member, if_pos member]
  · rw [if_neg member, if_neg member]
    exact created.elsewhere path member

/-- A deletion with the result of the creation undoes the creation. -/
theorem deletion_undoes_creation
    (lawful : Jinja.Lawful)
    (plainRole : IsPlainText settings.pipelineIamRole)
    {creation deletion : BootstrapInvocation} {responses : Nat → Response}
    (scripted : creation.services.Scripted responses)
    (deploys : IsDeployment creation.event) (roleOk : (responses 0).Ok)
    (answered : OthersAnswered creation.services responses)
    {objects : List (String × String)}
    (reports : Reports (responses 7) objects)
    (differentObjects : (objectPaths objects).Nodup)
    (imported :
      ∀ path,
        path ∈ objectPaths objects ↔
          path ∈ importedPaths settings.resources.dataSkew)
    (rotations : List RotationInvocation)
    (deletes : IsDeletionWith deletion.event (creationResult (responses 7)))
    (working : Working deletion.services) :
    Undoes settings admin user world creation rotations deletion
      (creationResult (responses 7)) := by
  obtain ⟨succeeded, created⟩ :=
    created_of_answered adminCredentials userCredentials differentUsers lawful
      plainRole scripted deploys roleOk answered
  obtain ⟨deleted, domainAfter⟩ :=
    removed_of_created adminCredentials userCredentials differentUsers
      (created.rotated rotations) (isDeletionOf_of_reports reports deletes)
      differentObjects imported working
  refine ⟨congrArg Sum.inl succeeded, congrArg Sum.inl deleted, ?_⟩
  intro path
  rw [after_append]
  exact domainAfter path

end Credentials

end RoundTrip

section Example

open Bootstrap Domain

/-- The saved object of the deployment. -/
def dataSkewObject : String × String :=
  ("search", "33ca7a70-1cb5-11ee-8980-5f1aaf1f028d")

theorem importedPaths_deployedSettings :
    importedPaths deployedSettings.resources.dataSkew =
      objectPaths [dataSkewObject] := by
  decide +kernel

theorem reports_accepted : Reports (accepted 7) [dataSkewObject] :=
  ⟨importResults, _, loads_importResults, rfl, .cons ⟨rfl, rfl⟩ .nil⟩

/-- A deletion with the data of the creation. -/
def deleteEventWithData : JsonValue :=
  .object
    [("RequestType", .string "Delete"),
      ("PhysicalResourceId", .string "bootstrap"),
      ("Data",
        .object
          [("Resources",
            .array
              [.object
                [("type", .string dataSkewObject.1),
                  ("id", .string dataSkewObject.2)]])])]

def deletionWithData : BootstrapInvocation :=
  ⟨deleteEventWithData, workingServices⟩

theorem deleteEventWithData_isDeletionWith :
    IsDeletionWith deleteEventWithData (creationResult (accepted 7)) where
  requestType := rfl
  physicalId := ⟨_, rfl⟩
  data := by
    have imported :
        importedResources (accepted 7) =
          .ok
            (.array
              [.object
                [("type", .string dataSkewObject.1),
                  ("id", .string dataSkewObject.2)]]) := by
      rw [importedResources, accepted, loads_importResults]
      rfl
    rw [creationResult, imported]
    exact ⟨_, rfl, rfl⟩

theorem deletion_undoes_creation_rotated :
    letI := plainPython
    letI := plainJinja
    Undoes deployedSettings adminAccount dashboardAccount rotatingWorld
      creation [userAttempt "createSecret" "third"] deletionWithData
      (creationResult (accepted 7)) :=
  letI := plainPython
  letI := plainJinja
  have scripted : creation.services.Scripted accepted :=
    scripted_answering accepted
  have deletes :
      IsDeletionWith deletionWithData.event (creationResult (accepted 7)) :=
    deleteEventWithData_isDeletionWith
  have working : Working deletionWithData.services := working_workingServices
  deletion_undoes_creation credentials_rotatingWorld.1
    credentials_rotatingWorld.2 adminAccount_ne_dashboardAccount
    lawful_plainJinja (by decide +kernel) scripted createEvent_isDeployment
    (by decide +kernel) (othersAnswered_answering fun _ _ => rfl)
    reports_accepted (List.nodup_singleton _)
    (fun path => by rw [importedPaths_deployedSettings])
    [userAttempt "createSecret" "third"] deletes working

end Example

end SparkObservability
