import SparkObservability.Bootstrap.Footprint
import SparkObservability.Bootstrap.LifeCycle
import SparkObservability.Interleaving
import SparkObservability.Rotation.Footprint
import SparkObservability.Stack.Passwords

/-!
# Bootstrap and rotation side by side

The two functions work on the same secrets and on the same domain, and nothing
keeps their invocations in order.  Neither notices the other, the documents of
the bootstrap are never replaced by others, and one complete deployment makes
up for whatever has happened before it.
-/

namespace SparkObservability

open Bootstrap Rotation Services Machine Domain

variable [PythonLibrary]

theorem Credentials.of_reading
    {secrets later : SecretsManager} {arn : String} {account : Account}
    (credentials : Credentials secrets arn account)
    (same : later.reading = secrets.reading) :
    Credentials later arn account where
  stored := by
    obtain ⟨members, isRead, name, word⟩ :=
      reading_of_credentials credentials
    rw [← same, SecretsManager.reading] at isRead
    cases stored : later.getSecretValue arn none none with
    | error error =>
        rw [stored] at isRead
        cases isRead
    | ok value =>
        rw [stored] at isRead
        exact ⟨value, members, rfl, isRead, name, word⟩
  plain := credentials.plain

variable [Jinja]

/-- The secrets and the domain, and both functions at work on them. -/
def backendMachine (settings : BootstrapSettings) :
    Machine World (BootstrapInvocation ⊕ RotationInvocation)
      (Except PyException JsonValue ⊕ Except PyException Unit) :=
  (bootstrapMachine settings).pair rotationMachine

variable (settings : BootstrapSettings)

/-! ## Single invocations -/

section Steps

variable {settings}

/-- A deployment leaves the secrets alone and serves permitted requests. -/
theorem serves_of_permits
    {allowed : Request → Prop} {world : World}
    (permits : Permits settings world.secrets.reading allowed)
    (invocation : BootstrapInvocation) :
    ((bootstrapMachine settings).next world invocation).secrets =
        world.secrets ∧
      ∃ served : List Request,
        (∀ request ∈ served, allowed request) ∧
          ((bootstrapMachine settings).next world invocation).domain =
            served.foldl Domain.serve world.domain :=
  (asks_onEvent permits invocation.event).serves world.session rfl

theorem secrets_next (world : World) (invocation : BootstrapInvocation) :
    ((bootstrapMachine settings).next world invocation).secrets =
      world.secrets :=
  (serves_of_permits (permits_all _) invocation).1

/-- What the bootstrap can see of two worlds is the same. -/
def SameToBootstrap (world other : World) : Prop :=
  world.secrets.reading = other.secrets.reading ∧ world.domain = other.domain

theorem sameToBootstrap_step
    {world other : World} (same : SameToBootstrap world other)
    (invocation : BootstrapInvocation) :
    SameToBootstrap ((bootstrapMachine settings).next world invocation)
        ((bootstrapMachine settings).next other invocation) ∧
      (bootstrapMachine settings).output world invocation =
        (bootstrapMachine settings).output other invocation := by
  have alike : LooksLike world.session other.session :=
    ⟨same.1, same.2, rfl, rfl⟩
  obtain ⟨sameOutcome, alikeAfter⟩ :=
    (asks_onEvent (permits_all _) invocation.event).indistinct _ _ rfl alike
  exact ⟨⟨alikeAfter.reading, alikeAfter.domain⟩, sameOutcome⟩

/-- No invocation changes what is read of a secret. -/
theorem reading_backend_next
    (world : World) (invocation : BootstrapInvocation ⊕ RotationInvocation) :
    ((backendMachine settings).next world invocation).secrets.reading =
      world.secrets.reading := by
  cases invocation with
  | inl deployment =>
      exact congrArg SecretsManager.reading (secrets_next world deployment)
  | inr rotation => exact reading_next world rotation

end Steps

/-! ## Neither function notices the other -/

/-- What an interleaving of invocations comes to. -/
structure RunsApart
    (world : World)
    (invocations : List (BootstrapInvocation ⊕ RotationInvocation)) :
    Prop where
  domain :
    ((backendMachine settings).after world invocations).domain =
      ((bootstrapMachine settings).after world
        (invocations.filterMap Sum.getLeft?)).domain
  secrets :
    ((backendMachine settings).after world invocations).secrets =
      (rotationMachine.after world
        (invocations.filterMap Sum.getRight?)).secrets
  deployments :
    ((backendMachine settings).outputs world invocations).filterMap
        Sum.getLeft? =
      (bootstrapMachine settings).outputs world
        (invocations.filterMap Sum.getLeft?)
  rotations :
    ((backendMachine settings).outputs world invocations).filterMap
        Sum.getRight? =
      rotationMachine.outputs world (invocations.filterMap Sum.getRight?)

/-- Each function gives the answers and leaves behind what it would without
the other, whatever the order of the invocations is. -/
theorem functions_run_apart
    (world : World)
    (invocations : List (BootstrapInvocation ⊕ RotationInvocation)) :
    RunsApart settings world invocations := by
  have bootstrapPart :
      IsPart (backendMachine settings) (bootstrapMachine settings)
        Sum.getLeft? Sum.getLeft? SameToBootstrap := by
    apply isPart_pair_left
    · intro state other deployment same
      exact sameToBootstrap_step same deployment
    · intro state other rotation same
      exact
        ⟨(reading_next state rotation).trans same.1,
          (domain_next state rotation).trans same.2⟩
  have rotationPart :
      IsPart (backendMachine settings) rotationMachine
        Sum.getRight? Sum.getRight?
        (fun state other => state.secrets = other.secrets) := by
    apply isPart_pair_right
    · intro state other rotation same
      exact (step_of_sameSecrets same rotation).symm
    · intro state other deployment same
      exact (secrets_next state deployment).trans same
  obtain ⟨sameToBootstrap, deployments⟩ :=
    bootstrapPart.run ⟨rfl, rfl⟩ invocations
  obtain ⟨sameSecrets, rotations⟩ := rotationPart.run rfl invocations
  exact ⟨sameToBootstrap.2, sameSecrets, deployments, rotations⟩

/-! ## The domain stays intact -/

section Intact

variable {settings} {world : World} {admin user : Account}

variable (settings world) in
theorem reading_after
    (invocations : List (BootstrapInvocation ⊕ RotationInvocation)) :
    ((backendMachine settings).after world invocations).secrets.reading =
      world.secrets.reading := by
  apply
    (backendMachine settings).after_invariant
      (motive := fun later =>
        later.secrets.reading = world.secrets.reading)
  · intro later invocation same
    exact (reading_backend_next later invocation).trans same
  · rfl

omit [Jinja] in
theorem intact_foldl
    {initial domain : Domain} {served : List Request}
    (keeps :
      ∀ request ∈ served, KeepsIntact settings admin user initial request)
    (intact : Intact settings admin user initial domain) :
    Intact settings admin user initial
      (served.foldl Domain.serve domain) := by
  induction served generalizing domain with
  | nil => exact intact
  | cons request rest inductionHypothesis =>
      exact
        inductionHypothesis
          (fun other inRest => keeps other (List.mem_cons_of_mem _ inRest))
          (keeps request (List.Mem.head _) domain intact)

variable (lawful : Jinja.Lawful)
  (plainRole : IsPlainText settings.pipelineIamRole)
  (adminCredentials :
    Credentials world.secrets settings.adminSecretArn admin)
  (userCredentials : Credentials world.secrets settings.userSecretArn user)

include lawful plainRole adminCredentials userCredentials

theorem intact_after
    (invocations : List (BootstrapInvocation ⊕ RotationInvocation)) :
    Intact settings admin user world.domain
      ((backendMachine settings).after world invocations).domain := by
  have invariant :
      Intact settings admin user world.domain
          ((backendMachine settings).after world invocations).domain ∧
        ((backendMachine settings).after world invocations).secrets.reading =
          world.secrets.reading := by
    apply
      (backendMachine settings).after_invariant
        (motive := fun later =>
          Intact settings admin user world.domain later.domain ∧
            later.secrets.reading = world.secrets.reading)
    · rintro later invocation ⟨intact, same⟩
      refine ⟨?_, (reading_backend_next later invocation).trans same⟩
      cases invocation with
      | inl deployment =>
          have permits :
              Permits settings later.secrets.reading
                (KeepsIntact settings admin user world.domain) :=
            permits_keepsIntact lawful plainRole
              (adminCredentials.of_reading same)
              (userCredentials.of_reading same)
          obtain ⟨_, served, keeps, domainAfter⟩ :=
            serves_of_permits permits deployment
          change
            Intact settings admin user world.domain
              ((bootstrapMachine settings).next later deployment).domain
          rw [domainAfter]
          exact intact_foldl keeps intact
      | inr rotation =>
          change
            Intact settings admin user world.domain
              (rotationMachine.next later rotation).domain
          rw [domain_next]
          exact intact
    · exact ⟨fun _ _ => Or.inl rfl, rfl⟩
  exact invariant.1

end Intact

/-! ## What the backend writes -/

/-- What can have become of the domain. -/
structure WritesOnlyItsDocuments
    (settings : BootstrapSettings) (admin user : Account)
    (initial domain : Domain) : Prop where
  document :
    ∀ document ∈ createdDocuments settings admin user,
      domain document.1 = initial document.1 ∨
        domain document.1 = none ∨ domain document.1 = some document.2
  elsewhere :
    ∀ path, kind path ≠ ['_', 'd'] → path ∉ createdPaths settings admin user →
      domain path = initial path

section Writes

variable {settings} {world : World} {admin user : Account}

omit [Jinja] in
/-- The path of a document determines it. -/
theorem document_of_path
    (differentUsers : admin.username ≠ user.username)
    {document other : String × JsonValue}
    (created : document ∈ createdDocuments settings admin user)
    (otherCreated : other ∈ createdDocuments settings admin user)
    (samePath : other.1 = document.1) :
    other = document :=
  List.inj_on_of_nodup_map (nodup_createdDocuments settings differentUsers)
    otherCreated created samePath

omit [Jinja] in
theorem writesOnlyItsDocuments_of_intact
    (differentUsers : admin.username ≠ user.username)
    {initial domain : Domain}
    (intact : Intact settings admin user initial domain) :
    WritesOnlyItsDocuments settings admin user initial domain where
  document document created := by
    rcases intact document.1 (kind_createdDocuments created) with
      same | ⟨_, absent⟩ | ⟨other, otherCreated, samePath, present⟩
    · exact Or.inl same
    · exact Or.inr (Or.inl absent)
    · have same :=
        document_of_path differentUsers created otherCreated samePath
      subst same
      exact Or.inr (Or.inr present)
  elsewhere path notObject notCreated := by
    rcases intact path notObject with
      same | ⟨created, _⟩ | ⟨other, otherCreated, samePath, _⟩
    · exact same
    · exact absurd created notCreated
    · subst samePath
      exact absurd (List.mem_map_of_mem otherCreated) notCreated

variable (lawful : Jinja.Lawful)
  (plainRole : IsPlainText settings.pipelineIamRole)
  (adminCredentials :
    Credentials world.secrets settings.adminSecretArn admin)
  (userCredentials : Credentials world.secrets settings.userSecretArn user)
  (differentUsers : admin.username ≠ user.username)

include lawful plainRole adminCredentials userCredentials differentUsers

/-- Whatever the services answer and whichever requests are made, a path of
the bootstrap never gets a document that is not meant for it, and nothing
changes elsewhere. -/
theorem backend_writes_only_its_documents
    (invocations : List (BootstrapInvocation ⊕ RotationInvocation)) :
    WritesOnlyItsDocuments settings admin user world.domain
      ((backendMachine settings).after world invocations).domain :=
  writesOnlyItsDocuments_of_intact differentUsers
    (intact_after lawful plainRole adminCredentials userCredentials
      invocations)

end Writes

/-- The secret of an account whose rotation has been announced. -/
def Account.announced (account : Account) : Secret where
  rotationEnabled := some true
  versions :=
    [("v1",
        ⟨some (.string (Json.write (.object account.members))),
          ["AWSCURRENT"]⟩),
      ("v2", ⟨none, ["AWSPENDING"]⟩)]
  distinct := by simp

/-- The user's secret is about to be rotated. -/
def rotatingWorld : World where
  secrets arn :=
    if arn = "admin-secret" then some adminAccount.secret
    else if arn = "user-secret" then some dashboardAccount.announced
    else none
  domain _ := none

/-- An incomplete creation, an attempt to rotate, and a deletion. -/
def disturbances : List (BootstrapInvocation ⊕ RotationInvocation) :=
  [.inl ⟨createEvent, answering roleRefused⟩,
    .inr (userAttempt "createSecret" "third"),
    .inl ⟨deleteEvent, workingServices⟩]

omit [Jinja] in
theorem credentials_rotatingWorld :
    Credentials rotatingWorld.secrets "admin-secret" adminAccount ∧
      Credentials rotatingWorld.secrets "user-secret" dashboardAccount :=
  ⟨OpensearchSecret.credentials_of_isGenerated (by decide) rfl,
    ⟨⟨_, _, rfl, dashboardAccount.parseSecret_members, rfl,
      dashboardAccount.lookup_password⟩, by decide⟩⟩

omit [PythonLibrary] [Jinja] in
theorem backend_writes_only_its_documents_disturbed :
    letI := plainPython
    letI := plainJinja
    WritesOnlyItsDocuments deployedSettings adminAccount dashboardAccount
      rotatingWorld.domain
      ((backendMachine deployedSettings).after rotatingWorld
        disturbances).domain :=
  letI := plainPython
  letI := plainJinja
  backend_writes_only_its_documents lawful_plainJinja (by decide +kernel)
    credentials_rotatingWorld.1 credentials_rotatingWorld.2
    adminAccount_ne_dashboardAccount disturbances

/-! ## One complete deployment -/

/-- Everything is deployed, and nothing else has changed. -/
structure Deployed
    (settings : BootstrapSettings) (admin user : Account)
    (initial : Domain) (later : World) : Prop where
  documents :
    ∀ document ∈ createdDocuments settings admin user,
      later.domain document.1 = some document.2
  objects : later.HasObjects settings
  elsewhere :
    ∀ path, kind path ≠ ['_', 'd'] → path ∉ createdPaths settings admin user →
      later.domain path = initial path

section Recovery

variable {settings} {world : World} {admin user : Account}

variable (lawful : Jinja.Lawful)
  (plainRole : IsPlainText settings.pipelineIamRole)
  (adminCredentials :
    Credentials world.secrets settings.adminSecretArn admin)
  (userCredentials : Credentials world.secrets settings.userSecretArn user)
  (differentUsers : admin.username ≠ user.username)

include lawful plainRole adminCredentials userCredentials differentUsers

/-- A deployment whose requests are all answered with success makes up for
whatever has happened before it. -/
theorem deployment_makes_up
    (invocations : List (BootstrapInvocation ⊕ RotationInvocation))
    {deployment : BootstrapInvocation} {responses : Nat → Response}
    (scripted : deployment.services.Scripted responses)
    (deploys : IsDeployment deployment.event) (roleOk : (responses 0).Ok)
    (answered : OthersAnswered deployment.services responses) :
    ∃ value,
      (backendMachine settings).output
          ((backendMachine settings).after world invocations)
          (.inl deployment) =
        .inl (.ok value) ∧
      Deployed settings admin user world.domain
        ((backendMachine settings).after world
          (invocations ++ [.inl deployment])) := by
  have sameReading := reading_after settings world invocations
  obtain ⟨value, final, returns, _, documents⟩ :=
    onEvent_of_answered lawful scripted plainRole
      (adminCredentials.of_reading sameReading)
      (userCredentials.of_reading sameReading) differentUsers deploys roleOk
      answered
  have step := bootstrapMachine_step deployment returns
  have requestType :
      Python.subscript deployment.event "RequestType" =
          .ok (.string "Create") ∨
        Python.subscript deployment.event "RequestType" =
          .ok (.string "Update") :=
    deploys.requestType.imp_right And.left
  have succeeded :
      (bootstrapMachine settings).output
          ((backendMachine settings).after world invocations) deployment =
        .ok value :=
    congrArg Prod.snd step
  have reached :
      (backendMachine settings).after world
          (invocations ++ [.inl deployment]) =
        (bootstrapMachine settings).next
          ((backendMachine settings).after world invocations) deployment := by
    rw [after_append]
    rfl
  have intact :=
    intact_after lawful plainRole adminCredentials userCredentials
      (invocations ++ [.inl deployment])
  refine ⟨value, congrArg Sum.inl succeeded, ?_, ?_, ?_⟩
  · intro document created
    rw [reached, next, step]
    exact documents document created
  · rw [reached]
    exact hasObjects_next requestType succeeded
  · exact (writesOnlyItsDocuments_of_intact differentUsers intact).elsewhere

end Recovery

omit [PythonLibrary] [Jinja] in
theorem deployment_makes_up_disturbed :
    letI := plainPython
    letI := plainJinja
    ∃ value,
      (backendMachine deployedSettings).output
          ((backendMachine deployedSettings).after rotatingWorld disturbances)
          (.inl creation) =
        .inl (.ok value) ∧
      Deployed deployedSettings adminAccount dashboardAccount
        rotatingWorld.domain
        ((backendMachine deployedSettings).after rotatingWorld
          (disturbances ++ [.inl creation])) :=
  letI := plainPython
  letI := plainJinja
  deployment_makes_up lawful_plainJinja (by decide +kernel)
    credentials_rotatingWorld.1 credentials_rotatingWorld.2
    adminAccount_ne_dashboardAccount disturbances
    (scripted_answering accepted) createEvent_isDeployment (by decide +kernel)
    (othersAnswered_answering fun _ _ => rfl)

end SparkObservability
