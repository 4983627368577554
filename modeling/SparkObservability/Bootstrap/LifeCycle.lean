import SparkObservability.Bootstrap.Deletion
import SparkObservability.Bootstrap.Soundness

/-!
# What is left of a bootstrap

The first deletion raises once the resources other than the saved objects are
gone; a retried one already raises at the first request, for a role that is no
longer there.
-/

namespace SparkObservability

/-! ## Runs of deletions -/

section Runs

open Bootstrap Effect Domain

variable [PythonLibrary] [Jinja] {settings : BootstrapSettings} {world : World}

/-- The world without the resources that need no event to be deleted. -/
def World.without (world : World) (paths : List String) : World where
  secrets := world.secrets
  domain path := if path ∈ paths then none else world.domain path

theorem bootstrapMachine_step
    (invocation : BootstrapInvocation) {outcome : Except PyException JsonValue}
    {final : Session}
    (ends :
      (onEvent invocation.services settings invocation.event).perform
          world.session =
        (outcome, final)) :
    (bootstrapMachine settings).step world invocation =
      (final.world, outcome) := by
  rw [bootstrapMachine]
  simp only [ends]

theorem perform_of_output
    {invocation : BootstrapInvocation} {outcome : Except PyException JsonValue}
    (ends : (bootstrapMachine settings).output world invocation = outcome) :
    ∃ final,
      (onEvent invocation.services settings invocation.event).perform
            world.session =
          (outcome, final) ∧
        (bootstrapMachine settings).next world invocation = final.world := by
  rcases shape :
      (onEvent invocation.services settings invocation.event).perform
        world.session with
    ⟨result, final⟩
  have step := bootstrapMachine_step invocation shape
  rw [Machine.output, step] at ends
  cases ends
  exact ⟨final, rfl, by rw [Machine.next, step]⟩

/-- A creation with all requests answered with success. -/
theorem complete_creation
    {invocation : BootstrapInvocation} {responses : Nat → Response}
    (lawful : Jinja.Lawful)
    (scripted : invocation.services.Scripted responses)
    (plainRole : IsPlainText settings.pipelineIamRole) {admin user : Account}
    (adminCredentials :
      Credentials world.secrets settings.adminSecretArn admin)
    (userCredentials : Credentials world.secrets settings.userSecretArn user)
    (differentUsers : admin.username ≠ user.username)
    (deployment : IsDeployment invocation.event) (roleOk : (responses 0).Ok)
    (answered : OthersAnswered invocation.services responses) :
    ∃ value later,
      (bootstrapMachine settings).step world invocation = (later, .ok value) ∧
        later.secrets = world.secrets ∧
        ∀ path ∈ createdPaths settings admin user,
          later.domain path ≠ none := by
  obtain ⟨value, final, returns, sameSecrets, complete⟩ :=
    onEvent_of_answered lawful scripted plainRole adminCredentials
      userCredentials differentUsers deployment roleOk answered
  refine
    ⟨value, final.world, bootstrapMachine_step _ returns, sameSecrets, ?_⟩
  intro path created absent
  obtain ⟨document, member, rfl⟩ := List.mem_map.1 created
  exact
    Option.some_ne_none _ ((complete document member).symm.trans absent)

/-- The first deletion stops where it looks for the saved objects. -/
theorem first_deletion
    {invocation : BootstrapInvocation}
    (deletion : IsDeletion invocation.event)
    (working : Working invocation.services) {admin user : Account}
    (adminCredentials :
      Credentials world.secrets settings.adminSecretArn admin)
    (userCredentials : Credentials world.secrets settings.userSecretArn user)
    (differentUsers : admin.username ≠ user.username)
    (complete :
      ∀ path ∈ createdPaths settings admin user, world.domain path ≠ none) :
    (bootstrapMachine settings).step world invocation =
      (world.without (createdPaths settings admin user),
        .error (.keyError "Data")) := by
  have fit : HasSecrets world.secrets world.session := rfl
  obtain ⟨final, deleted, sameSecrets, domainAfter⟩ :=
    perform_deleteResources working adminCredentials userCredentials
      differentUsers fit complete
  have ends :
      (onEvent invocation.services settings invocation.event).perform
          world.session =
        (.error (.keyError "Data"), final) := by
    rw [onEvent_of_deletion _ _ deletion, perform_bind_of_ok deleted,
      perform_throw]
  rw [bootstrapMachine_step _ ends, Session.world, World.without, sameSecrets,
    funext domainAfter]
  rfl

/-- A retried deletion stops at the first request. -/
theorem retried_deletion
    {invocation : BootstrapInvocation}
    (deletion : IsDeletion invocation.event)
    (working : Working invocation.services)
    (roleGone : world.domain rolePath = none) :
    ∃ text,
      (bootstrapMachine settings).step world invocation =
        (world,
          .error
            (.exception
              ("Error 404 in deleting the pipeline role: " ++ text))) := by
  have roleAbsent : world.session.domain rolePath = none := roleGone
  obtain ⟨text, raises⟩ :=
    perform_deleteResources_of_absent settings working roleAbsent
  have ends :
      (onEvent invocation.services settings invocation.event).perform
          world.session =
        (.error
            (.exception ("Error 404 in deleting the pipeline role: " ++ text)),
          invocation.services.exchange world.session
            (deleteRequest [] rolePath)) := by
    rw [onEvent_of_deletion _ _ deletion, perform_bind_of_error raises]
  refine ⟨text, ?_⟩
  rw [bootstrapMachine_step _ ends, Session.world,
    invocation.services.domain_exchange_of_not_ok
      (not_ok_of_absent working roleAbsent)]
  rfl

/-- From then on, nothing changes any more. -/
theorem retried_deletions
    {retries : List BootstrapInvocation}
    (deletions : ∀ retry ∈ retries, IsDeletion retry.event)
    (working : ∀ retry ∈ retries, Working retry.services)
    (roleGone : world.domain rolePath = none) :
    (bootstrapMachine settings).after world retries = world ∧
      ∀ outcome ∈ (bootstrapMachine settings).outputs world retries,
        ∃ message, outcome = .error (.exception message) := by
  induction retries with
  | nil => exact ⟨rfl, fun _ none => by cases none⟩
  | cons retry rest inductionHypothesis =>
      obtain ⟨text, step⟩ :=
        retried_deletion (deletions retry (List.Mem.head _))
          (working retry (List.Mem.head _)) roleGone
      obtain ⟨sameWorld, raise⟩ :=
        inductionHypothesis
          (fun other inRest => deletions other (List.mem_cons_of_mem _ inRest))
          (fun other inRest => working other (List.mem_cons_of_mem _ inRest))
      rw [Machine.after_cons, Machine.outputs_cons, Machine.next,
        Machine.output, step]
      refine ⟨sameWorld, ?_⟩
      intro outcome member
      rcases List.mem_cons.1 member with rfl | inRest
      · exact ⟨_, rfl⟩
      · exact raise outcome inRest

theorem objects_kept_next
    {invocation : BootstrapInvocation}
    (deletion : IsDeletion invocation.event) {path : String}
    (object : kind path = ['_', 'd']) :
    ((bootstrapMachine settings).next world invocation).domain path =
      world.domain path := by
  have keeps :
      Keeps SameObjects
        (onEvent invocation.services settings invocation.event) := by
    rw [onEvent_of_deletion _ _ deletion]
    exact
      (keeps_deleteResources _ _).bind sameObjects_trans fun _ =>
        keeps_throw sameObjects_refl _
  exact keeps world.session path object

/-- No deletion removes a saved object. -/
theorem objects_kept
    {invocations : List BootstrapInvocation}
    (deletions : ∀ invocation ∈ invocations, IsDeletion invocation.event)
    {path : String} (object : kind path = ['_', 'd']) :
    ((bootstrapMachine settings).after world invocations).domain path =
      world.domain path := by
  induction invocations generalizing world with
  | nil => rfl
  | cons invocation rest inductionHypothesis =>
      rw [Machine.after_cons,
        inductionHypothesis fun other inRest =>
          deletions other (List.mem_cons_of_mem _ inRest)]
      exact objects_kept_next (deletions invocation (List.Mem.head _)) object

/-! ## The life of a bootstrap -/

/-- A bootstrap is created, updated any number of times and deleted, where
the first attempts to delete it may be interrupted. -/
structure LifeCycle (settings : BootstrapSettings) (world : World) where
  creation : BootstrapInvocation
  updates : List BootstrapInvocation
  interruptions : List BootstrapInvocation
  deletion : BootstrapInvocation
  creates :
    Python.subscript creation.event "RequestType" = .ok (.string "Create")
  updating :
    ∀ update ∈ updates,
      Python.subscript update.event "RequestType" = .ok (.string "Update")
  deploy :
    ∀ outcome ∈
        (bootstrapMachine settings).outputs world (creation :: updates),
      ∃ value, outcome = .ok value
  interrupting : ∀ attempt ∈ interruptions, IsDeletion attempt.event
  interrupted :
    ∀ outcome ∈
        (bootstrapMachine settings).outputs
          ((bootstrapMachine settings).after world (creation :: updates))
          interruptions,
      ∃ error, outcome = .error error
  deletes : IsDeletion deletion.event
  works : Working deletion.services

/-- The world that the last deletion starts in. -/
def LifeCycle.reached (cycle : LifeCycle settings world) : World :=
  (bootstrapMachine settings).after world
    (cycle.creation :: cycle.updates ++ cycle.interruptions)

/-- The deletion returns, and no resource is left. -/
structure DeletionUndoes
    (settings : BootstrapSettings) (admin user : Account) (world : World)
    (deletion : BootstrapInvocation) : Prop where
  returns :
    ∃ value, (bootstrapMachine settings).output world deletion = .ok value
  gone :
    ∀ path ∈
        createdPaths settings admin user ++
          importedPaths settings.resources.dataSkew,
      ((bootstrapMachine settings).next world deletion).domain path = none

theorem not_deletionUndoes_of_error
    {admin user : Account} {deletion : BootstrapInvocation}
    {error : PyException}
    (raises :
      (bootstrapMachine settings).output world deletion = .error error) :
    ¬ DeletionUndoes settings admin user world deletion := by
  intro undoes
  obtain ⟨value, returns⟩ := undoes.returns
  rw [raises] at returns
  cases returns

theorem output_of_deletion
    {invocation : BootstrapInvocation}
    (deletion : IsDeletion invocation.event) (value : JsonValue) :
    (bootstrapMachine settings).output world invocation ≠ .ok value := by
  intro returns
  obtain ⟨final, ends, _⟩ := perform_of_output returns
  exact onEvent_never_returns _ _ deletion _ _ _ ends

/-- No deletion undoes a bootstrap. -/
theorem deletion_never_undoes
    (cycle : LifeCycle settings world) (admin user : Account) :
    ¬ DeletionUndoes settings admin user cycle.reached cycle.deletion := by
  intro undoes
  obtain ⟨value, returns⟩ := undoes.returns
  exact output_of_deletion cycle.deletes value returns

/-! ## What is left -/

/-- All saved objects of the import are in the domain. -/
def World.HasObjects (settings : BootstrapSettings) (world : World) : Prop :=
  ∀ path ∈ importedPaths settings.resources.dataSkew,
    world.domain path ≠ none

theorem onEvent_establishes
    {event : JsonValue}
    (deploys :
      Python.subscript event "RequestType" = .ok (.string "Create") ∨
        Python.subscript event "RequestType" = .ok (.string "Update"))
    (services : Services) :
    Establishes (HasImported settings) (onEvent services settings event) := by
  rw [onEvent]
  rcases deploys with create | update
  · rw [create, orRaise_ok, pure_bind]
    exact onCreate_establishes services event
  · rw [update, orRaise_ok, pure_bind]
    refine establishes_bind fun _ => ?_
    refine establishes_bind fun _ => ?_
    exact onCreate_establishes services event

theorem hasObjects_next
    {invocation : BootstrapInvocation}
    (deploys :
      Python.subscript invocation.event "RequestType" =
          .ok (.string "Create") ∨
        Python.subscript invocation.event "RequestType" =
          .ok (.string "Update"))
    {value : JsonValue}
    (returns :
      (bootstrapMachine settings).output world invocation = .ok value) :
    ((bootstrapMachine settings).next world invocation).HasObjects
      settings := by
  obtain ⟨final, ends, sameWorld⟩ := perform_of_output returns
  rw [sameWorld]
  exact onEvent_establishes deploys _ _ _ _ ends

theorem hasObjects_after_updates
    {updates : List BootstrapInvocation}
    (updating :
      ∀ update ∈ updates,
        Python.subscript update.event "RequestType" = .ok (.string "Update"))
    (succeed :
      ∀ outcome ∈ (bootstrapMachine settings).outputs world updates,
        ∃ value, outcome = .ok value)
    (hasObjects : world.HasObjects settings) :
    ((bootstrapMachine settings).after world updates).HasObjects settings := by
  induction updates generalizing world with
  | nil => exact hasObjects
  | cons update rest inductionHypothesis =>
      rw [Machine.outputs_cons] at succeed
      obtain ⟨value, returns⟩ := succeed _ (List.Mem.head _)
      rw [Machine.after_cons]
      exact
        inductionHypothesis
          (fun other inRest => updating other (List.mem_cons_of_mem _ inRest))
          (fun outcome inRest => succeed outcome (List.mem_cons_of_mem _ inRest))
          (hasObjects_next (.inr (updating update (List.Mem.head _))) returns)

/-- At the end of every life all imported objects are still in the domain. -/
theorem LifeCycle.objects_left (cycle : LifeCycle settings world) :
    ((bootstrapMachine settings).next cycle.reached
      cycle.deletion).HasObjects settings := by
  intro path imported
  have object := kind_of_mem_importedPaths imported
  have deployed :
      ((bootstrapMachine settings).after world
        (cycle.creation :: cycle.updates)).HasObjects settings := by
    have succeed := cycle.deploy
    rw [Machine.outputs_cons] at succeed
    obtain ⟨value, returns⟩ := succeed _ (List.Mem.head _)
    rw [Machine.after_cons]
    exact
      hasObjects_after_updates cycle.updating
        (fun outcome inRest => succeed outcome (List.mem_cons_of_mem _ inRest))
        (hasObjects_next (.inl cycle.creates) returns)
  rw [objects_kept_next cycle.deletes object, LifeCycle.reached,
    Machine.after_append, objects_kept cycle.interrupting object]
  exact deployed path imported

end Runs

/-! ## The life of one bootstrap -/

section Example

open Bootstrap Domain

def deleteEvent : JsonValue :=
  .object
    [("RequestType", .string "Delete"),
      ("PhysicalResourceId", .string "bootstrap"),
      ("ResourceProperties", .object [])]

theorem deleteEvent_isDeletion : IsDeletion deleteEvent where
  requestType := rfl
  physicalId := ⟨_, rfl⟩
  properties := ⟨_, rfl⟩
  withoutData := rfl

/-- The services as they are when everything works. -/
def workingServices : Services where
  respond _ domain request :=
    if request.action = .delete ∧ domain request.path = none then ⟨404, ""⟩
    else ⟨200, Json.write importResults⟩
  fault _ := none
  randomPassword _ := ""
  updateDomainConfig := .ok ⟨200, ""⟩

theorem working_workingServices : Working workingServices where
  absent number domain request deletes absent := by
    rw [workingServices]
    simp only [deletes, absent, and_self, if_true]
  present number domain request present := by
    rw [workingServices]
    simp only [if_neg present]
  accepted _ := rfl

def accepted (_ : Nat) : Response :=
  ⟨200, Json.write importResults⟩

def creation : BootstrapInvocation :=
  ⟨createEvent, answering accepted⟩

variable [PythonLibrary] [Jinja] (lawful : Jinja.Lawful)

include lawful in
theorem creation_complete :
    ∃ value world,
      (bootstrapMachine deployedSettings).step deployedWorld creation =
          (world, .ok value) ∧
        world.secrets = deployedWorld.secrets ∧
        ∀ path ∈ createdPaths deployedSettings adminAccount dashboardAccount,
          world.domain path ≠ none := by
  have scripted : creation.services.Scripted accepted :=
    scripted_answering accepted
  have answered : OthersAnswered creation.services accepted :=
    othersAnswered_answering fun _ _ => rfl
  have roleOk : (accepted 0).Ok := by
    rw [accepted, Response.Ok]
    decide
  exact
    complete_creation lawful scripted (by decide +kernel)
      (adminAccount.credentials_secret (by decide) rfl)
      (dashboardAccount.credentials_secret (by decide) rfl)
      adminAccount_ne_dashboardAccount createEvent_isDeployment roleOk answered

/-- The bootstrap is created and then deleted. -/
def deployedCycle : LifeCycle deployedSettings deployedWorld where
  creation := creation
  updates := []
  interruptions := []
  deletion := ⟨deleteEvent, workingServices⟩
  creates := rfl
  updating _ none := by cases none
  deploy := by
    obtain ⟨value, world, step, _⟩ := creation_complete lawful
    intro outcome member
    rw [Machine.outputs_cons, Machine.output, step, Machine.outputs_nil,
      List.mem_singleton] at member
    exact ⟨value, member⟩
  interrupting _ none := by cases none
  interrupted _ none := by cases none
  deletes := deleteEvent_isDeletion
  works := working_workingServices

theorem deployedCycle_raises :
    (bootstrapMachine deployedSettings).output
        (deployedCycle lawful).reached (deployedCycle lawful).deletion =
      .error (.keyError "Data") := by
  obtain ⟨value, world, step, sameSecrets, complete⟩ :=
    creation_complete lawful
  have reached : (deployedCycle lawful).reached = world := by
    have invocations :
        (deployedCycle lawful).creation :: (deployedCycle lawful).updates ++
            (deployedCycle lawful).interruptions =
          [creation] :=
      rfl
    rw [LifeCycle.reached, invocations, Machine.after_cons, Machine.after_nil,
      Machine.next, step]
  have adminCredentials :
      Credentials world.secrets deployedSettings.adminSecretArn
        adminAccount := by
    rw [sameSecrets]
    exact adminAccount.credentials_secret (by decide) rfl
  have userCredentials :
      Credentials world.secrets deployedSettings.userSecretArn
        dashboardAccount := by
    rw [sameSecrets]
    exact dashboardAccount.credentials_secret (by decide) rfl
  have ends :=
    first_deletion (deployedCycle lawful).deletes (deployedCycle lawful).works
      adminCredentials userCredentials adminAccount_ne_dashboardAccount
      complete
  rw [reached, Machine.output, ends]

end Example

/-- The deletion of a bootstrap raises and leaves its saved object there. -/
theorem deployed_deletion_raises :
    letI := plainPython
    letI := plainJinja
    (bootstrapMachine deployedSettings).output
          (deployedCycle lawful_plainJinja).reached
          (deployedCycle lawful_plainJinja).deletion =
        .error (.keyError "Data") ∧
      ((bootstrapMachine deployedSettings).next
          (deployedCycle lawful_plainJinja).reached
          (deployedCycle lawful_plainJinja).deletion).domain
          (Domain.savedObjectPath "search"
            "33ca7a70-1cb5-11ee-8980-5f1aaf1f028d") ≠
        none ∧
      ¬ DeletionUndoes deployedSettings adminAccount dashboardAccount
          (deployedCycle lawful_plainJinja).reached
          (deployedCycle lawful_plainJinja).deletion :=
  ⟨@deployedCycle_raises plainPython plainJinja lawful_plainJinja,
    @LifeCycle.objects_left plainPython plainJinja _ _ _ _ (by decide +kernel),
    @not_deletionUndoes_of_error plainPython plainJinja _ _ _ _ _ _
      (@deployedCycle_raises plainPython plainJinja lawful_plainJinja)⟩

theorem deletion_never_undoes_deployed :
    letI := plainPython
    letI := plainJinja
    ¬ DeletionUndoes deployedSettings adminAccount dashboardAccount
        (deployedCycle lawful_plainJinja).reached
        (deployedCycle lawful_plainJinja).deletion :=
  @deletion_never_undoes plainPython plainJinja deployedSettings deployedWorld
    (@deployedCycle plainPython plainJinja lawful_plainJinja) adminAccount
    dashboardAccount

end SparkObservability
