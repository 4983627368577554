import SparkObservability.Bootstrap.Footprint
import SparkObservability.Bootstrap.LifeCycle
import SparkObservability.Plans

/-!
# Interrupted invocations of the bootstrap

The requests of a deployment, and those of a deletion, are a fixed plan.
Whatever the services answer and whichever of the other calls fails, an
invocation works through a first part of its plan and never goes on behind a
request whose answer it checks and that was refused.  Only requests that were
answered with success leave something in the domain.
-/

namespace SparkObservability

open Effect

/-! ## Plans of requests -/

/-- A request, and whether its answer is checked. -/
structure PlannedRequest where
  request : Request
  checked : Bool

/-- The exchange does not keep the invocation from going on. -/
def PlannedRequest.Passed (step : PlannedRequest)
    (exchange : Request × Response) : Prop :=
  exchange.1 = step.request ∧ (step.checked = true → exchange.2.Ok)

/-- The answer makes the invocation raise. -/
def PlannedRequest.Refused (step : PlannedRequest)
    (exchange : Request × Response) : Prop :=
  exchange.1 = step.request ∧ step.checked = true ∧ ¬ exchange.2.Ok

/-- What the exchanges make of a domain. -/
def Domain.served (initial : Domain) (exchanges : List (Request × Response)) :
    Domain :=
  exchanges.foldl
    (fun domain exchange =>
      if exchange.2.Ok then domain.serve exchange.1 else domain)
    initial

theorem Domain.served_concat (initial : Domain)
    (exchanges : List (Request × Response)) (exchange : Request × Response) :
    initial.served (exchanges ++ [exchange]) =
      if exchange.2.Ok then (initial.served exchanges).serve exchange.1
      else initial.served exchanges := by
  rw [served, List.foldl_append]
  rfl

/-- The secrets are what they were, and the domain is what the exchanges have
made of it. -/
def ServedFrom (world : World) (session : Session) : Prop :=
  session.secrets = world.secrets ∧
    session.domain = world.domain.served session.exchanges

/-- From the given world, the function works through the plan. -/
abbrev FollowsFrom (world : World) {α : Type} (program : Lambda α)
    (plan : List PlannedRequest) (gives : α → Prop) : Prop :=
  Follows (ServedFrom world) Session.exchanges PlannedRequest.Passed
    PlannedRequest.Refused program plan gives

theorem follows_orRaise (world : World) {α : Type}
    (result : Except PyException α) :
    FollowsFrom world (orRaise result) [] fun value => result = .ok value := by
  cases result with
  | ok value => exact follows_pure rfl
  | error error => exact follows_throw error [] _

namespace Services

variable (services : Services) (world : World)

theorem servedFrom_exchange {session : Session}
    (fit : ServedFrom world session) (request : Request) :
    ServedFrom world (services.exchange session request) := by
  refine ⟨fit.1, ?_⟩
  rw [exchanges_exchange, Domain.served_concat, ← fit.2]
  rfl

/-- A request whose answer is not checked. -/
theorem follows_send (request : Request) :
    FollowsFrom world (services.send request) [⟨request, false⟩]
      fun _ => True := by
  intro session fit
  have passed :
      PlannedRequest.Passed ⟨request, false⟩
        (request, services.reply session request) :=
    ⟨rfl, fun checked => by cases checked⟩
  exact
    ⟨services.servedFrom_exchange world fit request,
      [(request, services.reply session request)],
      services.exchanges_exchange session request, .cons passed .nil, trivial⟩

/-- A request whose answer is checked. -/
theorem follows_checked (request : Request) (what : String) :
    FollowsFrom world
      (services.send request >>= fun response =>
        Bootstrap.requireOk response what >>= fun _ => pure response)
      [⟨request, true⟩] fun _ => True := by
  intro session fit
  have sent := services.perform_send request session
  have reached := services.servedFrom_exchange world fit request
  have logged := services.exchanges_exchange session request
  rw [perform_bind_of_ok sent, Bootstrap.requireOk]
  by_cases ok : (services.reply session request).Ok
  · rw [if_pos ok, pure_bind]
    have passed :
        PlannedRequest.Passed ⟨request, true⟩
          (request, services.reply session request) :=
      ⟨rfl, fun _ => ok⟩
    exact ⟨reached, [_], logged, .cons passed .nil, trivial⟩
  · rw [if_neg ok]
    have refused :
        PlannedRequest.Refused ⟨request, true⟩
          (request, services.reply session request) :=
      ⟨rfl, rfl, ok⟩
    exact ⟨reached, [_], logged, .refused [] .nil refused⟩

variable [PythonLibrary]

theorem follows_getSecret (arn : String) :
    FollowsFrom world (services.getSecret arn) [] fun object =>
      world.secrets.reading arn = .ok object := by
  intro session fit
  rw [services.perform_getSecret]
  refine ⟨fit, [], (List.append_nil _).symm, ?_⟩
  cases answer : services.secretAnswer arn session with
  | error error => exact .between [] .nil
  | ok object =>
      have isRead := services.reading_of_secretAnswer answer
      rw [fit.1] at isRead
      exact ⟨.nil, isRead⟩

end Services

namespace Bootstrap

open Domain Services

/-! ## The helpers -/

section Helpers

variable (services : Services) (world : World)

/-- A checked request and what comes after it. -/
theorem follows_checked_then {β : Type} (request : Request) (what : String)
    {next : Response → Lambda β} {later : List PlannedRequest}
    {gives : β → Prop}
    (rest : ∀ response, FollowsFrom world (next response) later gives) :
    FollowsFrom world
      (services.send request >>= fun response =>
        requireOk response what >>= fun _ => next response)
      (⟨request, true⟩ :: later) gives := by
  have whole :=
    (services.follows_checked world request what).step_bind
      fun response _ => rest response
  simpa only [bind_assoc, pure_bind] using whole

theorem follows_last (request : Request) (what : String) :
    FollowsFrom world
      (services.send request >>= fun response => requireOk response what)
      [⟨request, true⟩] fun _ => True := by
  have nothing :
      FollowsFrom world (pure () : Lambda Unit) [] fun _ => True :=
    follows_pure trivial
  have whole :=
    follows_checked_then services world request what fun _ => nothing
  simpa only [bind_pure_unit] using whole

theorem follows_updateDomainConfig :
    FollowsFrom world (updateDomainConfig services) [] fun _ => True := by
  refine (follows_orRaise world _).silent_bind fun response _ => ?_
  split
  · exact follows_pure trivial
  · exact follows_throw _ [] _

theorem follows_indexTemplate_create (name : String) (file : JsonFile) :
    FollowsFrom world
      (indexTemplate services name (some file.content) .create)
      [⟨putRequest (indexTemplatePath name) file.document, true⟩]
      fun _ => True := by
  rw [indexTemplate, osResource_put_file]
  exact follows_last services world _ _

theorem follows_indexTemplate_delete (name : String) :
    FollowsFrom world (indexTemplate services name none .delete)
      [⟨deleteRequest [] (indexTemplatePath name), true⟩] fun _ => True :=
  follows_last services world _ _

variable [PythonLibrary] [Jinja] {account : Account} {arn : String}

theorem follows_user_create (lawful : Jinja.Lawful) {template : Template}
    {roles : List JsonValue} (isFile : template ∈ renderedFiles)
    (named : template.variableName = "secret_password")
    (loads :
      ∀ {password : String}, IsPlainText password →
        Python.loads (template.before ++ password ++ template.after) =
          .ok (userDocument password roles))
    (credentials : Credentials world.secrets arn account) :
    FollowsFrom world (user services arn template .create)
      [⟨userRequest account roles, true⟩] fun _ => True := by
  refine (services.follows_getSecret world arn).silent_bind ?_
  intro object isRead
  obtain ⟨names, words⟩ := subscript_of_credentials credentials isRead
  refine (follows_orRaise world _).silent_bind fun password hasPassword => ?_
  refine (follows_orRaise world _).silent_bind fun username hasUsername => ?_
  refine (follows_orRaise world _).silent_bind fun document loaded => ?_
  rw [words password hasPassword] at loaded
  rw [names username hasUsername,
    document_of_loads lawful isFile named loads credentials.plain loaded]
  exact follows_last services world _ _

theorem follows_user_delete (template : Template)
    (credentials : Credentials world.secrets arn account) :
    FollowsFrom world (user services arn template .delete)
      [⟨deleteRequest [] (internalUserPath (.string account.username)),
        true⟩]
      fun _ => True := by
  refine (services.follows_getSecret world arn).silent_bind ?_
  intro object isRead
  obtain ⟨names, _⟩ := subscript_of_credentials credentials isRead
  refine (follows_orRaise world _).silent_bind fun username hasUsername => ?_
  rw [names username hasUsername]
  exact follows_last services world _ _

end Helpers

/-! ## The handlers -/

section Plans

variable [PythonLibrary] (settings : BootstrapSettings)
  (admin user : Account)

/-- The requests of a deployment.  The answer to the first one is not
checked. -/
def creationPlan : List PlannedRequest :=
  [⟨putRequest rolePath settings.resources.pipelineRole.document, false⟩,
    ⟨putRequest roleMappingPath
      (pipelineRoleMapping settings.pipelineIamRole), true⟩,
    ⟨userRequest admin adminRoles, true⟩,
    ⟨userRequest user userRoles, true⟩,
    ⟨putRequest (indexTemplatePath "spark_logs")
      settings.resources.logsTemplate.document, true⟩,
    ⟨putRequest (indexTemplatePath "spark_task_metrics")
      settings.resources.taskTemplate.document, true⟩,
    ⟨putRequest (indexTemplatePath "spark_stage_agg_metrics")
      settings.resources.stageAggTemplate.document, true⟩,
    ⟨importRequest settings.resources, true⟩]

/-- The requests of a deletion. -/
def deletionPlan : List PlannedRequest :=
  (createdPaths settings admin user).map fun path =>
    ⟨deleteRequest [] path, true⟩

variable {settings admin user} {world : World} [Jinja]
  (adminCredentials :
    Credentials world.secrets settings.adminSecretArn admin)
  (userCredentials : Credentials world.secrets settings.userSecretArn user)

include adminCredentials userCredentials

theorem follows_onCreate (services : Services) (lawful : Jinja.Lawful)
    (plainRole : IsPlainText settings.pipelineIamRole) (event : JsonValue) :
    FollowsFrom world (onCreate services settings event)
      (creationPlan settings admin user) fun _ => True := by
  have rendered :=
    lawful.render_content pipelineRoleMappingTemplate
      pipelineRoleMappingTemplate_mem settings.pipelineIamRole
  have intended := loads_pipelineRoleMappingTemplate plainRole
  rw [← rendered] at intended
  have adminCreated :=
    follows_user_create services world lawful adminTemplate_mem rfl
      loads_adminTemplate adminCredentials
  have userCreated :=
    follows_user_create services world lawful userTemplate_mem rfl
      loads_userTemplate userCredentials
  rw [onCreate]
  refine (follows_orRaise world _).silent_bind fun _ _ => ?_
  dsimp only
  rw [osResource_put_file, osResource_import]
  refine (services.follows_send world _).step_bind fun _ _ => ?_
  refine (follows_orRaise world _).silent_bind fun document loaded => ?_
  have isMapping : document = pipelineRoleMapping settings.pipelineIamRole :=
    Except.ok.inj (loaded.symm.trans intended)
  subst isMapping
  refine follows_checked_then services world _ _ fun _ => ?_
  refine (follows_updateDomainConfig services world).silent_bind fun _ _ => ?_
  refine adminCreated.step_bind fun _ _ => ?_
  refine userCreated.step_bind fun _ _ => ?_
  refine (follows_indexTemplate_create services world _ _).step_bind ?_
  intro _ _
  refine (follows_indexTemplate_create services world _ _).step_bind ?_
  intro _ _
  refine (follows_indexTemplate_create services world _ _).step_bind ?_
  intro _ _
  refine follows_checked_then services world _ _ fun response => ?_
  refine (follows_orRaise world _).silent_bind fun _ _ => ?_
  exact follows_pure trivial

theorem follows_deleteResources (services : Services) :
    FollowsFrom world (deleteResources services settings)
      (deletionPlan settings admin user) fun _ => True := by
  have adminDeleted :=
    follows_user_delete services world adminTemplate adminCredentials
  have userDeleted :=
    follows_user_delete services world userTemplate userCredentials
  rw [deleteResources]
  refine follows_checked_then services world _ _ fun _ => ?_
  refine follows_checked_then services world _ _ fun _ => ?_
  refine adminDeleted.step_bind fun _ _ => ?_
  refine userDeleted.step_bind fun _ _ => ?_
  refine (follows_indexTemplate_delete services world _).step_bind ?_
  intro _ _
  refine (follows_indexTemplate_delete services world _).step_bind ?_
  intro _ _
  exact follows_indexTemplate_delete services world _

end Plans

/-! ## Invocations -/

/-- An invocation that returns has gone through the whole plan, one that
raises has stopped in it, and the domain is what the successful requests have
made of it. -/
structure WorksThrough (plan : List PlannedRequest) (initial : Domain)
    (outcome : Except PyException JsonValue) (final : Session) : Prop where
  returned :
    ∀ value, outcome = .ok value →
      List.Forall₂ PlannedRequest.Passed plan final.exchanges
  raised :
    ∀ error, outcome = .error error →
      StopsIn PlannedRequest.Passed PlannedRequest.Refused plan
        final.exchanges
  domain : final.domain = initial.served final.exchanges

theorem worksThrough_of_follows {world : World} {program : Lambda JsonValue}
    {plan : List PlannedRequest}
    (follows : FollowsFrom world program plan fun _ => True) :
    WorksThrough plan world.domain (program.perform world.session).1
      (program.perform world.session).2 := by
  have start : ServedFrom world world.session := ⟨rfl, rfl⟩
  obtain ⟨reached, entries, logged, ends⟩ := follows world.session start
  have same : (program.perform world.session).2.exchanges = entries := logged
  rw [← same] at ends
  refine ⟨?_, ?_, reached.2⟩
  · intro value returns
    rw [returns] at ends
    exact ends.1
  · intro error raises
    rw [raises] at ends
    exact ends

/-- Every deployment and every deletion works through its plan: it never goes
on behind a refused request whose answer it checks. -/
theorem invocation_works_through_plan [PythonLibrary] [Jinja]
    {settings : BootstrapSettings} {admin user : Account} {world : World}
    (lawful : Jinja.Lawful)
    (plainRole : IsPlainText settings.pipelineIamRole)
    (adminCredentials :
      Credentials world.secrets settings.adminSecretArn admin)
    (userCredentials : Credentials world.secrets settings.userSecretArn user)
    {event : JsonValue} {plan : List PlannedRequest}
    (planned :
      IsDeployment event ∧ plan = creationPlan settings admin user ∨
        IsDeletion event ∧ plan = deletionPlan settings admin user)
    (services : Services) :
    WorksThrough plan world.domain
      ((onEvent services settings event).perform world.session).1
      ((onEvent services settings event).perform world.session).2 := by
  apply worksThrough_of_follows
  rcases planned with ⟨deployment, rfl⟩ | ⟨deletion, rfl⟩
  · rw [onEvent_of_deployment deployment]
    exact
      follows_onCreate adminCredentials userCredentials services lawful
        plainRole event
  · have deleted :=
      follows_deleteResources adminCredentials userCredentials services
    rw [onEvent_of_deletion services settings deletion,
      ← List.append_nil (deletionPlan settings admin user)]
    exact deleted.bind fun _ _ => follows_throw _ [] _

/-- The third answer is an error. -/
def userRefused (number : Nat) : Response :=
  if number = 2 then ⟨500, ""⟩ else ⟨200, Json.write importResults⟩

theorem invocation_works_through_plan_userRefused :
    letI := plainPython
    letI := plainJinja
    WorksThrough
      (creationPlan deployedSettings adminAccount dashboardAccount)
      deployedWorld.domain
      ((onEvent (answering userRefused) deployedSettings createEvent).perform
        deployedWorld.session).1
      ((onEvent (answering userRefused) deployedSettings createEvent).perform
        deployedWorld.session).2 :=
  letI := plainPython
  letI := plainJinja
  invocation_works_through_plan lawful_plainJinja (by decide +kernel)
    (adminAccount.credentials_secret (by decide) rfl)
    (dashboardAccount.credentials_secret (by decide) rfl)
    (.inl ⟨createEvent_isDeployment, rfl⟩) (answering userRefused)

end Bootstrap

end SparkObservability
