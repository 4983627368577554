import SparkObservability.Bootstrap.Creation
import SparkObservability.Bootstrap.Resources

/-!
# When a bootstrap is complete

A bootstrap that returns is complete unless the request for the pipeline role
was refused.
-/

namespace SparkObservability

namespace Bootstrap

open Effect Domain

section Deployment

variable [PythonLibrary] {settings : BootstrapSettings}

/-- A request to create or to update the bootstrap. -/
structure IsDeployment (event : JsonValue) : Prop where
  properties :
    ∃ properties,
      Python.subscript event "ResourceProperties" = .ok properties
  requestType :
    Python.subscript event "RequestType" = .ok (.string "Create") ∨
      Python.subscript event "RequestType" = .ok (.string "Update") ∧
        ∃ id, Python.subscript event "PhysicalResourceId" = .ok id

theorem onEvent_of_deployment [Jinja]
    {services : Services} {event : JsonValue}
    (deployment : IsDeployment event) :
    onEvent services settings event = onCreate services settings event := by
  obtain ⟨properties, hasProperties⟩ := deployment.properties
  rw [onEvent]
  rcases deployment.requestType with create | ⟨update, id, hasId⟩
  · rw [create, orRaise_ok, pure_bind]
    simp [isRequestType]
  · rw [update, orRaise_ok, pure_bind]
    simp [isRequestType, onUpdate, hasId, hasProperties]

/-- If the handler returns, all documents are there; if a request for one of
them is answered with an error, it raises. -/
structure BootstrapSound
    (settings : BootstrapSettings) (admin user : Account)
    (outcome : Except PyException JsonValue) (final : Session) : Prop where
  complete :
    ∀ value, outcome = .ok value →
      ∀ document ∈ createdDocuments settings admin user,
        final.domain document.1 = some document.2
  raises :
    (∃ exchanged ∈ final.exchanges,
        exchanged.1 ∈ creationRequests settings admin user ∧
          ¬ exchanged.2.Ok) →
      ∃ error, outcome = .error error

end Deployment

section Answers

variable {services : Services} {responses : Nat → Response}

theorem OthersAnswered.ok
    (answered : OthersAnswered services responses) :
    ∀ number, 0 < number → number < 8 → (responses number).Ok := by
  intro number positive small
  obtain ⟨mapping, _, _, ⟨adminOk, userOk⟩, ⟨logsOk, taskOk, stageAggOk⟩,
    importOk, _⟩ := answered
  match number, positive, small with
  | 1, _, _ => exact mapping
  | 2, _, _ => exact adminOk
  | 3, _, _ => exact userOk
  | 4, _, _ => exact logsOk
  | 5, _, _ => exact taskOk
  | 6, _, _ => exact stageAggOk
  | 7, _, _ => exact importOk

theorem OthersAnswered.ok_of_role
    (answered : OthersAnswered services responses)
    (roleOk : (responses 0).Ok) :
    ∀ number < 8, (responses number).Ok := by
  intro number small
  cases number with
  | zero => exact roleOk
  | succ number => exact answered.ok (number + 1) (Nat.zero_lt_succ _) small

variable [PythonLibrary] {settings : BootstrapSettings} {admin user : Account}

variable (settings admin user) in
theorem ok_of_fresh
    (ok : ∀ number < 8, (responses number).Ok)
    {session : Session} (fresh : session.exchanges = []) :
    ∀ index <
        (creationRequests settings admin user ++
          [importRequest settings.resources]).length,
      (responses (session.exchanges.length + index)).Ok := by
  intro index inRequests
  rw [fresh, List.length_nil, Nat.zero_add]
  exact ok index inRequests

/-- With all requests answered with success, all documents are there. -/
theorem complete_of_answered
    (scripted : services.Scripted responses)
    (ok : ∀ number < 8, (responses number).Ok)
    (differentUsers : admin.username ≠ user.username)
    {session : Session} (fresh : session.exchanges = [])
    {document : String × JsonValue}
    (created : document ∈ createdDocuments settings admin user) :
    (services.exchangeAll session
        (creationRequests settings admin user ++
          [importRequest settings.resources])).domain document.1 =
      some document.2 := by
  have allOk := ok_of_fresh settings admin user ok fresh
  rw [Services.domain_exchangeAll scripted allOk, List.foldl_append,
    List.foldl_cons, List.foldl_nil]
  have untouched :=
    importObjects_of_kind_ne (kind_createdDocuments created)
      settings.resources.dataSkew
      ((creationRequests settings admin user).foldl serve session.domain)
  exact untouched.trans
    (foldl_serve_of_mem (nodup_createdDocuments settings differentUsers)
      created session.domain)

/-- With the first request refused and the others answered with success, the
pipeline role is what it was. -/
theorem role_untouched
    (scripted : services.Scripted responses)
    (roleFails : ¬ (responses 0).Ok)
    (answered : OthersAnswered services responses)
    (differentUsers : admin.username ≠ user.username)
    {session : Session} (fresh : session.exchanges = []) :
    (services.exchangeAll session
        (creationRequests settings admin user ++
          [importRequest settings.resources])).domain rolePath =
      session.domain rolePath := by
  have distinct := nodup_createdDocuments settings differentUsers
  rw [createdDocuments, List.map_cons, List.nodup_cons] at distinct
  have refused :
      ¬ (services.reply session
        (putRequest rolePath settings.resources.pipelineRole.document)).Ok := by
    rw [services.reply_of_scripted scripted, fresh]
    exact roleFails
  rw [creationRequests, createdDocuments, List.map_cons, List.cons_append,
    Services.exchangeAll, Services.domain_exchangeAll scripted,
    services.domain_exchange_of_not_ok refused, List.foldl_append,
    List.foldl_cons, List.foldl_nil]
  · have notImported : kind rolePath ≠ ['_', 'd'] := by decide
    exact
      (importObjects_of_kind_ne notImported _ _).trans
        (foldl_serve_of_not_mem distinct.1 _)
  · intro index inRequests
    rw [services.length_exchanges_exchange, fresh, List.length_nil,
      Nat.zero_add, Nat.add_comm]
    exact
      answered.ok (index + 1) (Nat.zero_lt_succ _)
        (Nat.succ_lt_succ inRequests)

end Answers

end Bootstrap

section Soundness

open Bootstrap Effect

variable [PythonLibrary] [Jinja] {services : Services}
  {responses : Nat → Response} {settings : BootstrapSettings} {world : World}
  {admin user : Account} {event : JsonValue}

/-- Where the requests after the first one are answered with success, the
handler returns. -/
theorem perform_onEvent_of_answered
    (lawful : Jinja.Lawful) (scripted : services.Scripted responses)
    (plainRole : IsPlainText settings.pipelineIamRole)
    (adminCredentials :
      Credentials world.secrets settings.adminSecretArn admin)
    (userCredentials : Credentials world.secrets settings.userSecretArn user)
    (deployment : IsDeployment event)
    (answered : OthersAnswered services responses) :
    (onEvent services settings event).perform world.session =
      (.ok (creationResult (responses 7)),
        services.exchangeAll world.session.counted.counted
          (creationRequests settings admin user ++
            [importRequest settings.resources])) := by
  obtain ⟨properties, hasProperties⟩ := deployment.properties
  have fit : HasSecrets world.secrets world.session := rfl
  rw [onEvent_of_deployment deployment]
  exact
    (onCreate_ends lawful scripted adminCredentials userCredentials plainRole
      hasProperties fit ⟨rfl, rfl⟩ _ _).2 ⟨answered, rfl, rfl⟩

/-- A refusal of the first request alone goes unnoticed. -/
theorem onEvent_of_refused_role
    (lawful : Jinja.Lawful) (scripted : services.Scripted responses)
    (plainRole : IsPlainText settings.pipelineIamRole)
    (adminCredentials :
      Credentials world.secrets settings.adminSecretArn admin)
    (userCredentials : Credentials world.secrets settings.userSecretArn user)
    (differentUsers : admin.username ≠ user.username)
    (deployment : IsDeployment event) (roleFails : ¬ (responses 0).Ok)
    (answered : OthersAnswered services responses) :
    ∃ value final,
      (onEvent services settings event).perform world.session =
          (.ok value, final) ∧
        final.domain rolePath = world.domain rolePath ∧
        ¬ BootstrapSound settings admin user (.ok value) final := by
  have returns :=
    perform_onEvent_of_answered lawful scripted plainRole adminCredentials
      userCredentials deployment answered
  refine ⟨_, _, returns, ?_, ?_⟩
  · exact role_untouched scripted roleFails answered differentUsers rfl
  · intro sound
    obtain ⟨error, impossible⟩ :=
      sound.raises
        ⟨_, Services.first_mem_exchangeAll scripted _ _ _, List.Mem.head _,
          roleFails⟩
    cases impossible

/-- With all requests answered with success, the bootstrap is complete. -/
theorem onEvent_of_answered
    (lawful : Jinja.Lawful) (scripted : services.Scripted responses)
    (plainRole : IsPlainText settings.pipelineIamRole)
    (adminCredentials :
      Credentials world.secrets settings.adminSecretArn admin)
    (userCredentials : Credentials world.secrets settings.userSecretArn user)
    (differentUsers : admin.username ≠ user.username)
    (deployment : IsDeployment event) (roleOk : (responses 0).Ok)
    (answered : OthersAnswered services responses) :
    ∃ value final,
      (onEvent services settings event).perform world.session =
          (.ok value, final) ∧
        final.secrets = world.secrets ∧
        ∀ document ∈ createdDocuments settings admin user,
          final.domain document.1 = some document.2 := by
  have returns :=
    perform_onEvent_of_answered lawful scripted plainRole adminCredentials
      userCredentials deployment answered
  refine ⟨_, _, returns, ?_, ?_⟩
  · rw [Services.secrets_exchangeAll]
    rfl
  · intro document created
    exact
      complete_of_answered scripted (answered.ok_of_role roleOk)
        differentUsers rfl created

/-- A bootstrap is sound exactly when the first request, for the pipeline
role, is answered with success, or something that the handler does check goes
wrong. -/
theorem bootstrap_sound_iff
    (lawful : Jinja.Lawful) (scripted : services.Scripted responses)
    (plainRole : IsPlainText settings.pipelineIamRole)
    (adminCredentials :
      Credentials world.secrets settings.adminSecretArn admin)
    (userCredentials : Credentials world.secrets settings.userSecretArn user)
    (differentUsers : admin.username ≠ user.username)
    (deployment : IsDeployment event) :
    BootstrapSound settings admin user
        ((onEvent services settings event).perform world.session).1
        ((onEvent services settings event).perform world.session).2 ↔
      (responses 0).Ok ∨ ¬ OthersAnswered services responses := by
  constructor
  · intro sound
    by_contra notSound
    obtain ⟨roleFails, answered⟩ := not_or.1 notSound
    obtain ⟨value, final, returns, _, unsound⟩ :=
      onEvent_of_refused_role lawful scripted plainRole adminCredentials
        userCredentials differentUsers deployment roleFails
        (not_not.1 answered)
    rw [returns] at sound
    exact unsound sound
  · intro condition
    obtain ⟨properties, hasProperties⟩ := deployment.properties
    have fit : HasSecrets world.secrets world.session := rfl
    have ends :=
      onCreate_ends lawful scripted adminCredentials userCredentials plainRole
        hasProperties fit ⟨rfl, rfl⟩
    rw [onEvent_of_deployment deployment]
    rcases shape : (onCreate services settings event).perform world.session with
      ⟨error | value, final⟩
    · refine ⟨?_, fun _ => ⟨error, rfl⟩⟩
      intro value impossible
      cases impossible
    · obtain ⟨answered, -, rfl⟩ := (ends value final).1 shape
      have ok :=
        answered.ok_of_role
          (condition.resolve_right (not_not.2 answered))
      refine ⟨?_, ?_⟩
      · intro _ _ document created
        exact complete_of_answered scripted ok differentUsers rfl created
      · rintro ⟨exchanged, member, -, fails⟩
        have noneYet : world.session.exchanges = [] := rfl
        have allOk := ok_of_fresh settings admin user ok noneYet
        rcases Services.ok_of_mem_exchangeAll scripted allOk member with
          before | succeeds
        · cases before
        · exact absurd succeeds fails

end Soundness

/-! ## A role that is refused -/

namespace Account

def members (account : Account) : List (String × JsonValue) :=
  [("username", .string account.username),
    ("password", .string account.password)]

theorem wellFormed_members (account : Account) :
    (JsonValue.object account.members).WellFormed := by
  simp [members, JsonValue.WellFormed, JsonValue.MembersWellFormed]

/-- The secret that the stack generates for an account. -/
def secret (account : Account) : Secret where
  rotationEnabled := none
  versions :=
    [("v1",
      ⟨some (.string (Json.write (.object account.members))),
        ["AWSCURRENT"]⟩)]
  distinct := List.nodup_singleton _

theorem parseSecret_members [PythonLibrary] (account : Account) :
    Services.parseSecret (.string (Json.write (.object account.members))) =
      .ok (.object account.members) := by
  rw [Services.parseSecret]
  exact Python.loads_of_read (Json.read_write account.wellFormed_members)

theorem lookup_password (account : Account) :
    account.members.lookup "password" = some (.string account.password) := by
  simp [members, List.lookup_cons]

theorem credentials_secret [PythonLibrary]
    {account : Account} (plain : IsPlainText account.password)
    {secrets : SecretsManager} {arn : String}
    (found : secrets arn = some account.secret) :
    Credentials secrets arn account where
  stored := by
    refine
      ⟨.string (Json.write (.object account.members)), account.members, ?_,
        account.parseSecret_members, rfl, account.lookup_password⟩
    rw [SecretsManager.getSecretValue, found]
    rfl
  plain := plain

end Account

def adminAccount : Account := ⟨"admin", "first"⟩

def dashboardAccount : Account := ⟨"user", "second"⟩

theorem adminAccount_ne_dashboardAccount :
    adminAccount.username ≠ dashboardAccount.username := by
  decide

/-- The settings of a deployment. -/
def deployedSettings : BootstrapSettings where
  resources := Bootstrap.resources
  adminSecretArn := "admin-secret"
  userSecretArn := "user-secret"
  pipelineIamRole := "arn:aws:iam::123456789012:role/pipeline"

/-- The secrets are there and the domain is empty. -/
def deployedWorld : World where
  secrets arn :=
    if arn = "admin-secret" then some adminAccount.secret
    else if arn = "user-secret" then some dashboardAccount.secret
    else none
  domain _ := none

/-- The result of the import, as OpenSearch reports it. -/
def importResults : JsonValue :=
  .object
    [("successResults",
      .array
        [.object
          [("type", .string "search"),
            ("id", .string "33ca7a70-1cb5-11ee-8980-5f1aaf1f028d")]])]

def answering (responses : Nat → Response) : Services where
  respond number _ _ := responses number
  fault _ := none
  randomPassword _ := ""
  updateDomainConfig := .ok ⟨200, ""⟩

theorem loads_importResults :
    Python.loads (Json.write importResults) = .ok importResults := by
  apply Python.loads_of_read
  apply Json.read_write
  simp [importResults, JsonValue.WellFormed, JsonValue.MembersWellFormed,
    JsonValue.AllWellFormed]

/-- An answer with these results is good for all requests. -/
theorem othersAnswered_answering
    {responses : Nat → Response}
    (accepted :
      ∀ number, 0 < number →
        responses number = ⟨200, Json.write importResults⟩) :
    Bootstrap.OthersAnswered (answering responses) responses := by
  have ok : ∀ number, 0 < number → (responses number).Ok := by
    intro number positive
    rw [accepted number positive, Response.Ok]
    simp
  constructor
  · exact ok 1 (by decide)
  · exact ⟨"", rfl⟩
  · exact ⟨rfl, rfl⟩
  · exact ⟨ok 2 (by decide), ok 3 (by decide)⟩
  · exact ⟨ok 4 (by decide), ok 5 (by decide), ok 6 (by decide)⟩
  · exact ok 7 (by decide)
  · rw [accepted 7 (by decide), Bootstrap.importedResources,
      loads_importResults]
    exact ⟨_, rfl⟩

/-- The answers of OpenSearch when it refuses the first request. -/
def roleRefused (number : Nat) : Response :=
  if number = 0 then ⟨403, ""⟩ else ⟨200, Json.write importResults⟩

theorem roleRefused_othersAnswered :
    Bootstrap.OthersAnswered (answering roleRefused) roleRefused :=
  othersAnswered_answering fun _ positive =>
    if_neg (Nat.ne_of_gt positive)

def createEvent : JsonValue :=
  .object
    [("RequestType", .string "Create"), ("ResourceProperties", .object [])]

theorem createEvent_isDeployment : Bootstrap.IsDeployment createEvent where
  properties := ⟨_, rfl⟩
  requestType := .inl rfl

theorem scripted_answering (responses : Nat → Response) :
    (answering responses).Scripted responses :=
  fun _ _ _ => rfl

/-- The creation returns although there is no role for the pipeline. -/
theorem refused_role_unnoticed :
    letI := plainPython
    letI := plainJinja
    ∃ value final,
      (Bootstrap.onEvent (answering roleRefused) deployedSettings
          createEvent).perform deployedWorld.session =
          (.ok value, final) ∧
        final.domain Bootstrap.rolePath = none ∧
        ¬ Bootstrap.BootstrapSound deployedSettings adminAccount
            dashboardAccount (.ok value) final :=
  letI := plainPython
  letI := plainJinja
  onEvent_of_refused_role lawful_plainJinja (scripted_answering roleRefused)
    (by decide +kernel)
    (adminAccount.credentials_secret (by decide) rfl)
    (dashboardAccount.credentials_secret (by decide) rfl)
    adminAccount_ne_dashboardAccount createEvent_isDeployment (by decide)
    roleRefused_othersAnswered

theorem bootstrap_sound_iff_refused_role :
    letI := plainPython
    letI := plainJinja
    Bootstrap.BootstrapSound deployedSettings adminAccount dashboardAccount
        ((Bootstrap.onEvent (answering roleRefused) deployedSettings
          createEvent).perform deployedWorld.session).1
        ((Bootstrap.onEvent (answering roleRefused) deployedSettings
          createEvent).perform deployedWorld.session).2 ↔
      (roleRefused 0).Ok ∨
        ¬ Bootstrap.OthersAnswered (answering roleRefused) roleRefused :=
  letI := plainPython
  letI := plainJinja
  bootstrap_sound_iff lawful_plainJinja (scripted_answering roleRefused)
    (by decide +kernel)
    (adminAccount.credentials_secret (by decide) rfl)
    (dashboardAccount.credentials_secret (by decide) rfl)
    adminAccount_ne_dashboardAccount createEvent_isDeployment

end SparkObservability
