import SparkObservability.Rotation.Safety

/-!
# A rotation does not get past its first step

The handler calls the functions of the last three steps with one argument
more than they declare, so their calls raise before they do anything and the
current version stays what it was.
-/

namespace SparkObservability

namespace Secret

theorem version?_write_self
    {secret : Secret} {id : String} {version : SecretVersion}
    (known : secret.version? id = some version) (value : SecretValue)
    (label : String) :
    (secret.write id value label).version? id =
      some { moveLabel label id id version with value := some value } := by
  have mem : id ∈ secret.ids := by
    rw [← not_not (a := id ∈ secret.ids), ← version?_eq_none_iff, known]
    simp
  simp [write, mem, known]

end Secret

namespace SecretsManager

/-- The versions of a secret that are current. -/
def current (secrets : SecretsManager) (arn : String) :
    Option (List String) :=
  (secrets arn).map fun secret => secret.holders "AWSCURRENT"

end SecretsManager

/-- Secrets Manager accepts every call, and OpenSearch every request. -/
structure Services.Succeed (services : Services) : Prop where
  accepted : ∀ call, services.fault call = none
  answered :
    ∀ number domain request, (services.respond number domain request).Ok

namespace Rotation

open Effect

/-! ## What the handler can still write -/

theorem CreatesAtMost.current
    {arn token : String} {secrets later : SecretsManager}
    (creates : CreatesAtMost arn token secrets later) :
    later.current = secrets.current := by
  rcases creates with rfl | ⟨secret, password, _, found, _, rfl⟩
  · rfl
  · funext other
    by_cases same : other = arn
    · subst same
      rw [SecretsManager.current, SecretsManager.current,
        Function.update_self, found, Option.map_some, Option.map_some,
        Secret.holders_write_of_ne secret (by decide)]
    · rw [SecretsManager.current, SecretsManager.current,
        Function.update_of_ne same]

theorem CreatesAtMost.admits
    {arn token : String} {secrets later : SecretsManager}
    (creates : CreatesAtMost arn token secrets later)
    (admits : Admits secrets arn token) :
    Admits later arn token := by
  rcases creates with rfl | ⟨other, password, _, otherFound, _, rfl⟩
  · exact admits
  · obtain ⟨secret, version, found, enabled, known, notCurrent, pending⟩ :=
      admits
    rw [found] at otherFound
    cases otherFound
    refine
      ⟨_, _, Function.update_self .., ?_,
        Secret.version?_write_self known _ _, ?_, ?_⟩
    · rw [← enabled]
      rw [Secret.write]
      split <;> rfl
    · simpa [Secret.moveLabel, pending] using notCurrent
    · simp [Secret.moveLabel, pending]

/-! ## The functions of the second and the third step -/

/-- What follows the colon in the payload is no format specification,
whatever the password is. -/
theorem payload_raises [PythonLibrary] (password : JsonValue) :
    Python.format "op" (payloadSpec password) =
      .error (.valueError "Invalid format specifier") := by
  obtain ⟨rest, shape⟩ :
      ∃ rest, (payloadSpec password).toList = ' ' :: '"' :: 'r' :: rest := by
    delta payloadSpec
    generalize Python.formatted password = text
    rw [String.toList_append]
    exact ⟨_, rfl⟩
  have nonempty : payloadSpec password ≠ "" := by
    intro empty
    rw [empty] at shape
    cases shape
  have noSpec : ¬ Python.IsFormatSpec (payloadSpec password) := by
    rw [Python.IsFormatSpec, shape, Python.presentationType_of_quote]
    simp
  rw [Python.format, if_neg nonempty, if_neg noSpec]

/-- Called as it is declared, the function of the second step would raise. -/
theorem setSecret_never_returns [PythonLibrary]
    (services : Services) (arn token : String) (session final : Session) :
    (setSecret services arn token).perform session ≠ (.ok (), final) := by
  intro returns
  rw [setSecret] at returns
  obtain ⟨secret, _, _, returns⟩ := perform_bind_eq_ok_iff.1 returns
  obtain ⟨username, _, _, returns⟩ := perform_bind_eq_ok_iff.1 returns
  obtain ⟨response, _, _, returns⟩ := perform_bind_eq_ok_iff.1 returns
  obtain ⟨password, _, _, returns⟩ := perform_bind_eq_ok_iff.1 returns
  obtain ⟨payload, _, formats, _⟩ := perform_bind_eq_ok_iff.1 returns
  rw [payload_raises, perform_orRaise] at formats
  cases formats

/-- So would the function of the third. -/
theorem testSecret_never_returns
    (arn token : String) (session final : Session) :
    (testSecret arn token).perform session ≠ (.ok (), final) := by
  intro returns
  rw [testSecret] at returns
  obtain ⟨text, _, interpolates, _⟩ := perform_bind_eq_ok_iff.1 returns
  have noConversion :
      Python.interpolate "No test secret to run for ".toList [arn] =
        .error .typeError :=
    rfl
  rw [noConversion, perform_orRaise] at interpolates
  cases interpolates

section Calls

variable [PythonLibrary]

/-- Only the function of the first step is called as it is declared. -/
theorem call_createsAtMost
    {services : Services} {excludeCharacters : Option String}
    {arn token step : String} {function : StepFunction}
    (named : stepFunction? services excludeCharacters step = some function)
    (session : Session) :
    CreatesAtMost arn token session.secrets
      ((function.call arn token).perform session).2.secrets := by
  rw [stepFunction?] at named
  split at named
  · cases named
    exact createSecret_createsAtMost services excludeCharacters arn token session
  split at named
  · cases named
    exact Or.inl rfl
  split at named
  · cases named
    exact Or.inl rfl
  split at named
  · cases named
    exact Or.inl rfl
  · cases named

theorem next_secrets
    (world : World) (invocation : RotationInvocation) :
    (rotationMachine.next world invocation).secrets = world.secrets ∨
      ∃ arn token,
        invocation.event.secretId = some arn ∧
          invocation.event.clientRequestToken = some token ∧
          CreatesAtMost arn token world.secrets
            (rotationMachine.next world invocation).secrets := by
  rw [rotationMachine_next]
  rcases lambdaHandler_ends invocation.services invocation.excludeCharacters
      invocation.event world.session with
    ⟨outcome, final, same, ends⟩ |
      ⟨arn, token, step, function, shape, _, named, ends⟩
  · rw [ends]
    exact Or.inl (congrArg World.secrets same)
  · rw [ends, shape]
    exact
      Or.inr
        ⟨arn, token, rfl, rfl, call_createsAtMost named world.session.counted⟩

/-- `AWSCURRENT` stays where it is, whatever the invocations are. -/
theorem current_after
    (world : World) (invocations : List RotationInvocation) :
    (rotationMachine.after world invocations).secrets.current =
      world.secrets.current := by
  apply
    rotationMachine.after_invariant
      (motive := fun later => later.secrets.current = world.secrets.current)
  · intro later invocation same
    rcases next_secrets later invocation with
      unchanged | ⟨arn, token, _, _, creates⟩
    · rw [unchanged, same]
    · rw [creates.current, same]
  · rfl

/-! ## The answers to the last three steps -/

/-- One of the steps after the first. -/
def IsLaterStep (step : String) : Prop :=
  step = "setSecret" ∨ step = "testSecret" ∨ step = "finishSecret"

theorem laterStep_withoutClient
    (services : Services) (excludeCharacters : Option String) {step : String}
    (later : IsLaterStep step) :
    ∃ body,
      stepFunction? services excludeCharacters step =
        some (.withoutClient body) := by
  rcases later with rfl | rfl | rfl
  · exact ⟨setSecret services, by simp [stepFunction?]⟩
  · exact ⟨testSecret, by simp [stepFunction?]⟩
  · exact ⟨finishSecret services, by simp [stepFunction?]⟩

theorem handle_of_admits
    {services : Services} {excludeCharacters : Option String}
    {arn token step : String} {function : StepFunction} {session : Session}
    (accepted : services.fault session.secretCalls = none)
    (admits : Admits session.secrets arn token)
    (named : stepFunction? services excludeCharacters step = some function) :
    (handle services excludeCharacters arn token step).perform session =
      (function.call arn token).perform session.counted := by
  obtain ⟨secret, version, found, enabled, known, notCurrent, pending⟩ := admits
  obtain ⟨metadata, described, sameFlag, listed⟩ :=
    SecretsManager.describeSecret_of_version? found known
      (List.ne_nil_of_mem pending)
  have ends :=
    services.perform_query_of_none
      (fun secrets => secrets.describeSecret arn) accepted
  rw [described] at ends
  rw [handle, perform_bind_of_ok ends]
  simp only [sameFlag, enabled, listed, if_neg notCurrent,
    if_neg (not_not.2 pending), named]

/-- Each of the last three steps raises where the handler would work on the
version, and changes nothing. -/
theorem laterStep_raises
    {world : World} {invocation : RotationInvocation} {arn token step : String}
    (shape : invocation.event = ⟨some arn, some token, some step⟩)
    (later : IsLaterStep step) (succeed : invocation.services.Succeed)
    (admits : Admits world.secrets arn token) :
    rotationMachine.step world invocation = (world, .error .typeError) := by
  obtain ⟨body, named⟩ :=
    laterStep_withoutClient invocation.services invocation.excludeCharacters
      later
  have accepted :
      invocation.services.fault world.session.secretCalls = none :=
    succeed.accepted 0
  have handled := handle_of_admits accepted admits named
  rw [rotationMachine]
  simp only [shape, lambdaHandler, eventMember, pure_bind, handled]
  rfl

theorem admits_next
    {world : World} {invocation : RotationInvocation} {arn token step : String}
    (shape : invocation.event = ⟨some arn, some token, some step⟩)
    (admits : Admits world.secrets arn token) :
    Admits (rotationMachine.next world invocation).secrets arn token := by
  rcases next_secrets world invocation with
    unchanged | ⟨otherArn, otherToken, sameArn, sameToken, creates⟩
  · rw [unchanged]
    exact admits
  · rw [shape] at sameArn sameToken
    cases sameArn
    cases sameToken
    exact creates.admits admits

end Calls

end Rotation

/-! ## Rotations -/

/-- An attempt at a step of a rotation to the version. -/
structure IsAttempt
    (arn token step : String) (invocation : RotationInvocation) : Prop where
  event : invocation.event = ⟨some arn, some token, some step⟩
  succeed : invocation.services.Succeed

/-- The four steps in their order, each attempted at least once. -/
structure RotationRun (arn token : String) where
  creates : List RotationInvocation
  sets : List RotationInvocation
  tests : List RotationInvocation
  finishes : List RotationInvocation
  created : creates ≠ []
  set : sets ≠ []
  tested : tests ≠ []
  finished : finishes ≠ []
  creating : ∀ attempt ∈ creates, IsAttempt arn token "createSecret" attempt
  setting : ∀ attempt ∈ sets, IsAttempt arn token "setSecret" attempt
  testing : ∀ attempt ∈ tests, IsAttempt arn token "testSecret" attempt
  finishing : ∀ attempt ∈ finishes, IsAttempt arn token "finishSecret" attempt

def RotationRun.invocations {arn token : String} (run : RotationRun arn token) :
    List RotationInvocation :=
  run.creates ++ (run.sets ++ (run.tests ++ run.finishes))

section Runs

open Rotation

variable [PythonLibrary]

/-- The secret is to be rotated to a pending version, and its current one has
a username and a password. -/
structure RotationStart
    (secrets : SecretsManager) (arn token : String) (username : JsonValue) :
    Prop where
  admits : Admits secrets arn token
  credentials :
    ∃ value members password,
      secrets.getSecretValue arn none none = .ok value ∧
        Services.parseSecret value = .ok (.object members) ∧
        members.lookup "username" = some username ∧
        members.lookup "password" = some password

/-- The value is the password or a JSON object with it. -/
def StoresPassword (value : SecretValue) (password : String) : Prop :=
  value = .string password ∨
    ∃ object,
      Services.parseSecret value = .ok object ∧
        Python.subscript object "password" = .ok (.string password)

/-- Nothing raises, the pending version has become current, and the user has
its password. -/
structure EndsInAgreement
    (world : World) (arn token : String) (username : JsonValue)
    (invocations : List RotationInvocation) : Prop where
  returns :
    ∀ outcome ∈ rotationMachine.outputs world invocations, outcome = .ok ()
  promoted :
    (rotationMachine.after world invocations).secrets.current arn =
      some [token]
  agrees :
    ∃ value password user,
      (rotationMachine.after world invocations).secrets.value? arn token =
          some value ∧
        StoresPassword value password ∧
        (rotationMachine.after world invocations).domain
            (Domain.internalUserPath username) =
          some user ∧
        Python.subscript user "password" = .ok (.string password)

theorem admits_after
    {arn token step : String} {invocations : List RotationInvocation}
    (attempts : ∀ attempt ∈ invocations, IsAttempt arn token step attempt)
    {world : World} (admits : Admits world.secrets arn token) :
    Admits (rotationMachine.after world invocations).secrets arn token := by
  induction invocations generalizing world with
  | nil => exact admits
  | cons attempt rest inductionHypothesis =>
      obtain ⟨first, others⟩ := List.forall_mem_cons.1 attempts
      exact inductionHypothesis others (admits_next first.event admits)

/-- The first attempt to set the password raises. -/
theorem rotation_raises
    {world : World} {arn token : String}
    (admits : Admits world.secrets arn token) (run : RotationRun arn token) :
    .error .typeError ∈ rotationMachine.outputs world run.invocations := by
  obtain ⟨attempt, rest, shape⟩ := List.exists_cons_of_ne_nil run.set
  have isAttempt : IsAttempt arn token "setSecret" attempt := by
    apply run.setting
    rw [shape]
    exact List.Mem.head rest
  have raises :=
    laterStep_raises isAttempt.event (Or.inl rfl) isAttempt.succeed
      (admits_after run.creating admits)
  rw [RotationRun.invocations, shape, Machine.outputs_append]
  apply List.mem_append_right
  rw [List.cons_append, Machine.outputs_cons, Machine.output, raises]
  exact List.Mem.head _

/-- The pending version is not promoted by any invocations. -/
theorem rotation_does_not_promote
    {world : World} {arn token : String}
    (admits : Admits world.secrets arn token)
    (invocations : List RotationInvocation) :
    (rotationMachine.after world invocations).secrets.current arn ≠
      some [token] := by
  obtain ⟨secret, version, found, _, known, notCurrent, _⟩ := admits
  rw [current_after, SecretsManager.current, found, Option.map_some, ne_eq,
    Option.some.injEq]
  intro promoted
  have holder : token ∈ secret.holders "AWSCURRENT" := by
    rw [promoted]
    exact List.Mem.head []
  obtain ⟨⟨id, other⟩, member, rfl⟩ := List.mem_map.1 holder
  rw [List.mem_filter] at member
  have sameVersion :=
    Secret.lookup_of_mem secret.distinct member.1
  rw [Secret.version?, sameVersion] at known
  cases known
  exact notCurrent (by simpa using member.2)

/-- No rotation ends in agreement. -/
theorem rotation_never_agrees
    {world : World} {arn token : String} {username : JsonValue}
    (start : RotationStart world.secrets arn token username)
    (run : RotationRun arn token) :
    ¬ EndsInAgreement world arn token username run.invocations := by
  intro agreement
  have raised := rotation_raises start.admits run
  have returned := agreement.returns _ raised
  cases returned

end Runs

theorem userAttempt_isAttempt (step password : String) :
    IsAttempt "user-secret" "v2" step (userAttempt step password) where
  event := rfl
  succeed :=
    { accepted := fun _ => rfl
      answered := by
        intro number domain request
        have ok : (⟨200, ""⟩ : Response).Ok := by decide
        exact ok }

/-- The rotation of the user's secret with every step attempted once. -/
def userRotation : RotationRun "user-secret" "v2" where
  creates := [userAttempt "createSecret" "second"]
  sets := [userAttempt "setSecret" "second"]
  tests := [userAttempt "testSecret" "second"]
  finishes := [userAttempt "finishSecret" "second"]
  created := List.cons_ne_nil _ _
  set := List.cons_ne_nil _ _
  tested := List.cons_ne_nil _ _
  finished := List.cons_ne_nil _ _
  creating :=
    List.forall_mem_singleton.2 (userAttempt_isAttempt _ _)
  setting :=
    List.forall_mem_singleton.2 (userAttempt_isAttempt _ _)
  testing :=
    List.forall_mem_singleton.2 (userAttempt_isAttempt _ _)
  finishing :=
    List.forall_mem_singleton.2 (userAttempt_isAttempt _ _)

/-- Three steps of it raise, and the first version stays current. -/
theorem user_rotation_raises :
    letI := plainPython
    rotationMachine.outputs userWorld userRotation.invocations =
        [.ok (), .error .typeError, .error .typeError, .error .typeError] ∧
      (rotationMachine.after userWorld
          userRotation.invocations).secrets.current "user-secret" =
        some ["v1"] ∧
      ¬ EndsInAgreement userWorld "user-secret" "v2" (.string "user")
        userRotation.invocations := by
  let python := plainPython
  have outcomes :
      rotationMachine.outputs userWorld userRotation.invocations =
        [.ok (), .error .typeError, .error .typeError,
          .error .typeError] := by
    decide +kernel
  have current :
      (rotationMachine.after userWorld
          userRotation.invocations).secrets.current "user-secret" =
        some ["v1"] := by
    decide +kernel
  refine ⟨outcomes, current, ?_⟩
  intro agreement
  have promoted := agreement.promoted
  rw [current] at promoted
  revert promoted
  decide

theorem rotation_never_agrees_user :
    letI := plainPython
    ¬ EndsInAgreement userWorld "user-secret" "v2" (.string "user")
        userRotation.invocations :=
  letI := plainPython
  rotation_never_agrees
    ⟨⟨userSecret, ⟨none, ["AWSPENDING"]⟩, rfl, rfl, rfl, by decide, by decide⟩,
      ⟨_, _, .string "first", rfl, rfl, rfl, rfl⟩⟩
    userRotation

end SparkObservability
