import SparkObservability.Rotation.Agreement
import SparkObservability.Services.Footprint

/-!
# What the rotation can touch

The rotation never changes the domain, it cannot see it either, and whoever
reads current secrets reads the same before and after it.
-/

namespace SparkObservability

namespace Rotation

open Effect Services

variable (services : Services)

variable {services} in
/-- The function of a step creates the secret, or cannot be called. -/
theorem call_creates_or_raises [PythonLibrary]
    {excludeCharacters : Option String} {step : String}
    {function : StepFunction}
    (named : stepFunction? services excludeCharacters step = some function)
    (arn token : String) :
    function.call arn token =
        createSecret services excludeCharacters arn token ∨
      function.call arn token = throw .typeError := by
  rw [stepFunction?] at named
  split at named
  · cases named
    exact Or.inl rfl
  -- the other functions do not declare the client
  right
  split at named
  · cases named
    rfl
  split at named
  · cases named
    rfl
  split at named
  · cases named
    rfl
  · cases named

/-! ## The domain -/

def SameDomain (session final : Session) : Prop :=
  final.domain = session.domain

theorem sameDomain_refl (session : Session) : SameDomain session session :=
  rfl

theorem sameDomain_trans
    (session middle final : Session)
    (first : SameDomain session middle) (second : SameDomain middle final) :
    SameDomain session final :=
  second.trans first

theorem sameDomain_command
    (operation : SecretsManager → Except PyException SecretsManager) :
    Keeps SameDomain (services.command operation) := by
  intro session
  apply command_cases services (motive := SameDomain session)
  · exact sameDomain_refl session
  · intro later _
    exact sameDomain_refl session

theorem sameDomain_createSecret
    (excludeCharacters : Option String) (arn token : String) :
    Keeps SameDomain
      (createSecret services excludeCharacters arn token) := by
  have queried {α : Type}
      (operation : SecretsManager → Except PyException α) :
      Keeps SameDomain (services.query operation) :=
    services.keeps_query sameDomain_refl operation
  refine (queried _).bind sameDomain_trans fun _ => ?_
  apply Keeps.tryCatch sameDomain_trans
  · refine (queried _).bind sameDomain_trans fun _ => ?_
    exact keeps_pure sameDomain_refl ()
  · intro error
    split
    · refine (queried _).bind sameDomain_trans fun password => ?_
      exact sameDomain_command services _
    · exact keeps_throw sameDomain_refl error

variable [PythonLibrary]

theorem sameDomain_call
    {excludeCharacters : Option String} {step : String}
    {function : StepFunction}
    (named : stepFunction? services excludeCharacters step = some function)
    (arn token : String) :
    Keeps SameDomain (function.call arn token) := by
  rcases call_creates_or_raises named arn token with creates | raises
  · rw [creates]
    exact sameDomain_createSecret services excludeCharacters arn token
  · rw [raises]
    exact keeps_throw sameDomain_refl _

theorem sameDomain_lambdaHandler
    (excludeCharacters : Option String) (event : RotationEvent)
    (session : Session) :
    SameDomain session
      ((lambdaHandler services excludeCharacters event).perform
        session).2 := by
  rcases lambdaHandler_ends services excludeCharacters event session with
    ⟨outcome, final, same, ends⟩ |
      ⟨arn, token, step, function, _, _, named, ends⟩
  · rw [ends]
    exact congrArg World.domain same
  · rw [ends]
    exact sameDomain_call services named arn token session.counted

/-! ## What the outcome depends on -/

/-- What the rotation can see of two sessions is the same. -/
def SameSecrets (session other : Session) : Prop :=
  session.secrets = other.secrets ∧ session.secretCalls = other.secretCalls

section SameSecrets

omit [PythonLibrary]

theorem SameSecrets.counted {session other : Session}
    (same : SameSecrets session other) :
    SameSecrets session.counted other.counted :=
  ⟨same.1, congrArg (· + 1) same.2⟩

theorem indistinct_query
    {α : Type} (operation : SecretsManager → Except PyException α) :
    Indistinct SameSecrets (services.query operation) := by
  intro session other same
  cases refused : services.fault other.secretCalls with
  | some fault =>
      have otherRefused := refused
      rw [← same.2] at otherRefused
      rw [services.perform_query_of_fault operation refused,
        services.perform_query_of_fault operation otherRefused]
      exact ⟨rfl, same.counted⟩
  | none =>
      have otherAccepted := refused
      rw [← same.2] at otherAccepted
      rw [services.perform_query_of_none operation refused,
        services.perform_query_of_none operation otherAccepted, same.1]
      exact ⟨rfl, same.counted⟩

theorem indistinct_command
    (operation : SecretsManager → Except PyException SecretsManager) :
    Indistinct SameSecrets (services.command operation) := by
  intro session other same
  cases refused : services.fault other.secretCalls with
  | some fault =>
      have otherRefused := refused
      rw [← same.2] at otherRefused
      rw [services.perform_command_of_fault operation refused,
        services.perform_command_of_fault operation otherRefused]
      exact ⟨rfl, same.counted⟩
  | none =>
      have otherAccepted := refused
      rw [← same.2] at otherAccepted
      rw [services.perform_command_of_none operation refused,
        services.perform_command_of_none operation otherAccepted, same.1]
      cases operation other.secrets with
      | error error => exact ⟨rfl, same.counted⟩
      | ok later => exact ⟨rfl, rfl, same.counted.2⟩

theorem indistinct_createSecret
    (excludeCharacters : Option String) (arn token : String) :
    Indistinct SameSecrets
      (createSecret services excludeCharacters arn token) := by
  refine (indistinct_query services _).bind fun _ => ?_
  apply Indistinct.tryCatch
  · exact (indistinct_query services _).bind fun _ => indistinct_pure ()
  · intro error
    split
    · refine (indistinct_query services _).bind fun password => ?_
      exact indistinct_command services _
    · exact indistinct_throw error

theorem indistinct_eventMember (key : String) (value : Option String) :
    Indistinct SameSecrets (eventMember key value) := by
  cases value with
  | none => exact indistinct_throw _
  | some value => exact indistinct_pure value

end SameSecrets

theorem indistinct_call
    {excludeCharacters : Option String} {step : String}
    {function : StepFunction}
    (named : stepFunction? services excludeCharacters step = some function)
    (arn token : String) :
    Indistinct SameSecrets (function.call arn token) := by
  rcases call_creates_or_raises named arn token with creates | raises
  · rw [creates]
    exact indistinct_createSecret services excludeCharacters arn token
  · rw [raises]
    exact indistinct_throw _

theorem indistinct_handle
    (excludeCharacters : Option String) (arn token step : String) :
    Indistinct SameSecrets
      (handle services excludeCharacters arn token step) := by
  refine (indistinct_query services _).bind fun metadata => ?_
  split
  · exact indistinct_throw _
  · exact indistinct_throw _
  split
  · exact indistinct_throw _
  split
  · exact indistinct_pure ()
  split
  · exact indistinct_throw _
  split
  next named => exact indistinct_call services named arn token
  · exact indistinct_throw _

theorem indistinct_lambdaHandler
    (excludeCharacters : Option String) (event : RotationEvent) :
    Indistinct SameSecrets
      (lambdaHandler services excludeCharacters event) := by
  refine (indistinct_eventMember _ _).bind fun arn => ?_
  refine (indistinct_eventMember _ _).bind fun token => ?_
  refine (indistinct_eventMember _ _).bind fun step => ?_
  exact indistinct_handle services excludeCharacters arn token step

end Rotation

/-! ## Reading current secrets -/

namespace Secret

/-- The value of the current version. -/
def currentValue (secret : Secret) : Option SecretValue :=
  (secret.select none none).bind SecretVersion.value

theorem currentValue_eq (secret : Secret) :
    secret.currentValue =
      (secret.holders "AWSCURRENT").head?.bind secret.value? := by
  rw [currentValue, select, Option.getD_none, Option.bind_assoc]
  rfl

theorem mem_stages_of_mem_holders
    {secret : Secret} {id label : String} {version : SecretVersion}
    (holds : id ∈ secret.holders label)
    (known : secret.version? id = some version) :
    label ∈ version.stages := by
  rw [holders, List.mem_map] at holds
  obtain ⟨⟨other, held⟩, isHeld, rfl⟩ := holds
  rw [List.mem_filter, decide_eq_true_iff] at isHeld
  have found := lookup_of_mem secret.distinct isHeld.1
  rw [version?, found] at known
  cases known
  exact isHeld.2

/-- A version that is not current can be written under another label. -/
theorem currentValue_write
    {secret : Secret} {token label : String} {version : SecretVersion}
    (known : secret.version? token = some version)
    (notCurrent : "AWSCURRENT" ∉ version.stages)
    (otherLabel : "AWSCURRENT" ≠ label) (value : SecretValue) :
    (secret.write token value label).currentValue = secret.currentValue := by
  rw [currentValue_eq, currentValue_eq,
    holders_write_of_ne secret otherLabel]
  cases first : (secret.holders "AWSCURRENT").head? with
  | none => rfl
  | some id =>
      have holds : id ∈ secret.holders "AWSCURRENT" :=
        List.mem_of_head? first
      have different : id ≠ token := by
        rintro rfl
        exact notCurrent (mem_stages_of_mem_holders holds known)
      exact value?_write_of_ne secret different value label

end Secret

/-- Only the current values are read. -/
theorem SecretsManager.reading_of_currentValue [PythonLibrary]
    {secrets later : SecretsManager} {arn : String}
    (same :
      (later arn).bind Secret.currentValue =
        (secrets arn).bind Secret.currentValue) :
    later.reading arn = secrets.reading arn := by
  have answer (stored : SecretsManager) :
      stored.getSecretValue arn none none =
        ((stored arn).bind Secret.currentValue).elim
          (.error resourceNotFound) .ok := by
    have sameValue :
        ((stored arn).bind fun secret =>
            (secret.select none none).bind SecretVersion.value) =
          (stored arn).bind Secret.currentValue := rfl
    rw [getSecretValue, sameValue]
    cases (stored arn).bind Secret.currentValue <;> rfl
  rw [reading, reading, answer, answer, same]

namespace Rotation

open Effect Services

variable [PythonLibrary]

theorem reading_of_createsAtMost
    {secrets later : SecretsManager} {arn token : String}
    (admits : Admits secrets arn token)
    (creates : CreatesAtMost arn token secrets later) :
    later.reading = secrets.reading := by
  rcases creates with rfl | ⟨secret, password, _, found, _, rfl⟩
  · rfl
  obtain ⟨admitted, version, admittedFound, _, known, notCurrent, _⟩ := admits
  rw [found] at admittedFound
  cases admittedFound
  have sameValue :
      (secret.write token (.string password) "AWSPENDING").currentValue =
        secret.currentValue :=
    Secret.currentValue_write known notCurrent (by decide) _
  funext other
  apply SecretsManager.reading_of_currentValue
  by_cases same : other = arn
  · subst same
    rw [Function.update_self, found, Option.bind_some, Option.bind_some,
      sameValue]
  · rw [Function.update_of_ne same]

/-- Whoever reads current secrets does not notice a rotation. -/
theorem reading_next (world : World) (invocation : RotationInvocation) :
    (rotationMachine.next world invocation).secrets.reading =
      world.secrets.reading := by
  rw [rotationMachine_next]
  rcases lambdaHandler_ends invocation.services invocation.excludeCharacters
      invocation.event world.session with
    ⟨outcome, final, same, ends⟩ |
      ⟨arn, token, step, function, _, admits, named, ends⟩
  · rw [ends]
    exact congrArg (fun later => later.secrets.reading) same
  · rw [ends]
    exact
      reading_of_createsAtMost admits
        (call_createsAtMost named world.session.counted)

theorem domain_next (world : World) (invocation : RotationInvocation) :
    (rotationMachine.next world invocation).domain = world.domain := by
  rw [rotationMachine_next]
  exact
    sameDomain_lambdaHandler invocation.services invocation.excludeCharacters
      invocation.event world.session

/-- The domain makes no difference to a rotation. -/
theorem step_of_sameSecrets
    {world other : World} (same : world.secrets = other.secrets)
    (invocation : RotationInvocation) :
    rotationMachine.output world invocation =
        rotationMachine.output other invocation ∧
      (rotationMachine.next world invocation).secrets =
        (rotationMachine.next other invocation).secrets := by
  have sessions : SameSecrets world.session other.session := ⟨same, rfl⟩
  obtain ⟨sameOutcome, sameFinal⟩ :=
    indistinct_lambdaHandler invocation.services invocation.excludeCharacters
      invocation.event _ _ sessions
  exact ⟨sameOutcome, sameFinal.1⟩

end Rotation

end SparkObservability
