import SparkObservability.Rotation.Operations

/-!
# What no rotation can do

Whatever the invocations are, they write no value twice, keep exactly one
current version of every secret, and change nothing unless the version they
are about is pending and not current.
-/

namespace SparkObservability

/-! ## Secrets that evolve -/

namespace Secret

/-- Exactly one version is current. -/
def OneCurrent (secret : Secret) : Prop :=
  ∃ id, secret.holders "AWSCURRENT" = [id]

theorem mem_versions_of_version?
    {secret : Secret} {id : String} {version : SecretVersion}
    (found : secret.version? id = some version) :
    (id, version) ∈ secret.versions := by
  obtain ⟨initial, rest, shape, _⟩ := List.lookup_eq_some_iff.1 found
  rw [shape]
  exact List.mem_append_right initial (List.Mem.head rest)

/-- Where the keys are distinct, the first entry with a key is the only
one. -/
theorem lookup_of_mem
    {Entry : Type} {entries : List (String × Entry)}
    (distinct : (entries.map Prod.fst).Nodup) {key : String} {entry : Entry}
    (member : (key, entry) ∈ entries) :
    entries.lookup key = some entry := by
  obtain ⟨initial, rest, rfl⟩ := List.append_of_mem member
  rw [List.map_append, List.map_cons, List.nodup_append] at distinct
  refine List.lookup_eq_some_iff.2 ⟨initial, rest, rfl, ?_⟩
  intro earlier earlierMember
  have different :=
    distinct.2.2 earlier.1 (List.mem_map_of_mem earlierMember) key
      (List.Mem.head _)
  simpa using Ne.symm different

end Secret

namespace SecretsManager

/-- The value of a version of a secret, once it has been written. -/
def value? (secrets : SecretsManager) (arn id : String) :
    Option SecretValue :=
  (secrets arn).bind fun secret => secret.value? id

def OneCurrent (secrets : SecretsManager) : Prop :=
  ∀ arn secret, secrets arn = some secret → secret.OneCurrent

/-- What has been written stays, and so does exactly one current version of
every secret. -/
structure Evolves (secrets later : SecretsManager) : Prop where
  written :
    ∀ arn id value,
      secrets.value? arn id = some value → later.value? arn id = some value
  current : secrets.OneCurrent → later.OneCurrent

namespace Evolves

theorem refl (secrets : SecretsManager) : secrets.Evolves secrets :=
  ⟨fun _ _ _ written => written, fun current => current⟩

theorem trans
    {secrets middle later : SecretsManager}
    (first : secrets.Evolves middle) (second : middle.Evolves later) :
    secrets.Evolves later where
  written arn id value written :=
    second.written arn id value (first.written arn id value written)
  current current := second.current (first.current current)

/-- It is enough to look at the secret that changes. -/
theorem update
    {secrets : SecretsManager} {arn : String} {secret changed : Secret}
    (found : secrets arn = some secret)
    (written :
      ∀ id value,
        secret.value? id = some value → changed.value? id = some value)
    (current : secret.OneCurrent → changed.OneCurrent) :
    secrets.Evolves (Function.update secrets arn (some changed)) where
  written other id value writtenBefore := by
    by_cases same : other = arn
    · subst same
      rw [value?, found] at writtenBefore
      rw [value?, Function.update_self]
      exact written id value writtenBefore
    · rw [value?, Function.update_of_ne same]
      exact writtenBefore
  current currentBefore := by
    intro other reached reachedAt
    by_cases same : other = arn
    · subst same
      rw [Function.update_self, Option.some.injEq] at reachedAt
      subst reachedAt
      exact current (currentBefore other secret found)
    · rw [Function.update_of_ne same] at reachedAt
      exact currentBefore other reached reachedAt

end Evolves

theorem putSecretValue_eq_ok
    {secrets later : SecretsManager} {arn token label : String}
    {value : SecretValue}
    (put : secrets.putSecretValue arn token value label = .ok later) :
    ∃ secret,
      secrets arn = some secret ∧
        later =
          Function.update secrets arn
            (some (secret.write token value label)) := by
  rw [putSecretValue] at put
  cases found : secrets arn with
  | none =>
      rw [found] at put
      cases put
  | some secret =>
      rw [found] at put
      cases put
      exact ⟨secret, rfl, rfl⟩

/-- The first value of a version may be written under any label but
`AWSCURRENT`. -/
theorem evolves_of_write
    {secrets : SecretsManager} {arn token label : String} {secret : Secret}
    (found : secrets arn = some secret) (otherLabel : "AWSCURRENT" ≠ label)
    (unwritten : secret.value? token = none) (value : SecretValue) :
    secrets.Evolves
      (Function.update secrets arn
        (some (secret.write token value label))) := by
  apply Evolves.update found
  · intro id written writtenBefore
    have different : id ≠ token := by
      rintro rfl
      rw [unwritten] at writtenBefore
      cases writtenBefore
    rw [Secret.value?_write_of_ne secret different]
    exact writtenBefore
  · rintro ⟨id, current⟩
    refine ⟨id, ?_⟩
    rw [Secret.holders_write_of_ne secret otherLabel]
    exact current

/-- Wherever `AWSCURRENT` is moved to, it is on that version only. -/
theorem evolves_of_updateSecretVersionStage
    {secrets later : SecretsManager} {arn target : String}
    {source : Option String}
    (updated :
      secrets.updateSecretVersionStage arn "AWSCURRENT" target source =
        .ok later) :
    secrets.Evolves later := by
  rw [updateSecretVersionStage.eq_def] at updated
  split at updated
  · cases updated
  · cases updated
  · next secret source found =>
      split at updated
      · cases updated
      · next known =>
          split at updated
          · cases updated
          · cases updated
            apply Evolves.update found
            · intro id value written
              rw [Secret.value?_moveLabel]
              exact written
            · intro _
              exact
                ⟨target,
                  Secret.holders_moveLabel_self secret (not_not.1 known) _⟩

/-- A version with a label is listed. -/
theorem describeSecret_of_version?
    {secrets : SecretsManager} {arn token : String} {secret : Secret}
    {version : SecretVersion}
    (found : secrets arn = some secret)
    (known : secret.version? token = some version)
    (labelled : version.stages ≠ []) :
    ∃ metadata,
      secrets.describeSecret arn = .ok metadata ∧
        metadata.rotationEnabled = secret.rotationEnabled ∧
        metadata.versionIdsToStages.lookup token = some version.stages := by
  rw [describeSecret, found]
  refine ⟨_, rfl, rfl, ?_⟩
  apply Secret.lookup_of_mem
  · rw [List.map_map]
    exact secret.distinct.sublist (List.filter_sublist.map Prod.fst)
  · refine List.mem_map.2 ⟨(token, version), ?_, rfl⟩
    rw [List.mem_filter]
    exact ⟨Secret.mem_versions_of_version? known, by simpa using labelled⟩

/-- A listed version is listed with its labels. -/
theorem version?_of_listed
    {secrets : SecretsManager} {arn token : String} {stages : List String}
    {metadata : Metadata}
    (described : secrets.describeSecret arn = .ok metadata)
    (listed : metadata.versionIdsToStages.lookup token = some stages) :
    ∃ secret version,
      secrets arn = some secret ∧
        metadata.rotationEnabled = secret.rotationEnabled ∧
        secret.version? token = some version ∧ version.stages = stages := by
  rw [describeSecret] at described
  cases found : secrets arn with
  | none =>
      rw [found] at described
      cases described
  | some secret =>
      rw [found] at described
      cases described
      obtain ⟨initial, rest, shape, _⟩ := List.lookup_eq_some_iff.1 listed
      have member : (token, stages) ∈ initial ++ (token, stages) :: rest :=
        List.mem_append_right initial (List.Mem.head rest)
      rw [← shape, List.mem_map] at member
      obtain ⟨⟨id, version⟩, inVersions, same⟩ := member
      cases same
      have inAll := (List.mem_filter.1 inVersions).1
      exact
        ⟨secret, version, rfl, rfl,
          Secret.lookup_of_mem secret.distinct inAll, rfl⟩

end SecretsManager

/-! ## What the parts of an invocation keep -/

namespace Rotation

open Effect

variable (services : Services)

/-- The secrets of the one session evolve to those of the other. -/
def Evolves (session final : Session) : Prop :=
  session.secrets.Evolves final.secrets

theorem evolves_refl (session : Session) : Evolves session session :=
  SecretsManager.Evolves.refl session.secrets

theorem evolves_trans
    (session middle final : Session)
    (first : Evolves session middle) (second : Evolves middle final) :
    Evolves session final :=
  SecretsManager.Evolves.trans first second

/-- A query that raises ends the computation, with nothing changed. -/
theorem query_bind_cases
    {α β : Type} {operation : SecretsManager → Except PyException α}
    {next : α → Lambda β} {session : Session} {motive : Session → Prop}
    (raises : motive session.counted)
    (returns :
      ∀ value,
        operation session.secrets = .ok value →
          motive ((next value).perform session.counted).2) :
    motive ((services.query operation >>= next).perform session).2 := by
  rcases services.query_ends operation session with ⟨fault, ends⟩ | ends
  · rw [perform_bind_of_error ends]
    exact raises
  · cases answer : operation session.secrets with
    | error error =>
        rw [answer] at ends
        rw [perform_bind_of_error ends]
        exact raises
    | ok value =>
        rw [answer] at ends
        rw [perform_bind_of_ok ends]
        exact returns value answer

theorem command_cases
    {operation : SecretsManager → Except PyException SecretsManager}
    {session : Session} {motive : Session → Prop}
    (raises : motive session.counted)
    (returns :
      ∀ later,
        operation session.secrets = .ok later →
          motive { session.counted with secrets := later }) :
    motive ((services.command operation).perform session).2 := by
  cases refused : services.fault session.secretCalls with
  | some fault =>
      rw [services.perform_command_of_fault operation refused]
      exact raises
  | none =>
      rw [services.perform_command_of_none operation refused]
      split
      · next changed => exact returns _ changed
      · exact raises

theorem keeps_send (request : Request) :
    Keeps Evolves (services.send request) :=
  fun session => evolves_refl session

/-! ## The four steps -/

/-- `createSecret` writes only what it could not read. -/
def CreatesAtMost
    (arn token : String) (secrets later : SecretsManager) : Prop :=
  later = secrets ∨
    ∃ secret password error,
      secrets arn = some secret ∧
        secrets.getSecretValue arn (some token) (some "AWSPENDING") =
          .error error ∧
        later =
          Function.update secrets arn
            (some (secret.write token (.string password) "AWSPENDING"))

theorem createSecret_createsAtMost
    (excludeCharacters : Option String) (arn token : String)
    (session : Session) :
    CreatesAtMost arn token session.secrets
      ((createSecret services excludeCharacters arn token).perform
        session).2.secrets := by
  rw [createSecret]
  refine
    query_bind_cases services
      (motive := fun final =>
        CreatesAtMost arn token session.secrets final.secrets)
      (Or.inl rfl) ?_
  intro current _
  rw [perform_tryCatch, perform_bind]
  rcases services.query_ends
      (fun secrets =>
        secrets.getSecretValue arn (some token) (some "AWSPENDING"))
      session.counted with ⟨fault, ends⟩ | ends
  · rw [ends]
    simp only [if_neg fault.notMissing]
    exact Or.inl rfl
  · rw [ends]
    cases readable :
        session.secrets.getSecretValue arn (some token)
          (some "AWSPENDING") with
    | ok value =>
        simp only [Session.counted, readable]
        exact Or.inl rfl
    | error error =>
        simp only [Session.counted, readable]
        split
        · refine
            query_bind_cases services
              (motive := fun final =>
                CreatesAtMost arn token session.secrets final.secrets)
              (Or.inl rfl) ?_
          intro password _
          refine
            command_cases services
              (motive := fun final =>
                CreatesAtMost arn token session.secrets final.secrets)
              (Or.inl rfl) ?_
          intro later put
          obtain ⟨secret, found, shape⟩ :=
            SecretsManager.putSecretValue_eq_ok put
          exact
            Or.inr ⟨secret, password, error, found, readable, shape⟩
        · exact Or.inl rfl

/-- A pending version that cannot be read has no value. -/
theorem unwritten_of_unreadable
    {secrets : SecretsManager} {arn token : String} {secret : Secret}
    {version : SecretVersion}
    (found : secrets arn = some secret)
    (known : secret.version? token = some version)
    (pending : "AWSPENDING" ∈ version.stages)
    {error : PyException}
    (unreadable :
      secrets.getSecretValue arn (some token) (some "AWSPENDING") =
        .error error) :
    secret.value? token = none := by
  have selected :
      secret.select (some token) (some "AWSPENDING") = some version := by
    simp [Secret.select, known, pending]
  cases written : version.value with
  | none => simp [Secret.value?, known, written]
  | some value =>
      simp [SecretsManager.getSecretValue, found, selected, written] at unreadable

theorem createSecret_evolves
    (excludeCharacters : Option String) {arn token : String}
    {session : Session} {secret : Secret} {version : SecretVersion}
    (found : session.secrets arn = some secret)
    (known : secret.version? token = some version)
    (pending : "AWSPENDING" ∈ version.stages) :
    Evolves session
      ((createSecret services excludeCharacters arn token).perform
        session).2 := by
  rcases createSecret_createsAtMost services excludeCharacters arn token
      session with same | ⟨other, password, error, otherFound, unreadable, wrote⟩
  · rw [Evolves, same]
    exact SecretsManager.Evolves.refl session.secrets
  · rw [found] at otherFound
    cases otherFound
    rw [Evolves, wrote]
    exact
      SecretsManager.evolves_of_write found (by decide)
        (unwritten_of_unreadable found known pending unreadable) _

theorem keeps_setSecret [PythonLibrary] (arn token : String) :
    Keeps Evolves (setSecret services arn token) := by
  have keepsSecret :=
    services.keeps_getSecret evolves_refl evolves_refl evolves_trans arn
  refine keepsSecret.bind evolves_trans ?_
  intro secret
  refine (keeps_orRaise evolves_refl _).bind evolves_trans ?_
  intro username
  refine (keeps_send services _).bind evolves_trans ?_
  intro response
  refine (keeps_orRaise evolves_refl _).bind evolves_trans ?_
  intro password
  refine (keeps_orRaise evolves_refl _).bind evolves_trans ?_
  intro payload
  split
  · exact keeps_pure evolves_refl ()
  · exact keeps_throw evolves_refl _

theorem keeps_testSecret (arn token : String) :
    Keeps Evolves (testSecret arn token) :=
  (keeps_orRaise evolves_refl _).bind evolves_trans fun _ =>
    keeps_pure evolves_refl ()

/-- `finishSecret` would leave one current version, whichever it finds. -/
theorem keeps_finishSecret (arn token : String) :
    Keeps Evolves (finishSecret services arn token) := by
  refine (services.keeps_query evolves_refl _).bind evolves_trans ?_
  intro metadata
  dsimp only
  split
  · exact keeps_pure evolves_refl ()
  · intro session
    apply command_cases services (motive := Evolves session)
    · exact evolves_refl session
    · intro later updated
      exact SecretsManager.evolves_of_updateSecretVersionStage updated

/-! ## The handler -/

/-- The version is one that the handler works on. -/
def Admits (secrets : SecretsManager) (arn token : String) : Prop :=
  ∃ secret version,
    secrets arn = some secret ∧ secret.rotationEnabled = some true ∧
      secret.version? token = some version ∧
      "AWSCURRENT" ∉ version.stages ∧ "AWSPENDING" ∈ version.stages

def StepFunction.body : StepFunction → String → String → Lambda Unit
  | .withClient body => body
  | .withoutClient body => body

/-- A call runs the body of the function or raises before it. -/
theorem call_evolves_of_body
    {function : StepFunction} {arn token : String} {session : Session}
    (evolves :
      Evolves session ((function.body arn token).perform session).2) :
    Evolves session ((function.call arn token).perform session).2 := by
  cases function with
  | withClient body => exact evolves
  | withoutClient body => exact evolves_refl session

theorem body_evolves [PythonLibrary]
    {excludeCharacters : Option String} {arn token step : String}
    {function : StepFunction} {session : Session}
    (named : stepFunction? services excludeCharacters step = some function)
    (admits : Admits session.secrets arn token) :
    Evolves session ((function.body arn token).perform session).2 := by
  obtain ⟨secret, version, found, _, known, _, pending⟩ := admits
  rw [stepFunction?] at named
  split at named
  · cases named
    exact createSecret_evolves services excludeCharacters found known pending
  split at named
  · cases named
    exact keeps_setSecret services arn token session
  split at named
  · cases named
    exact keeps_testSecret arn token session
  split at named
  · cases named
    exact keeps_finishSecret services arn token session
  · cases named

/-- The handler calls the function of the step, if it works on the version,
and otherwise it only reads. -/
theorem handle_ends [PythonLibrary]
    (excludeCharacters : Option String) (arn token step : String)
    (session : Session) :
    (∃ outcome,
        (handle services excludeCharacters arn token step).perform session =
          (outcome, session.counted)) ∨
      ∃ function,
        Admits session.secrets arn token ∧
          stepFunction? services excludeCharacters step = some function ∧
          (handle services excludeCharacters arn token step).perform session =
            (function.call arn token).perform session.counted := by
  rw [handle]
  rcases services.query_ends (fun secrets => secrets.describeSecret arn)
      session with ⟨fault, ends⟩ | ends
  · rw [perform_bind_of_error ends]
    exact Or.inl ⟨_, rfl⟩
  cases described : session.secrets.describeSecret arn with
  | error error =>
      rw [described] at ends
      rw [perform_bind_of_error ends]
      exact Or.inl ⟨_, rfl⟩
  | ok metadata =>
      rw [described] at ends
      rw [perform_bind_of_ok ends]
      split
      · exact Or.inl ⟨_, rfl⟩
      · exact Or.inl ⟨_, rfl⟩
      next enabled =>
      split
      · exact Or.inl ⟨_, rfl⟩
      next stages listed =>
      obtain ⟨secret, version, found, sameFlag, known, rfl⟩ :=
        SecretsManager.version?_of_listed described listed
      split
      · exact Or.inl ⟨_, rfl⟩
      next notCurrent =>
      split
      · exact Or.inl ⟨_, rfl⟩
      next notPending =>
      split
      · next function named =>
          refine Or.inr ⟨function, ?_, named, rfl⟩
          exact
            ⟨secret, version, found, sameFlag ▸ enabled, known, notCurrent,
              not_not.1 notPending⟩
      · exact Or.inl ⟨_, rfl⟩

/-- The event names a version that the handler works on. -/
def Admitted (secrets : SecretsManager) (event : RotationEvent) : Prop :=
  ∃ arn token,
    event.secretId = some arn ∧ event.clientRequestToken = some token ∧
      Admits secrets arn token

theorem lambdaHandler_ends [PythonLibrary]
    (excludeCharacters : Option String) (event : RotationEvent)
    (session : Session) :
    (∃ outcome final,
        final.world = session.world ∧
          (lambdaHandler services excludeCharacters event).perform session =
            (outcome, final)) ∨
      ∃ arn token step function,
        event = ⟨some arn, some token, some step⟩ ∧
          Admits session.secrets arn token ∧
          stepFunction? services excludeCharacters step = some function ∧
          (lambdaHandler services excludeCharacters event).perform session =
            (function.call arn token).perform session.counted := by
  rcases event with ⟨_ | arn, _ | token, _ | step⟩
  case some.some.some =>
    rcases handle_ends services excludeCharacters arn token step session with
      ⟨outcome, ends⟩ | ⟨function, admits, named, ends⟩
    · exact Or.inl ⟨outcome, session.counted, rfl, ends⟩
    · exact Or.inr ⟨arn, token, step, function, rfl, admits, named, ends⟩
  all_goals exact Or.inl ⟨_, session, rfl, rfl⟩

end Rotation

/-! ## Runs -/

section Runs

open Rotation

variable [PythonLibrary]

theorem rotationMachine_next
    (world : World) (invocation : RotationInvocation) :
    rotationMachine.next world invocation =
      ((lambdaHandler invocation.services invocation.excludeCharacters
        invocation.event).perform world.session).2.world :=
  rfl

/-- An invocation that is not about a version to work on changes nothing. -/
theorem unchanged_of_not_admitted
    {world : World} {invocation : RotationInvocation}
    (notAdmitted : ¬ Admitted world.secrets invocation.event) :
    rotationMachine.next world invocation = world := by
  rw [rotationMachine_next]
  rcases lambdaHandler_ends invocation.services invocation.excludeCharacters
      invocation.event world.session with
    ⟨outcome, final, same, ends⟩ |
      ⟨arn, token, step, function, shape, admits, _, _⟩
  · rw [ends]
    exact same
  · exact absurd ⟨arn, token, by rw [shape], by rw [shape], admits⟩ notAdmitted

theorem evolves_next (world : World) (invocation : RotationInvocation) :
    world.secrets.Evolves
      (rotationMachine.next world invocation).secrets := by
  rw [rotationMachine_next]
  rcases lambdaHandler_ends invocation.services invocation.excludeCharacters
      invocation.event world.session with
    ⟨outcome, final, same, ends⟩ |
      ⟨arn, token, step, function, _, admits, named, ends⟩
  · have sameSecrets : final.secrets = world.secrets :=
      congrArg World.secrets same
    rw [ends]
    exact sameSecrets ▸ SecretsManager.Evolves.refl world.secrets
  · have worked :
        Evolves world.session.counted
          ((function.body arn token).perform world.session.counted).2 :=
      body_evolves invocation.services named admits
    rw [ends]
    exact call_evolves_of_body worked

theorem evolves_after
    (world : World) (invocations : List RotationInvocation) :
    world.secrets.Evolves
      (rotationMachine.after world invocations).secrets := by
  apply
    rotationMachine.after_invariant
      (motive := fun later => world.secrets.Evolves later.secrets)
  · intro later invocation evolves
    exact evolves.trans (evolves_next later invocation)
  · exact SecretsManager.Evolves.refl world.secrets

/-- What holds after any invocations. -/
structure RotationSafe
    (world : World) (invocations : List RotationInvocation) : Prop where
  guarded :
    ∀ invocation : RotationInvocation,
      ¬ Admitted (rotationMachine.after world invocations).secrets
          invocation.event →
        rotationMachine.next (rotationMachine.after world invocations)
            invocation =
          rotationMachine.after world invocations
  /-- A value stays through all further invocations. -/
  written :
    ∀ arn id value,
      (rotationMachine.after world invocations).secrets.value? arn id =
          some value →
        ∀ further,
          (rotationMachine.after world
              (invocations ++ further)).secrets.value? arn id =
            some value
  oneCurrent : (rotationMachine.after world invocations).secrets.OneCurrent

theorem rotation_safe
    {world : World} (oneCurrent : world.secrets.OneCurrent)
    (invocations : List RotationInvocation) :
    RotationSafe world invocations where
  guarded invocation := unchanged_of_not_admitted
  written arn id value written further := by
    rw [Machine.after_append]
    exact (evolves_after _ further).written arn id value written
  oneCurrent := (evolves_after world invocations).current oneCurrent

end Runs

/-- A secret whose second version has been announced. -/
def userSecret : Secret where
  rotationEnabled := some true
  versions :=
    [("v1",
        ⟨some
            (.string
              "\x7b\"username\": \"user\", \"password\": \"first\"\x7d"),
          ["AWSCURRENT"]⟩),
      ("v2", ⟨none, ["AWSPENDING"]⟩)]
  distinct := by decide

def userWorld : World where
  secrets arn := if arn = "user-secret" then some userSecret else none
  domain _ := none

/-- Services that accept every call and generate the given password. -/
def succeeding (password : String) : Services where
  respond _ _ _ := ⟨200, ""⟩
  fault _ := none
  randomPassword _ := password
  updateDomainConfig := .ok ⟨200, ""⟩

/-- An attempt at a step of the rotation of the user's secret. -/
def userAttempt (step password : String) : RotationInvocation where
  event := ⟨some "user-secret", some "v2", some step⟩
  services := succeeding password
  excludeCharacters := none

theorem userWorld_oneCurrent : userWorld.secrets.OneCurrent := by
  intro arn secret found
  rw [userWorld] at found
  dsimp only at found
  split at found
  · cases found
    exact ⟨"v1", by decide⟩
  · cases found

theorem rotation_safe_retried :
    letI := plainPython
    RotationSafe userWorld
      [userAttempt "createSecret" "second", userAttempt "createSecret" "third",
        userAttempt "finishSecret" "fourth"] :=
  letI := plainPython
  rotation_safe userWorld_oneCurrent _

end SparkObservability
