import SparkObservability.Rotation.Agreement
import SparkObservability.Stack.Passwords

/-!
# The format of the secrets

A secret of the stack is generated as a JSON object with a username and a
password, and that is how it is read.  The rotation stores the password on its
own, and no text is read as an object that has that very text as a member.
-/

namespace SparkObservability

/-- The value is read as an object with the username and the password. -/
def HasCredentials [PythonLibrary]
    (value : SecretValue) (username : JsonValue) (password : String) : Prop :=
  ∃ members,
    Services.parseSecret value = .ok (.object members) ∧
      members.lookup "username" = some username ∧
      members.lookup "password" = some (.string password)

namespace Secret

theorem value?_write_self
    (secret : Secret) (id : String) (value : SecretValue) (label : String) :
    (secret.write id value label).value? id = some value := by
  rw [write]
  split
  · next known =>
      rw [value?, version?_mapVersions]
      cases version :
          (secret.mapVersions (moveLabel label id)).version? id with
      | none =>
          exact absurd known ((version?_eq_none_iff _ _).1 version)
      | some version => simp
  · next fresh =>
      have unknown := (version?_eq_none_iff _ _).2 fresh
      rw [version?] at unknown
      rw [value?, version?, addVersion, List.lookup_append, unknown]
      simp

end Secret

namespace Rotation

open Effect

/-- The password that `createSecret` gets for its request. -/
def generatedPassword
    (services : Services) (excludeCharacters : Option String) : String :=
  services.randomPassword (excludeCharacters.getD "/@\"'\\")

/-- A text is longer than the strings that are read from it. -/
theorem not_hasCredentials_self [PythonLibrary]
    (password : String) (username : JsonValue) :
    ¬ HasCredentials (.string password) username password := by
  rintro ⟨members, loaded, _, found⟩
  rw [Services.parseSecret] at loaded
  have inText := Python.extent_le_of_loads loaded
  have inMembers := JsonValue.extent_le_of_lookup found
  simp only [JsonValue.extent] at inText inMembers
  omega

section Storing

variable {services : Services} {session : Session} {arn token : String}

theorem perform_putSecretValue
    (accepted : services.fault session.secretCalls = none)
    {secret : Secret} (found : session.secrets arn = some secret)
    (token : String) (value : SecretValue) (label : String) :
    ∃ final,
      (services.command fun secrets =>
          secrets.putSecretValue arn token value label).perform session =
          (.ok (), final) ∧
        final.secrets.value? arn token = some value := by
  rw [services.perform_command_of_none _ accepted]
  simp only [SecretsManager.putSecretValue, found]
  refine ⟨_, rfl, ?_⟩
  simp only [SecretsManager.value?, Function.update_self, Option.bind_some,
    Secret.value?_write_self]

/-- Where there is a current value and none yet for the version, the password
is stored. -/
theorem perform_createSecret
    (accepted :
      ∀ number < 4, services.fault (session.secretCalls + number) = none)
    (excludeCharacters : Option String) {value : SecretValue}
    (current :
      session.secrets.getSecretValue arn none (some "AWSCURRENT") = .ok value)
    (announced :
      session.secrets.getSecretValue arn (some token) (some "AWSPENDING") =
        .error SecretsManager.resourceNotFound) :
    ∃ final,
      (createSecret services excludeCharacters arn token).perform session =
          (.ok (), final) ∧
        final.secrets.value? arn token =
          some (.string (generatedPassword services excludeCharacters)) := by
  obtain ⟨secret, found⟩ : ∃ secret, session.secrets arn = some secret := by
    cases found : session.secrets arn with
    | none => simp [SecretsManager.getSecretValue, found] at current
    | some secret => exact ⟨secret, rfl⟩
  have sameSecrets : session.counted.secrets = session.secrets := rfl
  have foundLater :
      session.counted.counted.counted.secrets arn = some secret :=
    found
  have second : services.fault session.counted.secretCalls = none :=
    accepted 1 (by decide)
  have third : services.fault session.counted.counted.secretCalls = none :=
    accepted 2 (by decide)
  have fourth :
      services.fault session.counted.counted.counted.secretCalls = none :=
    accepted 3 (by decide)
  have readCurrent :=
    services.perform_query_of_none
      (fun secrets => secrets.getSecretValue arn none (some "AWSCURRENT"))
      (accepted 0 (by decide))
  have readPending :=
    services.perform_query_of_none
      (fun secrets =>
        secrets.getSecretValue arn (some token) (some "AWSPENDING"))
      second
  have generate :=
    services.perform_query_of_none
      (fun _ => .ok (generatedPassword services excludeCharacters)) third
  obtain ⟨final, put, stored⟩ :=
    perform_putSecretValue fourth foundLater token
      (.string (generatedPassword services excludeCharacters)) "AWSPENDING"
  rw [current] at readCurrent
  rw [sameSecrets, announced] at readPending
  refine ⟨final, ?_, stored⟩
  rw [createSecret, perform_bind_of_ok readCurrent, perform_tryCatch,
    perform_bind_of_error readPending]
  simp only [if_true]
  exact (perform_bind_of_ok generate).trans put

end Storing

/-- Whatever the password is, what is stored for the version is not read as
the current username and the password. -/
theorem createSecret_not_hasCredentials [PythonLibrary]
    {services : Services} {session : Session}
    (accepted :
      ∀ number < 4, services.fault (session.secretCalls + number) = none)
    (excludeCharacters : Option String) {arn token : String}
    {username : JsonValue}
    (current :
      ∃ value members password,
        session.secrets.getSecretValue arn none (some "AWSCURRENT") =
            .ok value ∧
          Services.parseSecret value = .ok (.object members) ∧
          members.lookup "username" = some username ∧
          members.lookup "password" = some password)
    (announced :
      session.secrets.getSecretValue arn (some token) (some "AWSPENDING") =
        .error SecretsManager.resourceNotFound) :
    ∃ final stored,
      (createSecret services excludeCharacters arn token).perform session =
          (.ok (), final) ∧
        final.secrets.value? arn token = some stored ∧
        ¬ HasCredentials stored username
            (generatedPassword services excludeCharacters) := by
  obtain ⟨value, _, _, read, _⟩ := current
  obtain ⟨final, returns, stores⟩ :=
    perform_createSecret accepted excludeCharacters read announced
  exact ⟨final, _, returns, stores, not_hasCredentials_self _ username⟩

/-! ## A rotation of the user's secret -/

theorem createSecret_not_hasCredentials_of_number :
    letI := plainPython
    ∃ final stored,
      (createSecret (succeeding "4711") none "user-secret" "v2").perform
            userWorld.session =
          (.ok (), final) ∧
        final.secrets.value? "user-secret" "v2" = some stored ∧
        ¬ HasCredentials stored (.string "user")
            (generatedPassword (succeeding "4711") none) :=
  letI := plainPython
  createSecret_not_hasCredentials (fun _ _ => rfl) none
    ⟨_, _, .string "first", rfl, rfl, rfl, rfl⟩ rfl

/-- The stored text is no JSON text at all. -/
theorem createSecret_second :
    letI := plainPython
    ∃ final stored,
      (createSecret (succeeding "second") none "user-secret" "v2").perform
            userWorld.session =
          (.ok (), final) ∧
        final.secrets.value? "user-secret" "v2" = some stored ∧
        Services.parseSecret stored = .error .jsonDecodeError ∧
        ¬ HasCredentials stored (.string "user") "second" := by
  have unreadable : Python.loads "second" = .error .jsonDecodeError := rfl
  refine ⟨_, .string "second", rfl, rfl, unreadable, ?_⟩
  rintro ⟨members, loaded, _⟩
  cases unreadable.symm.trans loaded

end Rotation

end SparkObservability
