import SparkObservability.Python
import Mathlib.Data.List.Nodup

/-!
# Secrets Manager

The versions of a secret, each with a value once it has been written and with
its staging labels.  A label is moved from version to version.
-/

namespace SparkObservability

inductive SecretValue where
  | string (text : String)
  | binary (bytes : List UInt8)
  deriving DecidableEq, Repr

/-- A version that has been announced but not written has no value. -/
structure SecretVersion where
  value : Option SecretValue
  stages : List String
  deriving DecidableEq, Repr

/-- The versions of a secret by their ids. -/
structure Secret where
  rotationEnabled : Option Bool
  versions : List (String × SecretVersion)
  distinct : (versions.map Prod.fst).Nodup

namespace Secret

def ids (secret : Secret) : List String :=
  secret.versions.map Prod.fst

def version? (secret : Secret) (id : String) : Option SecretVersion :=
  secret.versions.lookup id

/-- The versions that have the label. -/
def holders (secret : Secret) (label : String) : List String :=
  (secret.versions.filter fun version => label ∈ version.2.stages).map
    Prod.fst

/-- The value of a version, once it has been written. -/
def value? (secret : Secret) (id : String) : Option SecretValue :=
  (secret.version? id).bind SecretVersion.value

/-- Change every version, by its id. -/
def mapVersions
    (secret : Secret) (change : String → SecretVersion → SecretVersion) :
    Secret where
  rotationEnabled := secret.rotationEnabled
  versions :=
    secret.versions.map fun version =>
      (version.1, change version.1 version.2)
  distinct := by
    rw [List.map_map]
    exact secret.distinct

/-- A version with a new id. -/
def addVersion
    (secret : Secret) (id : String) (version : SecretVersion)
    (fresh : id ∉ secret.ids) : Secret where
  rotationEnabled := secret.rotationEnabled
  versions := secret.versions ++ [(id, version)]
  distinct := by
    rw [List.map_append, List.map_singleton, ← List.concat_eq_append]
    exact secret.distinct.concat fresh

/-! ## The operations of the service -/

/-- `label` goes to the version with the given id and to no other. -/
def moveLabel
    (label target id : String) (version : SecretVersion) : SecretVersion where
  value := version.value
  stages :=
    if id = target then
      if label ∈ version.stages then version.stages
      else version.stages ++ [label]
    else
      version.stages.filter fun stage => stage ≠ label

/-- The version that a request names by its id, by a label, or by both. -/
def select
    (secret : Secret) (versionId versionStage : Option String) :
    Option SecretVersion :=
  match versionId, versionStage with
  | some id, some stage =>
      (secret.version? id).filter fun version => stage ∈ version.stages
  | some id, none => secret.version? id
  | none, stage =>
      ((secret.holders (stage.getD "AWSCURRENT")).head?).bind secret.version?

/-- Write the value of a version and move the label to it. -/
def write
    (secret : Secret) (id : String) (value : SecretValue) (label : String) :
    Secret :=
  let moved := secret.mapVersions (moveLabel label id)
  if known : id ∈ moved.ids then
    moved.mapVersions fun other version =>
      if other = id then { version with value := some value } else version
  else
    moved.addVersion id ⟨some value, [label]⟩ known

/-! ## What the operations change -/

section Changes

variable (secret : Secret)

@[simp]
theorem ids_mapVersions (change : String → SecretVersion → SecretVersion) :
    (secret.mapVersions change).ids = secret.ids := by
  simp [ids, mapVersions, Function.comp_def]

theorem lookup_map_snd
    (versions : List (String × SecretVersion))
    (change : String → SecretVersion → SecretVersion) (id : String) :
    (versions.map fun version =>
        (version.1, change version.1 version.2)).lookup id =
      (versions.lookup id).map (change id) := by
  induction versions with
  | nil => rfl
  | cons version rest inductionHypothesis =>
      rw [List.map_cons, List.lookup_cons, List.lookup_cons]
      split
      · next same => rw [eq_of_beq same, Option.map_some]
      · exact inductionHypothesis

@[simp]
theorem version?_mapVersions
    (change : String → SecretVersion → SecretVersion) (id : String) :
    (secret.mapVersions change).version? id =
      (secret.version? id).map (change id) :=
  lookup_map_snd secret.versions change id

theorem version?_eq_none_iff (id : String) :
    secret.version? id = none ↔ id ∉ secret.ids := by
  rw [version?, List.lookup_eq_none_iff, ids, List.mem_map, not_exists]
  simp only [not_and]
  constructor
  · intro absent version member same
    have different := absent version member
    simp [same] at different
  · intro absent version member
    have different := absent version member
    simpa using Ne.symm different

theorem holders_mapVersions
    (change : String → SecretVersion → SecretVersion) (label : String) :
    (secret.mapVersions change).holders label =
      (secret.versions.filter fun version =>
        label ∈ (change version.1 version.2).stages).map Prod.fst := by
  rw [holders, mapVersions, List.filter_map, List.map_map]
  rfl

/-- Labels that every version keeps stay where they are. -/
theorem holders_mapVersions_of_iff
    {change : String → SecretVersion → SecretVersion} {label : String}
    (keeps :
      ∀ id version,
        label ∈ (change id version).stages ↔ label ∈ version.stages) :
    (secret.mapVersions change).holders label = secret.holders label := by
  rw [holders_mapVersions, holders]
  simp only [keeps]

theorem mem_stages_moveLabel_iff
    (label target id : String) (version : SecretVersion) :
    label ∈ (moveLabel label target id version).stages ↔ id = target := by
  rw [moveLabel]
  by_cases same : id = target
  · by_cases already : label ∈ version.stages
    · simp [same, already]
    · simp [same, already]
  · simp [same]

theorem mem_stages_moveLabel_of_ne
    {label other : String} (different : other ≠ label) (target id : String)
    (version : SecretVersion) :
    other ∈ (moveLabel label target id version).stages ↔
      other ∈ version.stages := by
  rw [moveLabel]
  by_cases same : id = target
  · by_cases already : label ∈ version.stages
    · simp [same, already]
    · simp [same, already, different]
  · simp [same, different]

/-- A moved label is on the version it was moved to and on no other. -/
theorem holders_moveLabel_self
    {target : String} (known : target ∈ secret.ids) (label : String) :
    (secret.mapVersions (moveLabel label target)).holders label = [target] := by
  rw [holders_mapVersions]
  simp only [mem_stages_moveLabel_iff]
  have filtered :
      (secret.versions.filter fun version => version.1 = target).map Prod.fst =
        secret.ids.filter (· = target) := by
    rw [ids, List.filter_map]
    rfl
  have once : secret.ids.count target = 1 :=
    List.count_eq_one_of_mem secret.distinct known
  rw [filtered, List.filter_eq, once, List.replicate_one]

theorem holders_moveLabel_of_ne
    {label other : String} (different : other ≠ label) (target : String) :
    (secret.mapVersions (moveLabel label target)).holders other =
      secret.holders other :=
  holders_mapVersions_of_iff secret
    (mem_stages_moveLabel_of_ne different target)

theorem value?_moveLabel (label target id : String) :
    (secret.mapVersions (moveLabel label target)).value? id =
      secret.value? id := by
  rw [value?, version?_mapVersions, value?]
  cases secret.version? id <;> rfl

theorem holders_write_of_ne
    {label other : String} (different : other ≠ label) (id : String)
    (value : SecretValue) :
    (secret.write id value label).holders other = secret.holders other := by
  have moved := holders_moveLabel_of_ne secret different id
  rw [write]
  split
  · rw [holders_mapVersions_of_iff, moved]
    intro version stages
    split <;> rfl
  · rw [← moved, holders, addVersion, List.filter_append, List.map_append]
    simp [holders, different]

theorem version?_write_of_ne
    {id other : String} (different : other ≠ id) (value : SecretValue)
    (label : String) :
    (secret.write id value label).version? other =
      (secret.mapVersions (moveLabel label id)).version? other := by
  rw [write]
  split
  · rw [version?_mapVersions]
    simp only [if_neg different, Option.map_id']
  · have check : (other == id) = false := by simp [different]
    rw [version?, addVersion, List.lookup_append, List.lookup_cons, check,
      List.lookup_nil, Option.or_none, version?]

theorem value?_write_of_ne
    {id other : String} (different : other ≠ id) (value : SecretValue)
    (label : String) :
    (secret.write id value label).value? other = secret.value? other := by
  rw [value?, version?_write_of_ne secret different,
    ← value?_moveLabel secret label id other, value?]

end Changes

end Secret

/-- The secrets of the service by their identifiers. -/
abbrev SecretsManager := String → Option Secret

namespace SecretsManager

def resourceNotFound : PyException :=
  .clientError "ResourceNotFoundException"

/-- The part of a secret's description that the rotation reads. -/
structure Metadata where
  rotationEnabled : Option Bool
  versionIdsToStages : List (String × List String)

variable (secrets : SecretsManager)

/-- Versions without labels are not listed. -/
def describeSecret (arn : String) : Except PyException Metadata :=
  match secrets arn with
  | none => .error resourceNotFound
  | some secret =>
      .ok
        { rotationEnabled := secret.rotationEnabled
          versionIdsToStages :=
            (secret.versions.filter fun version => version.2.stages ≠ []).map
              fun version => (version.1, version.2.stages) }

def getSecretValue (arn : String) (versionId versionStage : Option String) :
    Except PyException SecretValue :=
  match
    (secrets arn).bind fun secret =>
      (secret.select versionId versionStage).bind SecretVersion.value with
  | some value => .ok value
  | none => .error resourceNotFound

def putSecretValue
    (arn token : String) (value : SecretValue) (label : String) :
    Except PyException SecretsManager :=
  match secrets arn with
  | none => .error resourceNotFound
  | some secret =>
      .ok (Function.update secrets arn (some (secret.write token value label)))

/-- A label can be moved only from the version that has it. -/
def updateSecretVersionStage
    (arn label moveToVersionId : String) (removeFromVersionId : Option String) :
    Except PyException SecretsManager :=
  match secrets arn, removeFromVersionId with
  | _, none => .error (.paramValidationError "RemoveFromVersionId")
  | none, some _ => .error resourceNotFound
  | some secret, some removeFrom =>
      if moveToVersionId ∉ secret.ids then
        .error resourceNotFound
      else if secret.holders label ≠ [removeFrom] then
        .error (.clientError "InvalidParameterException")
      else
        .ok
          (Function.update secrets arn
            (some
              (secret.mapVersions
                (Secret.moveLabel label moveToVersionId))))

end SecretsManager

end SparkObservability
