import SparkObservability.Json.Writer
import SparkObservability.Python

/-!
# The templates of the bootstrap

The resource files with a variable, and the documents that they are rendered
to when the value of the variable needs no escaping.
-/

namespace SparkObservability

/-- What the bootstrap uses of Jinja: the rendering of a text under the value
of one variable. -/
class Jinja where
  render : String → String → String → String

/-- There are delimiters of Jinja in the text. -/
def hasMarkup : List Char → Bool
  | '{' :: next :: rest =>
      next = '{' || next = '%' || next = '#' || hasMarkup (next :: rest)
  | _ :: rest => hasMarkup rest
  | [] => false

/-- A file with one variable, and no markup around it. -/
structure Template where
  before : String
  variableName : String
  after : String
  plainBefore : hasMarkup (before.toList ++ ['{']) = false
  plainAfter : hasMarkup after.toList = false
  identifier :
    variableName ≠ "" ∧
      variableName.toList.all fun character =>
        character.isLower || character = '_'
  /-- A line break at the end would be dropped. -/
  lastLine : after.toList.getLast? ≠ some '\n'

def Template.content (template : Template) : String :=
  template.before ++ "\x7b\x7b" ++ template.variableName ++ "\x7d\x7d" ++
    template.after

/-! ## The files -/

def adminTemplate : Template where
  before := "\x7b\n  \"password\": \""
  variableName := "secret_password"
  after :=
    "\",\n  \"opendistro_security_roles\": [\"all_access\", \"security_manager\"]\n\x7d"
  plainBefore := by decide +kernel
  plainAfter := by decide +kernel
  identifier := by decide +kernel
  lastLine := by decide +kernel

def userTemplate : Template where
  before := "\x7b\n  \"password\": \""
  variableName := "secret_password"
  after :=
    "\",\n  \"opendistro_security_roles\": [\"opensearch_dashboards_user\"]\n\x7d"
  plainBefore := by decide +kernel
  plainAfter := by decide +kernel
  identifier := by decide +kernel
  lastLine := by decide +kernel

def pipelineRoleMappingTemplate : Template where
  before := "\x7b\n  \"backend_roles\" : [ \""
  variableName := "backend_role"
  after := "\" ]\n\x7d"
  plainBefore := by decide +kernel
  plainAfter := by decide +kernel
  identifier := by decide +kernel
  lastLine := by decide +kernel

/-- The files that the bootstrap renders. -/
def renderedFiles : List Template :=
  [adminTemplate, userTemplate, pipelineRoleMappingTemplate]

theorem adminTemplate_mem : adminTemplate ∈ renderedFiles :=
  .head _

theorem userTemplate_mem : userTemplate ∈ renderedFiles :=
  .tail _ (.head _)

theorem pipelineRoleMappingTemplate_mem :
    pipelineRoleMappingTemplate ∈ renderedFiles :=
  .tail _ (.tail _ (.head _))

/-- In the files of the bootstrap the value of the variable takes its place,
as it is. -/
structure Jinja.Lawful [Jinja] : Prop where
  render_content :
    ∀ template ∈ renderedFiles, ∀ value : String,
      Jinja.render template.content template.variableName value =
        template.before ++ value ++ template.after

/-! ## Templates with one variable -/

/-- The value takes the place of the first variable, of which so many
characters are left. -/
def substitute (left : Nat) (value : List Char) : List Char → List Char
  | '{' :: '{' :: rest => value ++ rest.drop left
  | character :: rest => character :: substitute left value rest
  | [] => []

/-- Jinja, for the templates below. -/
abbrev plainJinja : Jinja where
  render content variableName value :=
    String.ofList
      (substitute (variableName.toList.length + 2) value.toList content.toList)

theorem hasMarkup_of_cons
    {character : Char} {rest : List Char}
    (plain : hasMarkup (character :: rest) = false) :
    hasMarkup rest = false := by
  rw [hasMarkup.eq_def] at plain
  split at plain
  · next shape =>
      cases shape
      simp only [Bool.or_eq_false_iff] at plain
      exact plain.2
  · next shape =>
      cases shape
      exact plain
  · next shape => cases shape

theorem substitute_cons
    {left : Nat} {value : List Char} {character : Char} {rest : List Char}
    (plain : character ≠ '{' ∨ rest.head? ≠ some '{') :
    substitute left value (character :: rest) =
      character :: substitute left value rest := by
  rw [substitute.eq_def]
  split
  · next shape =>
      cases shape
      simp at plain
  · next shape =>
      cases shape
      rfl
  · next shape => cases shape

/-- No text before the variable is taken for it. -/
theorem substitute_append
    {before : List Char} (plain : hasMarkup (before ++ ['{']) = false)
    (left : Nat) (value rest : List Char) :
    substitute left value (before ++ '{' :: '{' :: rest) =
      before ++ (value ++ rest.drop left) := by
  induction before with
  | nil => rfl
  | cons character before inductionHypothesis =>
      have notDelimiter :
          character ≠ '{' ∨
            (before ++ '{' :: '{' :: rest).head? ≠ some '{' := by
        by_contra delimiter
        simp only [not_or, not_not] at delimiter
        obtain ⟨rfl, next⟩ := delimiter
        cases before with
        | nil => simp [hasMarkup] at plain
        | cons second before =>
            have sameNext : second = '{' := by simpa using next
            simp [hasMarkup, sameNext] at plain
      rw [List.cons_append, substitute_cons notDelimiter,
        inductionHypothesis (hasMarkup_of_cons plain)]
      rfl

theorem Template.toList_content (template : Template) :
    template.content.toList =
      template.before.toList ++
        '{' :: '{' ::
          (template.variableName.toList ++
            '}' :: '}' :: template.after.toList) := by
  simp [Template.content]

theorem lawful_plainJinja : @Jinja.Lawful plainJinja := by
  refine @Jinja.Lawful.mk plainJinja ?_
  intro template _ value
  change String.ofList (substitute _ _ template.content.toList) = _
  rw [template.toList_content, substitute_append template.plainBefore]
  apply String.toList_injective
  simp [List.drop_append]

/-! ## The documents -/

/-- A text that is its own JSON string, but for the quotes. -/
def IsPlainText (text : String) : Prop :=
  ∀ character ∈ text.toList, Json.writeChar character = [character]

instance (text : String) : Decidable (IsPlainText text) :=
  List.decidableBAll _ _

open Json Json.Reader

/-- A template whose variable is in a JSON string is read with the value as
that string. -/
theorem loads_rendered
    {template : Template} (stack : List Frame) (document : String → JsonValue)
    (opens :
      Reader.initial.run Python.pythonWord template.before.toList =
        ⟨.text [] .none, stack⟩)
    (closes :
      ∀ value : String,
        (⟨.text value.toList .none, stack⟩ : Reader).run Python.pythonWord
            template.after.toList =
          ⟨.done (document value), []⟩)
    {value : String} (plain : IsPlainText value) :
    Python.loads (template.before ++ value ++ template.after) =
      .ok (document value) := by
  have asWritten : value.toList.flatMap writeChar = value.toList := by
    rw [List.flatMap_congr plain, List.flatMap_singleton']
  rw [Python.loads, readWith, String.toList_append, String.toList_append,
    run_append, run_append, opens, ← asWritten, run_flatMap_writeChar,
    List.nil_append, closes]
  rfl

/-- The document of a user, whose template has the password as a string. -/
def userDocument (password : String) (roles : List JsonValue) : JsonValue :=
  .object
    [("password", .string password),
      ("opendistro_security_roles", .array roles)]

def adminRoles : List JsonValue :=
  [.string "all_access", .string "security_manager"]

def userRoles : List JsonValue :=
  [.string "opensearch_dashboards_user"]

def pipelineRoleMapping (backendRole : String) : JsonValue :=
  .object [("backend_roles", .array [.string backendRole])]

theorem loads_adminTemplate
    {password : String} (plain : IsPlainText password) :
    Python.loads (adminTemplate.before ++ password ++ adminTemplate.after) =
      .ok (userDocument password adminRoles) := by
  refine
    loads_rendered [.object [] (some "password")]
      (fun password => userDocument password adminRoles) ?_ ?_ plain
  · simp [adminTemplate, Reader.initial, step, stepSettled, start, deliver,
      textMode, closed?, isSpace]
  · intro value
    simp [adminTemplate, userDocument, adminRoles, step, stepSettled, start,
      deliver, textMode, closed?, isSpace, JsonObject.put]

theorem loads_userTemplate
    {password : String} (plain : IsPlainText password) :
    Python.loads (userTemplate.before ++ password ++ userTemplate.after) =
      .ok (userDocument password userRoles) := by
  refine
    loads_rendered [.object [] (some "password")]
      (fun password => userDocument password userRoles) ?_ ?_ plain
  · simp [userTemplate, Reader.initial, step, stepSettled, start, deliver,
      textMode, closed?, isSpace]
  · intro value
    simp [userTemplate, userDocument, userRoles, step, stepSettled, start,
      deliver, textMode, closed?, isSpace, JsonObject.put]

theorem loads_pipelineRoleMappingTemplate
    {backendRole : String} (plain : IsPlainText backendRole) :
    Python.loads
        (pipelineRoleMappingTemplate.before ++ backendRole ++
          pipelineRoleMappingTemplate.after) =
      .ok (pipelineRoleMapping backendRole) := by
  refine
    loads_rendered [.array [], .object [] (some "backend_roles")]
      pipelineRoleMapping ?_ ?_ plain
  · simp [pipelineRoleMappingTemplate, Reader.initial, step, stepSettled,
      start, deliver, textMode, closed?, isSpace]
  · intro value
    simp [pipelineRoleMappingTemplate, pipelineRoleMapping, step, stepSettled,
      deliver, closed?, isSpace, JsonObject.put]

end SparkObservability
