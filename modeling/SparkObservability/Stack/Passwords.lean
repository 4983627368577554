import SparkObservability.Bootstrap.Soundness

/-!
# Generated passwords

The passwords that may be generated for the secrets of the stack, and the
documents of users that they are rendered into.
-/

namespace SparkObservability

namespace OpensearchSecret

/-- `exclude_characters` of the generator. -/
def excludeCharacters : String := "\"@\\/"

/-- The password has printable ASCII characters only, and none of the excluded
ones. -/
def IsGenerated (password : String) : Prop :=
  ∀ character ∈ password.toList,
    (0x20 ≤ character.val ∧ character.val ≤ 0x7E) ∧
      character ∉ excludeCharacters.toList

instance (password : String) : Decidable (IsGenerated password) :=
  List.decidableBAll _ _

/-- The excluded characters are enough for JSON strings. -/
theorem isPlainText_of_isGenerated
    {password : String} (generated : IsGenerated password) :
    IsPlainText password := by
  intro character member
  obtain ⟨⟨printable, _⟩, notExcluded⟩ := generated character member
  have noQuote : character ≠ '"' := by
    rintro rfl
    exact notExcluded (by decide)
  have noBackslash : character ≠ '\\' := by
    rintro rfl
    exact notExcluded (by decide)
  rw [Json.writeChar, if_neg noQuote, if_neg noBackslash,
    if_neg (UInt32.not_lt.2 printable)]

/-- What the bootstrap does with credentials it does with generated ones. -/
theorem credentials_of_isGenerated [PythonLibrary]
    {account : Account} (generated : IsGenerated account.password)
    {secrets : SecretsManager} {arn : String}
    (found : secrets arn = some account.secret) :
    Credentials secrets arn account :=
  Account.credentials_secret (isPlainText_of_isGenerated generated) found

section Documents

variable [Jinja] (lawful : Jinja.Lawful)

include lawful in
theorem loads_render
    {template : Template} (isFile : template ∈ renderedFiles)
    {value : String} {document : JsonValue}
    (loads :
      Python.loads (template.before ++ value ++ template.after) =
        .ok document) :
    Python.loads
        (Jinja.render template.content template.variableName value) =
      .ok document := by
  rw [lawful.render_content template isFile, loads]

include lawful in
/-- Whatever the generated password is, the templates become the documents of
users with that password and the roles of the template. -/
theorem loads_render_of_isGenerated
    {password : String} (generated : IsGenerated password) :
    Python.loads
          (Jinja.render userTemplate.content "secret_password" password) =
        .ok (userDocument password userRoles) ∧
      Python.loads
          (Jinja.render adminTemplate.content "secret_password" password) =
        .ok (userDocument password adminRoles) := by
  have plain := isPlainText_of_isGenerated generated
  constructor
  · exact loads_render lawful userTemplate_mem (loads_userTemplate plain)
  · exact loads_render lawful adminTemplate_mem (loads_adminTemplate plain)

end Documents

theorem loads_render_of_delimiters :
    letI := plainJinja
    Python.loads
          (Jinja.render userTemplate.content "secret_password"
            "\x7b\x7b secret_password \x7d\x7d], [\x7b'%s':#\x7d") =
        .ok
          (userDocument "\x7b\x7b secret_password \x7d\x7d], [\x7b'%s':#\x7d"
            userRoles) ∧
      Python.loads
          (Jinja.render adminTemplate.content "secret_password"
            "\x7b\x7b secret_password \x7d\x7d], [\x7b'%s':#\x7d") =
        .ok
          (userDocument "\x7b\x7b secret_password \x7d\x7d], [\x7b'%s':#\x7d"
            adminRoles) :=
  @loads_render_of_isGenerated plainJinja lawful_plainJinja
    "\x7b\x7b secret_password \x7d\x7d], [\x7b'%s':#\x7d" (by decide)

end OpensearchSecret

end SparkObservability
