import Mathlib.Data.List.Infix
import SparkObservability.Json.Extent

/-!
# What the Lambda functions use of Python

Exceptions, the reading of JSON and of Base64 texts, and the operations on the
values read from them: subscripts, membership, deletion, iteration and
formatting.
-/

namespace SparkObservability

/-- The exceptions of the Lambda functions; the messages are those that the
functions write themselves, and those of Python without what they quote. -/
inductive PyException where
  | keyError (key : String)
  | valueError (message : String)
  | typeError
  | jsonDecodeError
  | clientError (code : String)
  | paramValidationError (parameter : String)
  | exception (message : String)
  deriving DecidableEq, Repr

/-- What is left open of Python's library: the text of a value that is not a
string, the text that `json.loads` takes bytes for, and what a string looks
like in a format. -/
class PythonLibrary where
  str : JsonValue → String
  decode : List UInt8 → Except PyException String
  format : String → String → Except PyException String

/-- A library for values that are strings and texts that are ASCII. -/
abbrev plainPython : PythonLibrary where
  str _ := "None"
  decode bytes :=
    .ok (String.ofList (bytes.map fun byte => Char.ofNat byte.toNat))
  format text _ := .ok text

namespace Python

/-! ## JSON texts -/

/-- Python reads three words that JSON does not have. -/
def pythonWord (word : List Char) : Option JsonValue :=
  if word = ['N', 'a', 'N'] then
    some (.nonFinite .nan)
  else if word = ['I', 'n', 'f', 'i', 'n', 'i', 't', 'y'] then
    some (.nonFinite .infinity)
  else if word = ['-', 'I', 'n', 'f', 'i', 'n', 'i', 't', 'y'] then
    some (.nonFinite .negativeInfinity)
  else
    Json.jsonWord word

/-- `json.loads` -/
def loads (text : String) : Except PyException JsonValue :=
  match Json.readWith pythonWord text with
  | some value => .ok value
  | none => .error .jsonDecodeError

theorem pythonWord_of_jsonWord
    (word : List Char) (value : JsonValue)
    (known : Json.jsonWord word = some value) :
    pythonWord word = some value := by
  have different :
      ∀ other : List Char, Json.jsonWord other = none → word ≠ other := by
    rintro other unknown rfl
    rw [unknown] at known
    cases known
  rw [pythonWord, if_neg (different _ (by decide +kernel)),
    if_neg (different _ (by decide +kernel)),
    if_neg (different _ (by decide +kernel)), known]

/-- Python reads a JSON text as what it is. -/
theorem loads_of_read
    {text : String} {value : JsonValue} (reads : Json.read text = some value) :
    loads text = .ok value := by
  rw [loads, Json.Reader.readWith_of_more_words pythonWord_of_jsonWord reads]

theorem extent_of_pythonWord
    (word : List Char) (value : JsonValue)
    (known : pythonWord word = some value) :
    value.extent = 0 := by
  rw [pythonWord] at known
  split at known
  · cases known
    rfl
  split at known
  · cases known
    rfl
  split at known
  · cases known
    rfl
  · exact Json.extent_of_jsonWord known

/-- The strings that are read from a text are no longer than the text. -/
theorem extent_le_of_loads
    {text : String} {value : JsonValue} (loaded : loads text = .ok value) :
    value.extent ≤ text.toList.length := by
  rw [loads] at loaded
  split at loaded
  · next reads =>
      cases loaded
      exact Json.Reader.extent_le_of_readWith extent_of_pythonWord reads
  · cases loaded

/-! ## Base64 -/

/-- The six bits that a character of the alphabet stands for. -/
def base64Digit? (byte : UInt8) : Option Nat :=
  let code := byte.toNat
  if 65 ≤ code ∧ code ≤ 90 then
    some (code - 65)
  else if 97 ≤ code ∧ code ≤ 122 then
    some (code - 71)
  else if 48 ≤ code ∧ code ≤ 57 then
    some (code + 4)
  else if code = 43 then
    some 62
  else if code = 47 then
    some 63
  else
    none

/-- `binascii.a2b_base64` after `place` digits of a group of four, of which
the bits `left` have not been written, and after `pads` signs of padding since.
What is no digit is passed over. -/
def a2bBase64 (place left pads : Nat) :
    List UInt8 → Except PyException (List UInt8)
  | [] =>
      if place = 0 then
        .ok []
      else if place = 1 then
        .error (.valueError "Invalid base64-encoded string")
      else
        .error (.valueError "Incorrect padding")
  | byte :: rest =>
      if byte = 61 then
        if place < 2 then
          a2bBase64 place left pads rest
        else if place + (pads + 1) < 4 then
          a2bBase64 place left (pads + 1) rest
        else
          -- What follows a complete padding is not read.
          .ok []
      else
        match base64Digit? byte with
        | none => a2bBase64 place left pads rest
        | some digit =>
            match place with
            | 0 => a2bBase64 1 digit 0 rest
            | 1 =>
                (a2bBase64 2 (digit % 16) 0 rest).map fun decoded =>
                  UInt8.ofNat (left * 4 + digit / 16) :: decoded
            | 2 =>
                (a2bBase64 3 (digit % 4) 0 rest).map fun decoded =>
                  UInt8.ofNat (left * 16 + digit / 4) :: decoded
            | _ =>
                (a2bBase64 0 0 0 rest).map fun decoded =>
                  UInt8.ofNat (left * 64 + digit) :: decoded

/-- `base64.b64decode` -/
def b64decode (encoded : List UInt8) : Except PyException (List UInt8) :=
  a2bBase64 0 0 0 encoded

/-- `QUI=` -/
example : b64decode [81, 85, 73, 61] = .ok [65, 66] := by decide +kernel

/-! ## Operations on the values -/

/-- `value[key]` -/
def subscript (value : JsonValue) (key : String) :
    Except PyException JsonValue :=
  match value with
  | .object members =>
      match members.lookup key with
      | some member => .ok member
      | none => .error (.keyError key)
  | _ => .error .typeError

/-- `key in value` -/
def contains (value : JsonValue) (key : String) : Except PyException Bool :=
  match value with
  | .object members => .ok (decide (key ∈ members.map Prod.fst))
  | .array items =>
      .ok (items.any fun
        | .string text => text = key
        | _ => false)
  | .string text => .ok (decide (key.toList <:+: text.toList))
  | _ => .error .typeError

/-- `del value[key]` -/
def delete (value : JsonValue) (key : String) : Except PyException JsonValue :=
  match value with
  | .object members =>
      if key ∈ members.map Prod.fst then
        .ok (.object (members.filter fun member => member.1 ≠ key))
      else
        .error (.keyError key)
  | _ => .error .typeError

/-- The values that `for` goes through. -/
def iterate : JsonValue → Except PyException (List JsonValue)
  | .array items => .ok items
  | .object members => .ok (members.map fun member => .string member.1)
  | .string text =>
      .ok
        (text.toList.map fun character =>
          .string (String.singleton character))
  | _ => .error .typeError

/-- The text of a value in an f-string. -/
def formatted [PythonLibrary] : JsonValue → String
  | .string text => text
  | value => PythonLibrary.str value

/-- `text % arguments`, for texts that convert strings only. -/
def interpolate : List Char → List String → Except PyException (List Char)
  | [], [] => .ok []
  | [], _ :: _ => .error .typeError
  | '%' :: 's' :: _, [] => .error .typeError
  | '%' :: 's' :: rest, argument :: arguments =>
      (interpolate rest arguments).map fun text => argument.toList ++ text
  | '%' :: _, _ => .error (.valueError "unsupported format character")
  | character :: rest, arguments =>
      (interpolate rest arguments).map fun text => character :: text

/-! ## Format specifications -/

def dropOne (options : List Char) : List Char → List Char
  | [] => []
  | character :: rest =>
      if character ∈ options then rest else character :: rest

/-- The alignment, with the fill character before it if there is one. -/
def dropAlignment : List Char → List Char
  | fill :: align :: rest =>
      if align ∈ ['<', '>', '=', '^'] then rest
      else dropOne ['<', '>', '=', '^'] (fill :: align :: rest)
  | spec => dropOne ['<', '>', '=', '^'] spec

def dropPrecision : List Char → List Char
  | '.' :: rest => rest.dropWhile Char.isDigit
  | spec => spec

/-- What a format specification has left once its options are read: the
presentation type. -/
def presentationType (spec : List Char) : List Char :=
  let spec := dropOne ['+', '-', ' '] (dropAlignment spec)
  let spec := dropOne ['0'] (dropOne ['#'] (dropOne ['z'] spec))
  dropPrecision (dropOne [',', '_'] (spec.dropWhile Char.isDigit))

/-- A presentation type is one character at most. -/
def IsFormatSpec (spec : String) : Prop :=
  (presentationType spec.toList).length ≤ 1

instance (spec : String) : Decidable (IsFormatSpec spec) :=
  inferInstanceAs (Decidable (_ ≤ _))

theorem presentationType_of_quote (character : Char) (rest : List Char) :
    presentationType (' ' :: '"' :: character :: rest) =
      '"' :: character :: rest := by
  simp [presentationType, dropAlignment, dropOne, dropPrecision]

/-- The text of a string under a format specification. -/
def format [PythonLibrary] (text spec : String) : Except PyException String :=
  if spec = "" then
    .ok text
  else if IsFormatSpec spec then
    PythonLibrary.format text spec
  else
    .error (.valueError "Invalid format specifier")

end Python

end SparkObservability
