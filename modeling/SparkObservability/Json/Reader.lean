import SparkObservability.Json.Values

/-!
# Reading JSON texts

A reader of JSON texts that takes one character at a time and keeps the
containers that are still open on a stack.  What stands at the bottom of the
stack does not matter while a value above it is read, so a text that is read
to a value on its own is read to the same value inside a container.

Which words there are besides the numbers is left open, because the readers
of different languages know different ones.
-/

namespace SparkObservability

namespace Json

/-! ## Characters -/

def isSpace (character : Char) : Bool :=
  character = ' ' || character = '\t' || character = '\n' || character = '\r'

/-- The characters of numbers and of `true`, `false` and `null`. -/
def isWordChar (character : Char) : Bool :=
  character.isAlphanum || character = '+' || character = '-' ||
    character = '.'

def hexDigit? (character : Char) : Option Nat :=
  if character.isDigit then
    some (character.toNat - '0'.toNat)
  else if 'a' ≤ character ∧ character ≤ 'f' then
    some (character.toNat - 'a'.toNat + 10)
  else if 'A' ≤ character ∧ character ≤ 'F' then
    some (character.toNat - 'A'.toNat + 10)
  else
    none

/-- The character that a backslash makes of the given one. -/
def escaped? : Char → Option Char
  | '"' => some '"'
  | '\\' => some '\\'
  | '/' => some '/'
  | 'b' => some '\x08'
  | 'f' => some '\x0C'
  | 'n' => some '\n'
  | 'r' => some '\r'
  | 't' => some '\t'
  | _ => none

/-! ## Numbers -/

/-- Some digits without a needless zero in front. -/
def IsWhole (digits : List Char) : Prop :=
  digits ≠ [] ∧ (digits.head? = some '0' → digits = ['0'])

instance (digits : List Char) : Decidable (IsWhole digits) :=
  inferInstanceAs (Decidable (_ ∧ _))

/-- The digits after the decimal point, if there is one, and the rest. -/
def readFraction : List Char → Option (List Char × List Char)
  | '.' :: text =>
      let digits := text.takeWhile Char.isDigit
      if digits = [] then
        none
      else
        some (digits, text.dropWhile Char.isDigit)
  | text => some ([], text)

/-- The exponent with its sign, zero if there is none. -/
def readExponent : List Char → Option Int
  | [] => some 0
  | mark :: text =>
      let (negative, digits) :=
        match text with
        | '-' :: digits => (true, digits)
        | '+' :: digits => (false, digits)
        | digits => (false, digits)
      if (mark = 'e' ∨ mark = 'E') ∧ digits ≠ [] ∧ digits.all Char.isDigit then
        let size : Int := Nat.ofDigitChars 10 digits 0
        some (if negative then -size else size)
      else
        none

/-- The value times the given power of ten. -/
def shift (value : Rat) : Int → Rat
  | .ofNat places => value * 10 ^ places
  | .negSucc places => value / 10 ^ (places + 1)

/-- A JSON number without its sign. -/
def readUnsigned (text : List Char) : Option Rat := do
  let whole := text.takeWhile Char.isDigit
  if ¬ IsWhole whole then
    none
  else
    let (fraction, rest) ← readFraction (text.dropWhile Char.isDigit)
    let exponent ← readExponent rest
    let digits := Nat.ofDigitChars 10 (whole ++ fraction) 0
    return shift digits (exponent - fraction.length)

def readNumber : List Char → Option Rat
  | '-' :: text => (readUnsigned text).map fun value => -value
  | text => readUnsigned text

/-- The words of JSON. -/
def jsonWord (word : List Char) : Option JsonValue :=
  if word = ['t', 'r', 'u', 'e'] then some (.bool true)
  else if word = ['f', 'a', 'l', 's', 'e'] then some (.bool false)
  else if word = ['n', 'u', 'l', 'l'] then some .null
  else (readNumber word).map JsonValue.number

/-! ## The reader -/

/-- An open container: an array with the items read so far, or an object with
the members read so far and the key whose value is due. -/
inductive Frame where
  | array (items : List JsonValue)
  | object (members : List (String × JsonValue)) (key : Option String)

/-- How far the reader is inside an escape sequence.  `hex` counts the digits
that are still to come; `high` is a leading surrogate whose partner is due. -/
inductive Escape where
  | none
  | backslash
  | hex (high : Option Nat) (left value : Nat)
  | partner (high : Nat)
  | partnerBackslash (high : Nat)

/-- What the reader is in the middle of. -/
inductive Mode where
  | value
  | valueOrEnd
  | colon
  | separator
  | text (read : List Char) (escape : Escape)
  | word (read : List Char)
  | done (value : JsonValue)
  | failed

/-- The open containers are listed from the innermost one. -/
structure Reader where
  mode : Mode
  stack : List Frame

namespace Reader

/-- The reader at the start of a text. -/
def initial : Reader := ⟨.value, []⟩

def fail (reader : Reader) : Reader := ⟨.failed, reader.stack⟩

/-- A value is complete and goes to the innermost open container. -/
def deliver (value : JsonValue) : List Frame → Reader
  | [] => ⟨.done value, []⟩
  | .array items :: rest => ⟨.separator, .array (items ++ [value]) :: rest⟩
  | .object members (some key) :: rest =>
      ⟨.separator, .object (JsonObject.put key value members) none :: rest⟩
  | .object members none :: rest =>
      match value with
      | .string key => ⟨.colon, .object members (some key) :: rest⟩
      | _ => ⟨.failed, .object members none :: rest⟩

/-- The value of a container that the character closes. -/
def closed? (character : Char) : Frame → Option JsonValue
  | .array items => if character = ']' then some (.array items) else none
  | .object members none =>
      if character = '}' then some (.object members) else none
  | .object _ (some _) => none

/-- A character where a value may start. -/
def start (reader : Reader) (character : Char) : Reader :=
  if isSpace character then reader
  else if character = '"' then ⟨.text [] .none, reader.stack⟩
  else if character = '[' then ⟨.valueOrEnd, .array [] :: reader.stack⟩
  else if character = '{' then ⟨.valueOrEnd, .object [] none :: reader.stack⟩
  else if isWordChar character then ⟨.word [character], reader.stack⟩
  else reader.fail

/-- The mode once the four digits after `\u` are read. -/
def endHex (read : List Char) (high : Option Nat) (value : Nat) : Mode :=
  let trailing := 0xDC00 ≤ value ∧ value < 0xE000
  match high with
  | none =>
      if 0xD800 ≤ value ∧ value < 0xDC00 then .text read (.partner value)
      else if trailing then .failed
      else .text (read ++ [Char.ofNat value]) .none
  | some high =>
      if trailing then
        .text
          (read ++
            [Char.ofNat
              (0x10000 + (high - 0xD800) * 0x400 + (value - 0xDC00))])
          .none
      else .failed

/-- The mode after one more character of a string, except its end. -/
def textMode (read : List Char) (character : Char) : Escape → Mode
  | .none =>
      if character = '\\' then .text read .backslash
      else if character.val < 0x20 then .failed
      else .text (read ++ [character]) .none
  | .backslash =>
      if character = 'u' then .text read (.hex none 4 0)
      else
        match escaped? character with
        | some meant => .text (read ++ [meant]) .none
        | none => .failed
  | .hex high left value =>
      match hexDigit? character with
      | none => .failed
      | some digit =>
          let value := 16 * value + digit
          if left ≤ 1 then endHex read high value
          else .text read (.hex high (left - 1) value)
  | .partner high =>
      if character = '\\' then .text read (.partnerBackslash high) else .failed
  | .partnerBackslash high =>
      if character = 'u' then .text read (.hex (some high) 4 0) else .failed

/-- One character, unless a word goes on. -/
def stepSettled (reader : Reader) (character : Char) : Reader :=
  match reader.mode with
  | .value => reader.start character
  | .valueOrEnd =>
      match reader.stack with
      | [] => reader.fail
      | frame :: rest =>
          match closed? character frame with
          | some value => deliver value rest
          | none => reader.start character
  | .colon =>
      if isSpace character then reader
      else if character = ':' then ⟨.value, reader.stack⟩
      else reader.fail
  | .separator =>
      if isSpace character then reader
      else if character = ',' then ⟨.value, reader.stack⟩
      else
        match reader.stack with
        | [] => reader.fail
        | frame :: rest =>
            match closed? character frame with
            | some value => deliver value rest
            | none => reader.fail
  | .text read .none =>
      if character = '"' then deliver (.string (String.ofList read)) reader.stack
      else ⟨textMode read character .none, reader.stack⟩
  | .text read escape => ⟨textMode read character escape, reader.stack⟩
  | .word _ => reader.fail
  | .done _ => if isSpace character then reader else reader.fail
  | .failed => reader

section Words

variable (words : List Char → Option JsonValue)

/-- A word ends here, if the reader is in one. -/
def settle (reader : Reader) : Reader :=
  match reader.mode with
  | .word read =>
      match words read with
      | some value => deliver value reader.stack
      | none => reader.fail
  | _ => reader

def step (reader : Reader) (character : Char) : Reader :=
  match reader.mode with
  | .word read =>
      if isWordChar character then ⟨.word (read ++ [character]), reader.stack⟩
      else (reader.settle words).stepSettled character
  | _ => reader.stepSettled character

def run (reader : Reader) (text : List Char) : Reader :=
  text.foldl (step words) reader

end Words

def value? (reader : Reader) : Option JsonValue :=
  match reader.mode with
  | .done value => some value
  | _ => none

end Reader

/-- The value of a text in the language with the given words. -/
def readWith (words : List Char → Option JsonValue) (text : String) :
    Option JsonValue :=
  ((Reader.initial.run words text.toList).settle words).value?

/-- The value of a JSON text. -/
def read (text : String) : Option JsonValue :=
  readWith jsonWord text

end Json

end SparkObservability
