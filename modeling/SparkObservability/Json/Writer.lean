import Mathlib.Algebra.Order.Field.Rat
import Mathlib.Data.Rat.Lemmas
import SparkObservability.Json.Framing

/-!
# Writing JSON texts

A writer of JSON texts without spaces that escapes quotation marks,
backslashes and control characters only, and the proof that a written value
is read back.
-/

namespace SparkObservability

namespace Json

/-! ## The writer -/

def writeChar (character : Char) : List Char :=
  if character = '"' then ['\\', '"']
  else if character = '\\' then ['\\', '\\']
  else if character.val < 0x20 then
    ['\\', 'u', '0', '0', Nat.digitChar (character.toNat / 16),
      Nat.digitChar (character.toNat % 16)]
  else [character]

def writeString (text : String) : List Char :=
  '"' :: (text.toList.flatMap writeChar ++ ['"'])

def writeInt : Int → List Char
  | .ofNat size => Nat.toDigits 10 size
  | .negSucc size => '-' :: Nat.toDigits 10 (size + 1)

/-- The fewest decimal places that are enough for a number. -/
def decimalPlaces (value : Rat) : Nat :=
  ((List.range (value.den + 1)).find? fun places =>
    value.den ∣ 10 ^ places).getD 0

/-- The power of ten that a mantissa is divided by. -/
def writeScale (places : Nat) : List Char :=
  if places = 0 then [] else 'E' :: '-' :: Nat.toDigits 10 places

def writeNumber (value : Rat) : List Char :=
  writeInt (value.num * (10 ^ decimalPlaces value / value.den : Nat)) ++
    writeScale (decimalPlaces value)

def writeNonFinite : NonFinite → List Char
  | .nan => ['N', 'a', 'N']
  | .infinity => ['I', 'n', 'f', 'i', 'n', 'i', 't', 'y']
  | .negativeInfinity => ['-', 'I', 'n', 'f', 'i', 'n', 'i', 't', 'y']

mutual

def writeChars : JsonValue → List Char
  | .null => ['n', 'u', 'l', 'l']
  | .bool true => ['t', 'r', 'u', 'e']
  | .bool false => ['f', 'a', 'l', 's', 'e']
  | .number value => writeNumber value
  | .nonFinite value => writeNonFinite value
  | .string text => writeString text
  | .array [] => ['[', ']']
  | .array (item :: rest) =>
      '[' :: (writeChars item ++ (writeItems rest ++ [']']))
  | .object [] => ['{', '}']
  | .object ((key, value) :: rest) =>
      '{' :: (writeString key ++
        ':' :: (writeChars value ++ (writeMembers rest ++ ['}'])))

/-- Items that are not the first ones of their array. -/
def writeItems : List JsonValue → List Char
  | [] => []
  | item :: rest => ',' :: (writeChars item ++ writeItems rest)

/-- Members that are not the first ones of their object. -/
def writeMembers : List (String × JsonValue) → List Char
  | [] => []
  | (key, value) :: rest =>
      ',' :: (writeString key ++
        ':' :: (writeChars value ++ writeMembers rest))

end

def write (value : JsonValue) : String :=
  String.ofList (writeChars value)

/-! ## Numbers -/

theorem den_dvd_of_isDecimal {value : Rat} (decimal : IsDecimal value) :
    value.den ∣ 10 ^ decimalPlaces value := by
  obtain ⟨places, bound, divides⟩ := decimal
  rw [decimalPlaces]
  cases found :
      (List.range (value.den + 1)).find? fun places =>
        value.den ∣ 10 ^ places with
  | none =>
      rw [List.find?_eq_none] at found
      have absurdity := found places (List.mem_range.2 (by omega))
      simp [divides] at absurdity
  | some first => simpa using List.find?_some found

/-- The written mantissa over the written power of ten. -/
theorem mantissa_div {value : Rat} (decimal : IsDecimal value) :
    ((value.num * (10 ^ decimalPlaces value / value.den : Nat) : Int) : Rat) /
        10 ^ decimalPlaces value =
      value := by
  obtain ⟨factor, shape⟩ := den_dvd_of_isDecimal decimal
  have denPos : 0 < value.den := value.den_pos
  have tenPower :
      (10 : Rat) ^ decimalPlaces value = value.den * factor := by
    exact_mod_cast shape
  have factorNonzero : (factor : Rat) ≠ 0 := by
    intro zero
    rw [zero, mul_zero] at tenPower
    exact pow_ne_zero _ (OfNat.ofNat_ne_zero 10) tenPower
  rw [shape, Nat.mul_div_cancel_left _ denPos, tenPower, Int.cast_mul,
    Int.cast_natCast, mul_div_mul_right _ _ factorNonzero,
    Rat.num_div_den]

theorem eq_zero_of_head_toDigits (size : Nat)
    (leadingZero : (Nat.toDigits 10 size).head? = some '0') : size = 0 := by
  induction size using Nat.strong_induction_on with
  | _ size inductionHypothesis =>
      rw [Nat.toDigits_eq_if (by decide)] at leadingZero
      split at leadingZero
      · next small =>
          have onlyZero :
              ∀ digit < 10, [Nat.digitChar digit].head? = some '0' → digit = 0 := by
            decide
          exact onlyZero size small leadingZero
      · next large =>
          rw [List.head?_append_of_ne_nil _ Nat.toDigits_ne_nil] at leadingZero
          have smaller := inductionHypothesis (size / 10) (by omega) leadingZero
          omega

theorem isWhole_toDigits (size : Nat) : IsWhole (Nat.toDigits 10 size) := by
  refine ⟨Nat.toDigits_ne_nil, ?_⟩
  intro leadingZero
  rw [eq_zero_of_head_toDigits size leadingZero]
  rfl

theorem isDigit_toDigits (size : Nat) :
    ∀ digit ∈ Nat.toDigits 10 size, digit.isDigit = true :=
  fun _ member => Nat.isDigit_of_mem_toDigits (by decide) (by decide) member

theorem readExponent_writeScale (places : Nat) :
    readExponent (writeScale places) = some (-(places : Int)) := by
  by_cases none : places = 0
  · simp [writeScale, none, readExponent]
  · have allDigits : (Nat.toDigits 10 places).all Char.isDigit = true :=
      List.all_eq_true.2 (isDigit_toDigits places)
    simp [writeScale, none, readExponent, Nat.toDigits_ne_nil, allDigits,
      Nat.ofDigitChars_ten_toDigits]

theorem readFraction_writeScale (places : Nat) :
    readFraction (writeScale places) = some ([], writeScale places) := by
  by_cases none : places = 0
  · simp [writeScale, none, readFraction]
  · simp [writeScale, none, readFraction]

theorem shift_neg (value : Rat) (places : Nat) :
    shift value (-(places : Int)) = value / 10 ^ places := by
  cases places with
  | zero => simp [shift]
  | succ places => rfl

theorem readUnsigned_written (size places : Nat) :
    readUnsigned (Nat.toDigits 10 size ++ writeScale places) =
      some ((size : Rat) / 10 ^ places) := by
  have noDigit :
      (writeScale places).takeWhile Char.isDigit = [] ∧
        (writeScale places).dropWhile Char.isDigit = writeScale places := by
    by_cases none : places = 0
    · simp [writeScale, none]
    · simp [writeScale, none]
  have whole :
      (Nat.toDigits 10 size ++ writeScale places).takeWhile Char.isDigit =
        Nat.toDigits 10 size := by
    rw [List.takeWhile_append_of_pos (isDigit_toDigits size), noDigit.1,
      List.append_nil]
  have rest :
      (Nat.toDigits 10 size ++ writeScale places).dropWhile Char.isDigit =
        writeScale places := by
    rw [List.dropWhile_append_of_pos (isDigit_toDigits size), noDigit.2]
  simp [readUnsigned, whole, rest, isWhole_toDigits, readFraction_writeScale,
    readExponent_writeScale, Nat.ofDigitChars_ten_toDigits, shift_neg]

theorem exists_toDigits_cons (size : Nat) :
    ∃ digit rest, Nat.toDigits 10 size = digit :: rest ∧
      digit.isDigit = true := by
  obtain ⟨digit, rest, shape⟩ :=
    List.exists_cons_of_ne_nil (Nat.toDigits_ne_nil (n := size) (b := 10))
  refine ⟨digit, rest, shape, isDigit_toDigits size digit ?_⟩
  simp [shape]

theorem readNumber_written (mantissa : Int) (places : Nat) :
    readNumber (writeInt mantissa ++ writeScale places) =
      some ((mantissa : Rat) / 10 ^ places) := by
  cases mantissa with
  | ofNat size =>
      obtain ⟨digit, rest, shape, isDigit⟩ := exists_toDigits_cons size
      have notMinus : digit ≠ '-' := by
        rintro rfl
        revert isDigit
        decide
      have unsigned := readUnsigned_written size places
      rw [shape, List.cons_append] at unsigned
      rw [writeInt, shape, List.cons_append, readNumber, unsigned]
      · rfl
      · intro text isMinus
        exact notMinus (List.cons.inj isMinus).1
  | negSucc size =>
      rw [writeInt, List.cons_append, readNumber, readUnsigned_written]
      rw [Option.map_some, Int.cast_negSucc, neg_div]

theorem readNumber_writeNumber {value : Rat} (decimal : IsDecimal value) :
    readNumber (writeNumber value) = some value := by
  rw [writeNumber, readNumber_written, mantissa_div decimal]

theorem isWordChar_of_isDigit {character : Char}
    (isDigit : character.isDigit = true) : isWordChar character = true := by
  simp [isWordChar, Char.isAlphanum, isDigit]

/-- A written number starts with a digit or a minus sign. -/
theorem exists_writeNumber_cons (value : Rat) :
    ∃ first rest, writeNumber value = first :: rest ∧
      (first.isDigit = true ∨ first = '-') := by
  rw [writeNumber]
  cases value.num * (10 ^ decimalPlaces value / value.den : Nat) with
  | ofNat size =>
      obtain ⟨digit, rest, shape, isDigit⟩ := exists_toDigits_cons size
      exact ⟨digit, rest ++ _, by rw [writeInt, shape]; rfl, Or.inl isDigit⟩
  | negSucc size => exact ⟨'-', _, rfl, Or.inr rfl⟩

theorem isWordChar_writeNumber (value : Rat) :
    ∀ character ∈ writeNumber value, isWordChar character = true := by
  have digits (size : Nat) :
      ∀ character ∈ Nat.toDigits 10 size, isWordChar character = true :=
    fun character member =>
      isWordChar_of_isDigit (isDigit_toDigits size character member)
  rw [writeNumber, List.forall_mem_append]
  constructor
  · cases value.num * (10 ^ decimalPlaces value / value.den : Nat) with
    | ofNat size => exact digits size
    | negSucc size =>
        rw [writeInt, List.forall_mem_cons]
        exact ⟨rfl, digits (size + 1)⟩
  · rw [writeScale]
    split
    · simp
    · rw [List.forall_mem_cons, List.forall_mem_cons]
      exact ⟨rfl, rfl, digits _⟩

theorem jsonWord_writeNumber {value : Rat} (decimal : IsDecimal value) :
    jsonWord (writeNumber value) = some (.number value) := by
  obtain ⟨first, rest, shape, starts⟩ := exists_writeNumber_cons value
  have different (other : Char) (others : List Char)
      (notDigit : other.isDigit = false) (notMinus : other ≠ '-') :
      writeNumber value ≠ other :: others := by
    rw [shape]
    intro same
    rw [(List.cons.inj same).1] at starts
    rcases starts with isDigit | isMinus
    · rw [notDigit] at isDigit
      cases isDigit
    · exact notMinus isMinus
  rw [jsonWord, if_neg (different 't' _ rfl (by decide)),
    if_neg (different 'f' _ rfl (by decide)),
    if_neg (different 'n' _ rfl (by decide)),
    readNumber_writeNumber decimal]
  rfl

/-! ## Strings -/

theorem hexDigit?_digitChar :
    ∀ digit < 16, hexDigit? (Nat.digitChar digit) = some digit := by
  decide

namespace Reader

variable {words : List Char → Option JsonValue}

theorem endHex_of_lt (read : List Char) {value : Nat}
    (notSurrogate : value < 0xD800) :
    endHex read none value = .text (read ++ [Char.ofNat value]) .none := by
  have notLeading : ¬ (0xD800 ≤ value ∧ value < 0xDC00) := by omega
  have notTrailing : ¬ (0xDC00 ≤ value ∧ value < 0xE000) := by omega
  simp only [endHex, if_neg notLeading, if_neg notTrailing]

theorem run_writeChar (read : List Char) (stack : List Frame)
    (character : Char) :
    (⟨.text read .none, stack⟩ : Reader).run words (writeChar character) =
      ⟨.text (read ++ [character]) .none, stack⟩ := by
  rw [writeChar]
  split
  · next quote =>
      subst quote
      rfl
  split
  · next backslash =>
      subst backslash
      rfl
  split
  · next notQuote notBackslash control =>
      have small : character.toNat < 0x20 := control
      have high :=
        hexDigit?_digitChar (character.toNat / 16) (by omega)
      have low :=
        hexDigit?_digitChar (character.toNat % 16) (by omega)
      have zero : hexDigit? '0' = some 0 := rfl
      have ends :
          endHex read none
              (16 * (character.toNat / 16) + character.toNat % 16) =
            .text (read ++ [character]) .none := by
        rw [Nat.div_add_mod, endHex_of_lt read (by omega),
          Char.ofNat_toNat]
      simp [run, step, stepSettled, textMode, zero, high, low, ends]
  · next notQuote notBackslash notControl =>
      simp [run, step, stepSettled, textMode, notQuote, notBackslash,
        notControl]

theorem run_flatMap_writeChar (read : List Char) (stack : List Frame)
    (text : List Char) :
    (⟨.text read .none, stack⟩ : Reader).run words (text.flatMap writeChar) =
      ⟨.text (read ++ text) .none, stack⟩ := by
  induction text generalizing read with
  | nil => simp
  | cons character rest inductionHypothesis =>
      rw [List.flatMap_cons, run_append, run_writeChar, inductionHypothesis,
        List.append_assoc, List.singleton_append]

theorem run_text_writeString (text : String) (stack : List Frame) :
    (⟨.text [] .none, stack⟩ : Reader).run words
        (text.toList.flatMap writeChar ++ ['"']) =
      deliver (.string text) stack := by
  rw [run_append, run_flatMap_writeChar, List.nil_append]
  simp [step, stepSettled]

theorem settle_deliver (value : JsonValue) (stack : List Frame) :
    (deliver value stack).settle words = deliver value stack := by
  rcases stack with _ | ⟨⟨items⟩ | ⟨members, _ | key⟩, rest⟩
  · rfl
  · rfl
  · cases value <;> rfl
  · rfl

/-! ## Words -/

theorem start_of_isWordChar
    {character : Char} (wordChar : isWordChar character = true)
    (reader : Reader) :
    reader.start character = ⟨.word [character], reader.stack⟩ := by
  have different (other : Char) (notWordChar : isWordChar other = false) :
      character ≠ other := by
    rintro rfl
    rw [notWordChar] at wordChar
    cases wordChar
  simp [start, wordChar, isSpace, different ' ' rfl, different '\t' rfl,
    different '\n' rfl, different '\r' rfl, different '"' rfl,
    different '[' rfl, different '{' rfl]

theorem run_word (read : List Char) (stack : List Frame)
    {word : List Char}
    (wordChars : ∀ character ∈ word, isWordChar character = true) :
    (⟨.word read, stack⟩ : Reader).run words word =
      ⟨.word (read ++ word), stack⟩ := by
  induction word generalizing read with
  | nil => simp
  | cons character rest inductionHypothesis =>
      rw [List.forall_mem_cons] at wordChars
      have goesOn :
          (⟨.word read, stack⟩ : Reader).step words character =
            ⟨.word (read ++ [character]), stack⟩ := by
        simp [step, wordChars.1]
      rw [run_cons, goesOn, inductionHypothesis _ wordChars.2,
        List.append_assoc, List.singleton_append]

theorem settle_run_word
    {word : List Char} {value : JsonValue}
    (wordChars : ∀ character ∈ word, isWordChar character = true)
    (nonempty : word ≠ []) (known : words word = some value)
    (stack : List Frame) :
    ((⟨.value, stack⟩ : Reader).run words word).settle words =
      deliver value stack := by
  obtain ⟨first, rest, rfl⟩ := List.exists_cons_of_ne_nil nonempty
  rw [List.forall_mem_cons] at wordChars
  have begins :
      (⟨.value, stack⟩ : Reader).step words first = ⟨.word [first], stack⟩ :=
    start_of_isWordChar wordChars.1 _
  rw [run_cons, begins, run_word _ _ wordChars.2, List.singleton_append]
  simp only [settle, known]

end Reader

/-! ## Values -/

namespace Reader

/-- What follows a value that was read to its end. -/
theorem step_of_settled
    {words : List Char → Option JsonValue} {reader next : Reader}
    (settled : reader.settle words = next)
    {character : Char} (notWordChar : isWordChar character = false) :
    reader.step words character = next.stepSettled character := by
  rw [step_of_not_wordChar words reader notWordChar, settled]

/-- The first item of an array, read where the array could also end. -/
theorem settle_run_first_item
    {text : List Char} {value : JsonValue} {outer : List Frame}
    (settled :
      ((⟨.value, .array [] :: outer⟩ : Reader).run jsonWord text).settle
          jsonWord =
        deliver value (.array [] :: outer)) :
    ((⟨.valueOrEnd, .array [] :: outer⟩ : Reader).run jsonWord text).settle
        jsonWord =
      deliver value (.array [] :: outer) := by
  rw [run_valueOrEnd jsonWord, settled]
  · intro failed
    rw [settle_of_failed jsonWord failed] at settled
    rw [settled] at failed
    cases failed
  · intro notStarted
    have unsettled :
        ((⟨.value, .array [] :: outer⟩ : Reader).run jsonWord text).settle
            jsonWord =
          (⟨.value, .array [] :: outer⟩ : Reader).run jsonWord text := by
      simp only [settle, notStarted]
    rw [← unsettled, settled] at notStarted
    cases notStarted

/-- The key of a member up to its colon. -/
theorem run_key (mode : Mode) (starts : mode = .value ∨ mode = .valueOrEnd)
    (members : List (String × JsonValue)) (outer : List Frame)
    (key : String) (text : List Char) :
    (⟨mode, .object members none :: outer⟩ : Reader).run jsonWord
        (writeString key ++ ':' :: text) =
      (⟨.value, .object members (some key) :: outer⟩ : Reader).run jsonWord
        text := by
  have begins :
      (⟨mode, .object members none :: outer⟩ : Reader).step jsonWord '"' =
        ⟨.text [] .none, .object members none :: outer⟩ := by
    rcases starts with rfl | rfl <;> rfl
  rw [writeString, List.cons_append, run_cons, begins, run_append,
    run_text_writeString]
  rfl

end Reader

open Reader

mutual

/-- A written value is read back, whatever is open around it. -/
theorem settle_run_writeChars : ∀ (value : JsonValue),
    value.WellFormed → ∀ outer : List Frame,
      ((⟨.value, outer⟩ : Reader).run jsonWord (writeChars value)).settle
          jsonWord =
        deliver value outer
  | .null, _, outer =>
      settle_run_word (List.all_eq_true.1 rfl) (List.cons_ne_nil _ _) rfl outer
  | .bool true, _, outer =>
      settle_run_word (List.all_eq_true.1 rfl) (List.cons_ne_nil _ _) rfl outer
  | .bool false, _, outer =>
      settle_run_word (List.all_eq_true.1 rfl) (List.cons_ne_nil _ _) rfl outer
  | .number value, decimal, outer => by
      apply settle_run_word (isWordChar_writeNumber value) _
        (jsonWord_writeNumber decimal)
      obtain ⟨first, rest, shape, _⟩ := exists_writeNumber_cons value
      rw [shape]
      exact List.cons_ne_nil _ _
  | .nonFinite value, wellFormed, _ => wellFormed.elim
  | .string text, _, outer => by
      have begins :
          (⟨.value, outer⟩ : Reader).step jsonWord '"' =
            ⟨.text [] .none, outer⟩ := rfl
      rw [writeChars, writeString, run_cons, begins, run_text_writeString,
        settle_deliver]
  | .array [], _, outer => settle_deliver (.array []) outer
  | .array (item :: rest), wellFormed, outer => by
      have first :=
        settle_run_first_item
          (settle_run_writeChars item wellFormed.1 (.array [] :: outer))
      have begins :
          (⟨.value, outer⟩ : Reader).step jsonWord '[' =
            ⟨.valueOrEnd, .array [] :: outer⟩ := rfl
      rw [writeChars, run_cons, begins, run_append,
        run_writeItems rest wellFormed.2 [item] outer _ first,
        settle_deliver]
      rfl
  | .object [], _, outer => settle_deliver (.object []) outer
  | .object ((key, value) :: rest), wellFormed, outer => by
      have first :=
        settle_run_writeChars value wellFormed.2.1
          (.object [] (some key) :: outer)
      have begins :
          (⟨.value, outer⟩ : Reader).step jsonWord '{' =
            ⟨.valueOrEnd, .object [] none :: outer⟩ := rfl
      rw [writeChars, run_cons, begins, run_key _ (Or.inr rfl), run_append,
        run_writeMembers rest wellFormed.2.2 [(key, value)] outer _ first
          wellFormed.1,
        settle_deliver]
      rfl

theorem run_writeItems : ∀ (items : List JsonValue),
    JsonValue.AllWellFormed items →
      ∀ (read : List JsonValue) (outer : List Frame) (reader : Reader),
        reader.settle jsonWord = ⟨.separator, .array read :: outer⟩ →
          reader.run jsonWord (writeItems items ++ [']']) =
            deliver (.array (read ++ items)) outer
  | [], _, read, outer, reader, settled => by
      rw [writeItems, List.nil_append, run_cons, run_nil,
        step_of_settled settled rfl, List.append_nil]
      rfl
  | item :: rest, wellFormed, read, outer, reader, settled => by
      have next :=
        settle_run_writeChars item wellFormed.1 (.array read :: outer)
      have comma :
          reader.step jsonWord ',' = ⟨.value, .array read :: outer⟩ := by
        rw [step_of_settled settled rfl]
        rfl
      rw [writeItems, List.cons_append, run_cons, comma, List.append_assoc,
        run_append,
        run_writeItems rest wellFormed.2 (read ++ [item]) outer _ next,
        List.append_assoc, List.singleton_append]

theorem run_writeMembers : ∀ (members : List (String × JsonValue)),
    JsonValue.MembersWellFormed members →
      ∀ (read : List (String × JsonValue)) (outer : List Frame)
        (reader : Reader),
        reader.settle jsonWord = ⟨.separator, .object read none :: outer⟩ →
          ((read ++ members).map Prod.fst).Nodup →
            reader.run jsonWord (writeMembers members ++ ['}']) =
              deliver (.object (read ++ members)) outer
  | [], _, read, outer, reader, settled, _ => by
      rw [writeMembers, List.nil_append, run_cons, run_nil,
        step_of_settled settled rfl, List.append_nil]
      rfl
  | (key, value) :: rest, wellFormed, read, outer, reader, settled, distinct => by
      have fresh : key ∉ read.map Prod.fst := by
        rw [List.map_append, List.map_cons] at distinct
        intro present
        exact (List.nodup_append.1 distinct).2.2 key present key
          (List.Mem.head _) rfl
      have next :=
        settle_run_writeChars value wellFormed.1
          (.object read (some key) :: outer)
      rw [deliver, JsonObject.put_of_not_mem fresh] at next
      have comma :
          reader.step jsonWord ',' =
            ⟨.value, .object read none :: outer⟩ := by
        rw [step_of_settled settled rfl]
        rfl
      have shape : read ++ (key, value) :: rest = (read ++ [(key, value)]) ++ rest := by
        rw [List.append_assoc, List.singleton_append]
      rw [shape] at distinct ⊢
      rw [writeMembers, List.cons_append, run_cons, comma, List.append_assoc,
        List.cons_append, run_key _ (Or.inl rfl), List.append_assoc, run_append,
        run_writeMembers rest wellFormed.2 _ outer _ next distinct]

end

/-- Reading inverts writing. -/
theorem read_write {value : JsonValue} (wellFormed : value.WellFormed) :
    read (write value) = some value := by
  rw [read, readWith, write, String.toList_ofList, initial,
    settle_run_writeChars value wellFormed []]
  rfl

end Json

end SparkObservability
