import SparkObservability.Client.Delivery

/-!
# The announced and the actual length of a request

`sendContent` announces the number of UTF-16 units of its content and streams
the UTF-8 encoding.  Both count one for an ASCII character, and UTF-8 needs
more for every other one.
-/

namespace SparkObservability

universe u

/-! ## Counting units and bytes -/

/-- The UTF-8 encoding of a text. -/
def utf8Bytes (text : String) : List UInt8 :=
  text.toList.flatMap String.utf8EncodeChar

def IsAscii (text : String) : Prop :=
  ∀ character ∈ text.toList, character.val ≤ 0x7F

instance (text : String) : Decidable (IsAscii text) :=
  List.decidableBAll _ _

theorem isAscii_append (first second : String) :
    IsAscii (first ++ second) ↔ IsAscii first ∧ IsAscii second := by
  rw [IsAscii, String.toList_append, List.forall_mem_append, IsAscii, IsAscii]

theorem utf16Units_le_utf8Size (character : Char) :
    utf16Units character ≤ character.utf8Size := by
  simp only [utf16Units, Char.utf8Size]
  split <;> split <;> grind

theorem utf16Units_eq_utf8Size_iff (character : Char) :
    utf16Units character = character.utf8Size ↔ character.val ≤ 0x7F := by
  simp only [utf16Units, Char.utf8Size]
  split <;> split <;> grind

theorem units_le_bytes (characters : List Char) :
    (characters.map utf16Units).sum ≤
      (characters.flatMap String.utf8EncodeChar).length := by
  induction characters with
  | nil => exact Nat.le_refl _
  | cons character rest inductionHypothesis =>
      have one := utf16Units_le_utf8Size character
      rw [List.map_cons, List.sum_cons, List.flatMap_cons,
        List.length_append, String.length_utf8EncodeChar]
      omega

theorem units_eq_bytes_iff (characters : List Char) :
    (characters.map utf16Units).sum =
        (characters.flatMap String.utf8EncodeChar).length ↔
      ∀ character ∈ characters, character.val ≤ 0x7F := by
  induction characters with
  | nil => simp
  | cons character rest inductionHypothesis =>
      have one := utf16Units_le_utf8Size character
      have others := units_le_bytes rest
      rw [List.forall_mem_cons, ← inductionHypothesis,
        ← utf16Units_eq_utf8Size_iff, List.map_cons, List.sum_cons,
        List.flatMap_cons, List.length_append, String.length_utf8EncodeChar]
      omega

theorem javaLength_le_utf8Length (text : String) :
    javaLength text ≤ (utf8Bytes text).length :=
  units_le_bytes text.toList

theorem javaLength_eq_utf8Length_iff (text : String) :
    javaLength text = (utf8Bytes text).length ↔ IsAscii text :=
  units_eq_bytes_iff text.toList

theorem isAscii_intercalate (texts : List String) :
    IsAscii (String.intercalate "," texts) ↔
      ∀ text ∈ texts, IsAscii text := by
  induction texts with
  | nil => simp [IsAscii]
  | cons text rest inductionHypothesis =>
      rw [List.forall_mem_cons, ← inductionHypothesis]
      cases rest with
      | nil => simp [IsAscii]
      | cons second rest =>
          have comma : IsAscii "," := by decide
          rw [String.intercalate_cons_cons, isAscii_append, isAscii_append,
            and_iff_left comma]

/-! ## Requests -/

/-- The header tells the length of the body, and reading as many bytes as it
tells yields the whole body. -/
structure LengthMatches (request : HttpRequest) : Prop where
  header : request.contentLength = toString (utf8Bytes request.body).length
  complete :
    ∀ count : Nat, request.contentLength = toString count →
      (utf8Bytes request.body).take count = utf8Bytes request.body

theorem toString_nat_injective {first second : Nat}
    (same : toString first = toString second) : first = second := by
  have sameDigits : Nat.toDigits 10 first = Nat.toDigits 10 second := by
    have sameCharacters := congrArg String.toList same
    simpa only [Nat.toString_eq_ofList_toDigits, String.toList_ofList] using
      sameCharacters
  calc
    first = Nat.ofDigitChars 10 (Nat.toDigits 10 first) 0 :=
      Nat.ofDigitChars_ten_toDigits.symm
    _ = Nat.ofDigitChars 10 (Nat.toDigits 10 second) 0 := by rw [sameDigits]
    _ = second := Nat.ofDigitChars_ten_toDigits

theorem lengthMatches_iff (content : String) :
    LengthMatches (httpRequest content) ↔ IsAscii content := by
  rw [← javaLength_eq_utf8Length_iff]
  constructor
  · intro matching
    exact toString_nat_injective matching.header
  · intro sameLength
    refine ⟨congrArg toString sameLength, ?_⟩
    intro count announced
    have countShape : javaLength content = count :=
      toString_nat_injective announced
    rw [← countShape, sameLength]
    exact List.take_length

section Sending

variable {A : Type u} [Gson A] [EventClass A]

open ObservabilityClient

/-- Brackets and commas are ASCII, so a payload is if its objects are. -/
theorem isAscii_payload_iff
    (client : ObservabilityClient A) (events : List A) :
    IsAscii (client.payload events) ↔
      ∀ event ∈ events,
        IsAscii (Gson.render A (client.enrichedObject event)) := by
  have opening : IsAscii "[" := by decide
  have closing : IsAscii "]" := by decide
  rw [payload, isAscii_append, isAscii_append, isAscii_intercalate,
    List.forall_mem_map, and_iff_right opening, and_iff_left closing]

/-- The announced length of a request is the length of its body exactly when
the JSON texts of all its records consist of ASCII characters. -/
theorem content_length_matches_iff
    (client : ObservabilityClient A) (call : ClientCall A)
    (attempt : SendAttempt A)
    (attempted : attempt ∈ ((clientMachine A).output client call).attempts) :
    LengthMatches attempt.request ↔
      ∀ record ∈ attempt.records,
        IsAscii
          (Gson.render A
            (((clientMachine A).next client call).enrichedObject record)) := by
  rw [(attempt_carries_buffer attempted).2, lengthMatches_iff,
    isAscii_payload_iff]

end Sending

/-- A log event of an application whose name has a letter beyond ASCII. -/
def addAccented : ClientCall LogEvent :=
  .add
    { Environment.running (11 * nanosPerSecond) (.response 200 none) with
      sparkEnv := fun _ => ⟨some "caf\u00e9", some "app-1", some "driver"⟩ }
    ⟨11000, []⟩

/-- The answer of a new client, whose buffer is full with one event. -/
def accentedAnswer : Answer LogEvent :=
  letI := plainGson
  (clientMachine LogEvent).output (ObservabilityClient.create 1 60 0)
    addAccented

theorem accentedAnswer_attempts :
    ∃ attempt, attempt ∈ accentedAnswer.attempts := by
  have someAttempt : 0 < accentedAnswer.attempts.length := by decide +kernel
  exact List.exists_mem_of_length_pos someAttempt

/-- The header of its request is one byte short. -/
theorem accented_request_cut_off :
    ∃ attempt ∈ accentedAnswer.attempts,
      attempt.request.contentLength = "118" ∧
        (utf8Bytes attempt.request.body).length = 119 ∧
        ¬ LengthMatches attempt.request := by
  obtain ⟨attempt, member⟩ := accentedAnswer_attempts
  have announced :
      ∀ attempt ∈ accentedAnswer.attempts,
        attempt.request.contentLength = "118" := by
    decide +kernel
  have actual :
      ∀ attempt ∈ accentedAnswer.attempts,
        (utf8Bytes attempt.request.body).length = 119 := by
    decide +kernel
  refine ⟨attempt, member, announced attempt member, actual attempt member, ?_⟩
  intro matching
  have sameLength := matching.header
  rw [announced attempt member, actual attempt member] at sameLength
  revert sameLength
  decide

theorem content_length_matches_iff_accented :
    letI := plainGson
    ∃ attempt ∈ accentedAnswer.attempts,
      LengthMatches attempt.request ↔
        ∀ record ∈ attempt.records,
          IsAscii
            (Gson.render LogEvent
              (((clientMachine LogEvent).next
                (ObservabilityClient.create 1 60 0)
                addAccented).enrichedObject record)) := by
  let gson := plainGson
  obtain ⟨attempt, member⟩ := accentedAnswer_attempts
  exact
    ⟨attempt, member,
      content_length_matches_iff (ObservabilityClient.create 1 60 0)
        addAccented attempt member⟩

end SparkObservability
