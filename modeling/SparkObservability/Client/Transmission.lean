import SparkObservability.Client.ContentLength
import SparkObservability.Client.Payload

/-!
# What is transmitted of a request

As many bytes are transmitted as the header of a request announces.  The
pipeline gets the whole JSON text of an ASCII payload.  Any other payload is
cut off before its closing bracket, and nothing can be read from it.
-/

namespace SparkObservability

universe u

/-! ## Decoding -/

/-- The text with the given UTF-8 encoding. -/
def decodeUtf8 (bytes : List UInt8) : Option String :=
  String.fromUTF8? bytes.toByteArray

theorem toByteArray_utf8Bytes (text : String) :
    (utf8Bytes text).toByteArray = text.toByteArray :=
  String.utf8Encode_toList

theorem utf8Bytes_of_decodeUtf8 {bytes : List UInt8} {text : String}
    (decoded : decodeUtf8 bytes = some text) : utf8Bytes text = bytes := by
  rw [← List.toByteArray_inj, toByteArray_utf8Bytes]
  simp only [decodeUtf8, String.fromUTF8?] at decoded
  split at decoded
  · cases decoded
    rfl
  · cases decoded

theorem decodeUtf8_utf8Bytes (text : String) :
    decodeUtf8 (utf8Bytes text) = some text := by
  rw [decodeUtf8, toByteArray_utf8Bytes, String.fromUTF8?,
    dif_pos text.isValidUTF8]
  rfl

/-- Different characters have encodings that differ from the start. -/
theorem eq_of_utf8EncodeChar_append
    {first second : Char} {firstRest secondRest : List UInt8}
    (same :
      String.utf8EncodeChar first ++ firstRest =
        String.utf8EncodeChar second ++ secondRest) :
    first = second ∧ firstRest = secondRest := by
  have sameArrays := congrArg List.toByteArray same
  rw [List.toByteArray_append, List.toByteArray_append] at sameArrays
  have sameCharacter := congrArg (ByteArray.utf8DecodeChar? · 0) sameArrays
  simp only [ByteArray.utf8DecodeChar?_utf8EncodeChar_append,
    Option.some.injEq] at sameCharacter
  subst sameCharacter
  exact ⟨rfl, List.append_cancel_left same⟩

theorem isPrefix_of_utf8Bytes
    {part whole : List Char}
    (isPart :
      part.flatMap String.utf8EncodeChar <+:
        whole.flatMap String.utf8EncodeChar) :
    part <+: whole := by
  induction part generalizing whole with
  | nil => exact List.nil_prefix
  | cons first rest inductionHypothesis =>
      obtain ⟨missing, shape⟩ := isPart
      rw [List.flatMap_cons, List.append_assoc] at shape
      cases whole with
      | nil =>
          exact absurd (List.append_eq_nil_iff.1 shape).1
            String.utf8EncodeChar_ne_nil
      | cons second others =>
          obtain ⟨rfl, sameRest⟩ := eq_of_utf8EncodeChar_append shape
          exact List.prefix_cons_inj first |>.2
            (inductionHypothesis ⟨missing, sameRest⟩)

/-! ## Transmission -/

/-- The number of bytes that the header announces. -/
def HttpRequest.announced (request : HttpRequest) : Nat :=
  Nat.ofDigitChars 10 request.contentLength.toList 0

def HttpRequest.transmitted (request : HttpRequest) : List UInt8 :=
  (utf8Bytes request.body).take request.announced

/-- Nothing of the body is cut off. -/
def HttpRequest.ArrivesWhole (request : HttpRequest) : Prop :=
  request.transmitted = utf8Bytes request.body

instance (request : HttpRequest) : Decidable request.ArrivesWhole :=
  inferInstanceAs (Decidable (_ = _))

theorem announced_httpRequest (content : String) :
    (httpRequest content).announced = javaLength content := by
  rw [HttpRequest.announced, httpRequest, Nat.toString_eq_ofList_toDigits,
    String.toList_ofList]
  exact Nat.ofDigitChars_ten_toDigits

theorem arrivesWhole_iff (content : String) :
    (httpRequest content).ArrivesWhole ↔ IsAscii content := by
  have atMost := javaLength_le_utf8Length content
  rw [HttpRequest.ArrivesWhole, HttpRequest.transmitted,
    announced_httpRequest, ← javaLength_eq_utf8Length_iff,
    List.take_eq_self_iff]
  exact ⟨fun enough => Nat.le_antisymm atMost enough, Nat.le_of_eq ∘ Eq.symm⟩

theorem isAscii_write {value : JsonValue}
    (ascii :
      ((Json.writeChars value).all fun character =>
        decide (character.val ≤ 0x7F)) = true) :
    IsAscii (Json.write value) := by
  intro character member
  rw [Json.write, String.toList_ofList] at member
  exact of_decide_eq_true (List.all_eq_true.1 ascii character member)

/-- The JSON value with the given bytes as its text. -/
def readBytes (bytes : List UInt8) : Option JsonValue :=
  (decodeUtf8 bytes).bind Json.read

section Sending

variable {A : Type u} [Gson A] [EventClass A]

open ObservabilityClient

/-- The requests that are cut off are those with a record beyond ASCII. -/
theorem arrivesWhole_iff_of_attempted
    {client : ObservabilityClient A} {calls : List (ClientCall A)}
    {attempt : SendAttempt A}
    (made :
      attempt ∈
        ((clientMachine A).outputs client calls).flatMap Answer.attempts) :
    attempt.request.ArrivesWhole ↔
      ∀ record ∈ attempt.records,
        IsAscii
          (Gson.render A
            (((clientMachine A).after client calls).enrichedObject
              record)) := by
  induction calls generalizing client with
  | nil => simp at made
  | cons call rest inductionHypothesis =>
      rw [Machine.outputs_cons, List.flatMap_cons, List.mem_append] at made
      rw [Machine.after_cons]
      rcases made with attempted | later
      · have initialized := initialized_of_attempted attempted
        have same := after_sameSetup ((clientMachine A).next client call) rest
        obtain ⟨_, requested⟩ := attempt_carries_buffer attempted
        rw [requested, arrivesWhole_iff, ← payload_congr same initialized,
          isAscii_payload_iff]
      · exact inductionHypothesis later

/-- The pipeline reads a payload as the array of the enriched objects, or it
reads nothing. -/
theorem readBytes_payload
    (lawful : Gson.Lawful A) (client : ObservabilityClient A)
    (events : List A) :
    readBytes (httpRequest (client.payload events)).transmitted =
      if (httpRequest (client.payload events)).ArrivesWhole then
        some
          (.array
            (events.map fun event =>
              .object (client.enrichedObject event).members))
      else
        none := by
  have reads := read_payload lawful client events
  generalize shape : client.payload events = content at reads ⊢
  rw [readBytes]
  split
  next whole =>
    rw [whole]
    change (decodeUtf8 (utf8Bytes content)).bind _ = _
    rw [decodeUtf8_utf8Bytes]
    exact reads
  next broken =>
    cases decoded : decodeUtf8 (httpRequest content).transmitted with
    | none => rfl
    | some part =>
        have partBytes := utf8Bytes_of_decodeUtf8 decoded
        have isPart : part.toList <+: content.toList := by
          apply isPrefix_of_utf8Bytes
          change utf8Bytes part <+: utf8Bytes content
          rw [partBytes]
          exact List.take_prefix _ _
        have notWhole : part ≠ content := by
          rintro rfl
          exact broken partBytes.symm
        have array :
            content.toList =
              '[' ::
                ((String.intercalate ","
                    (events.map fun event =>
                      Gson.render A (client.enrichedObject event))).toList ++
                  [']']) := by
          rw [← shape, payload, String.toList_append, String.toList_append]
          rfl
        exact Json.readWith_of_break reads array isPart notWhole

end Sending

end SparkObservability
