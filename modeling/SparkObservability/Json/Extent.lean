import SparkObservability.Json.Framing

/-!
# Strings fit into their text

A reader takes at least one character for every character of a string, and
two more for its quotes.  So the strings of a value that is read from a text
are together no longer than the text.
-/

namespace SparkObservability

namespace JsonValue

mutual

/-- The length of the strings in the value with their quotes, keys apart. -/
def extent : JsonValue → Nat
  | .null => 0
  | .bool _ => 0
  | .number _ => 0
  | .nonFinite _ => 0
  | .string text => text.toList.length + 2
  | .array items => itemsExtent items
  | .object members => membersExtent members

def itemsExtent : List JsonValue → Nat
  | [] => 0
  | item :: rest => extent item + itemsExtent rest

def membersExtent : List (String × JsonValue) → Nat
  | [] => 0
  | (_, value) :: rest => extent value + membersExtent rest

end

theorem itemsExtent_concat (items : List JsonValue) (value : JsonValue) :
    itemsExtent (items ++ [value]) = itemsExtent items + value.extent := by
  induction items with
  | nil => simp [itemsExtent]
  | cons item rest inductionHypothesis =>
      rw [List.cons_append, itemsExtent, itemsExtent, inductionHypothesis,
        Nat.add_assoc]

/-- A member that is replaced only makes the extent smaller. -/
theorem membersExtent_put_le
    (key : String) (value : JsonValue) (members : List (String × JsonValue)) :
    membersExtent (JsonObject.put key value members) ≤
      membersExtent members + value.extent := by
  induction members with
  | nil => simp [JsonObject.put, membersExtent]
  | cons member rest inductionHypothesis =>
      rcases member with ⟨name, old⟩
      rw [JsonObject.put]
      split
      · rw [membersExtent, membersExtent]
        omega
      · rw [membersExtent, membersExtent]
        omega

theorem extent_le_of_lookup
    {members : List (String × JsonValue)} {key : String} {value : JsonValue}
    (found : members.lookup key = some value) :
    value.extent ≤ membersExtent members := by
  induction members with
  | nil => cases found
  | cons member rest inductionHypothesis =>
      rcases member with ⟨name, first⟩
      rw [List.lookup_cons] at found
      rw [membersExtent]
      split at found
      · cases found
        exact Nat.le_add_right _ _
      · exact Nat.le_add_left_of_le (inductionHypothesis found)

end JsonValue

namespace Json

open JsonValue

/-! ## Readers -/

def Frame.extent : Frame → Nat
  | .array items => itemsExtent items
  | .object members _ => membersExtent members

def stackExtent : List Frame → Nat
  | [] => 0
  | frame :: rest => frame.extent + stackExtent rest

/-- The closing quote of a string is still to come. -/
def Mode.extent : Mode → Nat
  | .text read _ => read.length + 1
  | .done complete => complete.extent
  | _ => 0

namespace Reader

def extent (reader : Reader) : Nat :=
  reader.mode.extent + stackExtent reader.stack

theorem extent_deliver_le (value : JsonValue) (stack : List Frame) :
    (deliver value stack).extent ≤ value.extent + stackExtent stack := by
  rcases stack with _ | ⟨⟨items⟩ | ⟨members, _ | key⟩, rest⟩
  · exact Nat.le_refl _
  · simp only [deliver, extent, Mode.extent, stackExtent, Frame.extent,
      itemsExtent_concat]
    omega
  · cases value <;>
      simp [deliver, extent, Mode.extent, stackExtent, Frame.extent]
  · have put := membersExtent_put_le key value members
    simp only [deliver, extent, Mode.extent, stackExtent, Frame.extent]
    omega

theorem extent_of_closed
    {character : Char} {frame : Frame} {value : JsonValue}
    (closing : closed? character frame = some value) :
    value.extent = frame.extent := by
  rcases frame with ⟨items⟩ | ⟨members, _ | key⟩
  · simp only [closed?, Option.ite_none_right_eq_some] at closing
    rw [← Option.some.inj closing.2]
    rfl
  · simp only [closed?, Option.ite_none_right_eq_some] at closing
    rw [← Option.some.inj closing.2]
    rfl
  · cases closing

/-- The end of a container takes nothing away. -/
theorem extent_deliver_of_closed_le
    {character : Char} {frame : Frame} {value : JsonValue}
    (closing : closed? character frame = some value) (mode : Mode)
    (rest : List Frame) :
    (deliver value rest).extent ≤ extent ⟨mode, frame :: rest⟩ + 1 := by
  have delivered := extent_deliver_le value rest
  rw [extent_of_closed closing] at delivered
  simp only [extent, stackExtent] at delivered ⊢
  omega

theorem extent_start_le (reader : Reader) (character : Char) :
    (reader.start character).extent ≤ reader.extent + 1 := by
  simp only [start]
  split
  · exact Nat.le_succ _
  split
  · simp only [extent, Mode.extent, List.length_nil]
    omega
  split
  · simp [extent, Mode.extent, stackExtent, Frame.extent, itemsExtent]
    omega
  split
  · simp [extent, Mode.extent, stackExtent, Frame.extent, membersExtent]
    omega
  split
  · simp only [extent, Mode.extent]
    omega
  · simp only [fail, extent, Mode.extent]
    omega

theorem extent_endHex_le (read : List Char) (high : Option Nat) (value : Nat) :
    (endHex read high value).extent ≤ read.length + 2 := by
  simp only [endHex]
  split
  · split
    · simp [Mode.extent]
    · split <;> simp [Mode.extent]
  · split <;> simp [Mode.extent]

/-- A character of the text is at most one character of the string. -/
theorem extent_textMode_le
    (read : List Char) (character : Char) (escape : Escape) :
    (textMode read character escape).extent ≤ read.length + 2 := by
  cases escape with
  | none =>
      simp only [textMode]
      split
      · simp [Mode.extent]
      · split <;> simp [Mode.extent]
  | backslash =>
      simp only [textMode]
      split
      · simp [Mode.extent]
      · split <;> simp [Mode.extent]
  | hex high left value =>
      simp only [textMode]
      split
      · simp [Mode.extent]
      · split
        · exact extent_endHex_le _ _ _
        · simp [Mode.extent]
  | partner high =>
      simp only [textMode]
      split <;> simp [Mode.extent]
  | partnerBackslash high =>
      simp only [textMode]
      split <;> simp [Mode.extent]

theorem extent_stepSettled_le (reader : Reader) (character : Char) :
    (reader.stepSettled character).extent ≤ reader.extent + 1 := by
  rcases reader with ⟨mode, stack⟩
  have fails : (fail ⟨mode, stack⟩).extent ≤ extent ⟨mode, stack⟩ + 1 := by
    simp only [fail, extent, Mode.extent]
    omega
  cases mode with
  | value => exact extent_start_le ⟨.value, stack⟩ character
  | valueOrEnd =>
      rcases stack with _ | ⟨frame, rest⟩
      · exact fails
      · simp only [stepSettled]
        split
        · next closing => exact extent_deliver_of_closed_le closing _ rest
        · exact extent_start_le ⟨.valueOrEnd, frame :: rest⟩ character
  | colon =>
      simp only [stepSettled]
      split
      · exact Nat.le_succ _
      · split
        · exact Nat.le_succ _
        · exact fails
  | separator =>
      simp only [stepSettled]
      split
      · exact Nat.le_succ _
      · split
        · exact Nat.le_succ _
        · rcases stack with _ | ⟨frame, rest⟩
          · exact fails
          · dsimp only
            split
            · next closing => exact extent_deliver_of_closed_le closing _ rest
            · exact fails
  | text read escape =>
      have goesOn :
          extent ⟨textMode read character escape, stack⟩ ≤
            extent ⟨.text read escape, stack⟩ + 1 := by
        have longer := extent_textMode_le read character escape
        simp only [extent]
        simp only [Mode.extent] at longer ⊢
        omega
      cases escape with
      | none =>
          simp only [stepSettled]
          split
          · have delivered :=
              extent_deliver_le (.string (String.ofList read)) stack
            simp only [JsonValue.extent, String.toList_ofList] at delivered
            simp only [extent, Mode.extent] at delivered ⊢
            omega
          · exact goesOn
      | backslash => exact goesOn
      | hex high left value => exact goesOn
      | partner high => exact goesOn
      | partnerBackslash high => exact goesOn
  | word read => exact fails
  | done value =>
      simp only [stepSettled]
      split
      · exact Nat.le_succ _
      · exact fails
  | failed => exact Nat.le_succ _

/-! ## Texts -/

section Words

variable {words : List Char → Option JsonValue}
  (noStrings : ∀ word value, words word = some value → value.extent = 0)

include noStrings in
theorem extent_settle_le (reader : Reader) :
    (reader.settle words).extent ≤ reader.extent := by
  rcases reader with ⟨mode, stack⟩
  cases mode with
  | word read =>
      simp only [settle]
      split
      · next value known =>
          have delivered := extent_deliver_le value stack
          rw [noStrings read value known] at delivered
          exact delivered
      · exact Nat.le_refl _
  | value => exact Nat.le_refl _
  | valueOrEnd => exact Nat.le_refl _
  | colon => exact Nat.le_refl _
  | separator => exact Nat.le_refl _
  | text read escape => exact Nat.le_refl _
  | done value => exact Nat.le_refl _
  | failed => exact Nat.le_refl _

include noStrings in
theorem extent_step_le (reader : Reader) (character : Char) :
    (reader.step words character).extent ≤ reader.extent + 1 := by
  rw [step]
  split
  · next read inWord =>
      split
      · simp only [extent, inWord, Mode.extent]
        omega
      · exact
          Nat.le_trans (extent_stepSettled_le _ character)
            (Nat.succ_le_succ (extent_settle_le noStrings reader))
  · exact extent_stepSettled_le reader character

include noStrings in
theorem extent_run_le (reader : Reader) (text : List Char) :
    (reader.run words text).extent ≤ reader.extent + text.length := by
  induction text generalizing reader with
  | nil => exact Nat.le_refl _
  | cons character rest inductionHypothesis =>
      have first := extent_step_le noStrings reader character
      have others := inductionHypothesis (reader.step words character)
      rw [run_cons, List.length_cons]
      omega

include noStrings in
/-- The strings of a value are no longer than its text. -/
theorem extent_le_of_readWith
    {text : String} {value : JsonValue}
    (reads : readWith words text = some value) :
    value.extent ≤ text.toList.length := by
  have ran := extent_run_le noStrings initial text.toList
  have settled :=
    extent_settle_le noStrings (initial.run words text.toList)
  have start : initial.extent = 0 := rfl
  have complete :
      ((initial.run words text.toList).settle words).mode = .done value :=
    mode_of_read words reads
  rw [extent, complete] at settled
  simp only [Mode.extent] at settled
  omega

end Words

end Reader

theorem extent_of_jsonWord
    {word : List Char} {value : JsonValue}
    (known : jsonWord word = some value) :
    value.extent = 0 := by
  rw [jsonWord] at known
  split at known
  · cases known
    rfl
  split at known
  · cases known
    rfl
  split at known
  · cases known
    rfl
  · obtain ⟨number, _, rfl⟩ := Option.map_eq_some_iff.1 known
    rfl

end Json

end SparkObservability
