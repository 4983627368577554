import Mathlib.Data.List.Forall2
import SparkObservability.Json.Reader

/-!
# Texts inside containers

A reader does not look below the container it is in, so putting further open
containers at the bottom of its stack changes nothing until the value is
complete, which then goes to the innermost of them.  From this the texts of
the items of an array, joined by commas and put in brackets, are a text of the
array.  A text in brackets that breaks off before its end is no JSON text.
-/

namespace SparkObservability

namespace Json

namespace Reader

variable (words : List Char → Option JsonValue)

@[simp]
theorem run_nil (reader : Reader) : reader.run words [] = reader :=
  rfl

@[simp]
theorem run_cons (reader : Reader) (character : Char) (text : List Char) :
    reader.run words (character :: text) =
      (reader.step words character).run words text :=
  rfl

theorem run_append (reader : Reader) (first second : List Char) :
    reader.run words (first ++ second) =
      (reader.run words first).run words second :=
  List.foldl_append

/-! ## Failing -/

theorem step_of_failed
    {reader : Reader} (failed : reader.mode = .failed) (character : Char) :
    reader.step words character = reader := by
  simp only [step, stepSettled, failed]

theorem run_of_failed
    {reader : Reader} (failed : reader.mode = .failed) (text : List Char) :
    reader.run words text = reader := by
  induction text with
  | nil => rfl
  | cons character rest inductionHypothesis =>
      rw [run_cons, step_of_failed words failed, inductionHypothesis]

theorem settle_of_failed
    {reader : Reader} (failed : reader.mode = .failed) :
    reader.settle words = reader := by
  simp only [settle, failed]

theorem step_ne_failed_of_run
    {reader : Reader} {character : Char} {text : List Char}
    (succeeds :
      ((reader.step words character).run words text).mode ≠ .failed) :
    (reader.step words character).mode ≠ .failed := by
  intro failed
  rw [run_of_failed words failed] at succeeds
  exact succeeds failed

/-! ## Containers at the bottom of the stack -/

/-- The same reader with more open containers around what it reads. -/
def inside (reader : Reader) (outer : List Frame) : Reader :=
  match reader.mode with
  | .done value => deliver value outer
  | mode => ⟨mode, reader.stack ++ outer⟩

theorem deliver_inside
    (value : JsonValue) (stack outer : List Frame) :
    (deliver value stack).inside outer = deliver value (stack ++ outer) := by
  rcases stack with _ | ⟨⟨items⟩ | ⟨members, _ | key⟩, rest⟩
  · rfl
  · rfl
  · cases value <;> rfl
  · rfl

theorem inside_of_not_done
    {reader : Reader} (notDone : ∀ value, reader.mode ≠ .done value)
    (outer : List Frame) :
    reader.inside outer = ⟨reader.mode, reader.stack ++ outer⟩ := by
  rcases reader with ⟨mode, stack⟩
  cases mode with
  | done value => exact absurd rfl (notDone value)
  | value => rfl
  | valueOrEnd => rfl
  | colon => rfl
  | separator => rfl
  | text => rfl
  | word => rfl
  | failed => rfl

/-- Where a value has gone, spaces are skipped. -/
theorem step_deliver_of_space
    (value : JsonValue) (outer : List Frame) {character : Char}
    (space : isSpace character) :
    (deliver value outer).stepSettled character = deliver value outer := by
  rcases outer with _ | ⟨⟨items⟩ | ⟨members, _ | key⟩, rest⟩
  · simp [deliver, stepSettled, space]
  · simp [deliver, stepSettled, space]
  · cases value <;> simp [deliver, stepSettled, space]
  · simp [deliver, stepSettled, space]

theorem start_inside
    {mode : Mode} (notDone : ∀ value, mode ≠ .done value)
    (stack outer : List Frame) (character : Char) :
    start ⟨mode, stack ++ outer⟩ character =
      (start ⟨mode, stack⟩ character).inside outer := by
  simp only [start]
  split
  · rw [inside_of_not_done notDone]
  split
  · rfl
  split
  · rfl
  split
  · rfl
  split
  · rfl
  · rfl

theorem endHex_ne_done
    (read : List Char) (high : Option Nat) (value : Nat)
    (complete : JsonValue) :
    endHex read high value ≠ .done complete := by
  simp only [endHex]
  split
  · split
    · exact Mode.noConfusion
    · split <;> exact Mode.noConfusion
  · split <;> exact Mode.noConfusion

theorem textMode_ne_done
    (read : List Char) (character : Char) (escape : Escape)
    (complete : JsonValue) :
    textMode read character escape ≠ .done complete := by
  cases escape with
  | none =>
      simp only [textMode]
      split
      · exact Mode.noConfusion
      · split <;> exact Mode.noConfusion
  | backslash =>
      simp only [textMode]
      split
      · exact Mode.noConfusion
      · split <;> exact Mode.noConfusion
  | hex high left value =>
      simp only [textMode]
      split
      · exact Mode.noConfusion
      · split
        · exact endHex_ne_done _ _ _ _
        · exact Mode.noConfusion
  | partner high =>
      simp only [textMode]
      split <;> exact Mode.noConfusion
  | partnerBackslash high =>
      simp only [textMode]
      split <;> exact Mode.noConfusion

theorem stepSettled_inside
    {reader : Reader} {character : Char}
    (succeeds : (reader.stepSettled character).mode ≠ .failed)
    (outer : List Frame) :
    (reader.inside outer).stepSettled character =
      (reader.stepSettled character).inside outer := by
  rcases reader with ⟨mode, stack⟩
  cases mode with
  | value => exact start_inside (fun _ => Mode.noConfusion) stack outer character
  | valueOrEnd =>
      rcases stack with _ | ⟨frame, rest⟩
      · exact absurd rfl succeeds
      · simp only [inside, stepSettled, List.cons_append]
        cases closing : closed? character frame with
        | some value => exact (deliver_inside value rest outer).symm
        | none =>
            exact start_inside (fun _ => Mode.noConfusion) (frame :: rest)
              outer character
  | colon =>
      simp only [inside, stepSettled]
      split
      · rfl
      · split <;> rfl
  | separator =>
      simp only [inside, stepSettled]
      split
      · rfl
      · split
        · rfl
        · next space comma =>
            rcases stack with _ | ⟨frame, rest⟩
            · simp [stepSettled, space, comma, fail] at succeeds
            · simp only [List.cons_append]
              cases closing : closed? character frame with
              | some value => exact (deliver_inside value rest outer).symm
              | none => rfl
  | text read escape =>
      have goesOn (escape : Escape) :
          (⟨textMode read character escape, stack ++ outer⟩ : Reader) =
            inside ⟨textMode read character escape, stack⟩ outer := by
        apply Eq.symm
        exact inside_of_not_done (textMode_ne_done read character escape) outer
      cases escape with
      | none =>
          simp only [inside, stepSettled]
          split
          · exact (deliver_inside _ stack outer).symm
          · exact goesOn .none
      | backslash => exact goesOn .backslash
      | hex high left value => exact goesOn (.hex high left value)
      | partner high => exact goesOn (.partner high)
      | partnerBackslash high => exact goesOn (.partnerBackslash high)
  | word read => exact absurd rfl succeeds
  | done value =>
      by_cases space : isSpace character = true
      · have stays :
            (⟨.done value, stack⟩ : Reader).stepSettled character =
              ⟨.done value, stack⟩ := by
          simp only [stepSettled, if_pos space]
        rw [stays]
        exact step_deliver_of_space value outer space
      · simp [stepSettled, space, fail] at succeeds
  | failed => exact absurd rfl succeeds

theorem settle_inside
    {reader : Reader} (succeeds : (reader.settle words).mode ≠ .failed)
    (outer : List Frame) :
    (reader.inside outer).settle words =
      (reader.settle words).inside outer := by
  rcases reader with ⟨mode, stack⟩
  cases mode with
  | word read =>
      simp only [inside, settle]
      cases known : words read with
      | some value => exact (deliver_inside value stack outer).symm
      | none => rfl
  | done value =>
      have settled (stack : List Frame) :
          (deliver value stack).settle words = deliver value stack := by
        rcases stack with _ | ⟨⟨items⟩ | ⟨members, _ | key⟩, rest⟩
        · rfl
        · rfl
        · cases value <;> rfl
        · rfl
      exact settled outer
  | value => rfl
  | valueOrEnd => rfl
  | colon => rfl
  | separator => rfl
  | text => rfl
  | failed => rfl

theorem stepSettled_settle_of_failed
    {reader : Reader} (failed : (reader.settle words).mode = .failed)
    (character : Char) :
    ((reader.settle words).stepSettled character).mode = .failed := by
  simp only [stepSettled, failed]

theorem step_inside
    {reader : Reader} {character : Char}
    (succeeds : (reader.step words character).mode ≠ .failed)
    (outer : List Frame) :
    (reader.inside outer).step words character =
      (reader.step words character).inside outer := by
  rcases reader with ⟨mode, stack⟩
  cases mode with
  | word read =>
      by_cases goesOn : isWordChar character = true
      · simp only [inside, step, if_pos goesOn]
      · have ends (stack : List Frame) :
            (⟨.word read, stack⟩ : Reader).step words character =
              (settle words ⟨.word read, stack⟩).stepSettled character := by
          simp only [step, if_neg goesOn]
        rw [ends] at succeeds ⊢
        have settles : (settle words ⟨.word read, stack⟩).mode ≠ .failed :=
          mt (stepSettled_settle_of_failed words · character) succeeds
        rw [← stepSettled_inside succeeds, ← settle_inside words settles]
        exact ends (stack ++ outer)
  | done value =>
      have sameStep (stack : List Frame) :
          (deliver value stack).step words character =
            (deliver value stack).stepSettled character := by
        rcases stack with _ | ⟨⟨items⟩ | ⟨members, _ | key⟩, rest⟩
        · rfl
        · rfl
        · cases value <;> rfl
        · rfl
      rw [show (⟨.done value, stack⟩ : Reader).inside outer =
          deliver value outer from rfl, sameStep]
      exact stepSettled_inside succeeds outer
  | value => exact stepSettled_inside succeeds outer
  | valueOrEnd => exact stepSettled_inside succeeds outer
  | colon => exact stepSettled_inside succeeds outer
  | separator => exact stepSettled_inside succeeds outer
  | text => exact stepSettled_inside succeeds outer
  | failed => exact absurd rfl succeeds

theorem run_inside
    {reader : Reader} {text : List Char}
    (succeeds : (reader.run words text).mode ≠ .failed)
    (outer : List Frame) :
    (reader.inside outer).run words text =
      (reader.run words text).inside outer := by
  induction text generalizing reader with
  | nil => rfl
  | cons character rest inductionHypothesis =>
      rw [run_cons] at succeeds ⊢
      rw [run_cons,
        step_inside words (step_ne_failed_of_run words succeeds),
        inductionHypothesis succeeds]

/-! ## Texts that are read -/

theorem mode_of_read
    {text : String} {value : JsonValue}
    (reads : readWith words text = some value) :
    ((initial.run words text.toList).settle words).mode = .done value := by
  revert reads
  rw [readWith, value?]
  split
  · next complete shape =>
      intro same
      rw [shape, Option.some.inj same]
  · intro impossible
    cases impossible

theorem settle_ne_failed_of_read
    {text : String} {value : JsonValue}
    (reads : readWith words text = some value) :
    ((initial.run words text.toList).settle words).mode ≠ .failed := by
  rw [mode_of_read words reads]
  exact Mode.noConfusion

theorem run_ne_failed_of_read
    {text : String} {value : JsonValue}
    (reads : readWith words text = some value) :
    (initial.run words text.toList).mode ≠ .failed := by
  intro failed
  have settles := settle_ne_failed_of_read words reads
  rw [settle_of_failed words failed] at settles
  exact settles failed

/-! ## More words -/

section MoreWords

variable {words} {moreWords : List Char → Option JsonValue}
variable (agrees :
  ∀ word value, words word = some value → moreWords word = some value)

include agrees in
theorem settle_of_more_words
    {reader : Reader} (succeeds : (reader.settle words).mode ≠ .failed) :
    reader.settle moreWords = reader.settle words := by
  rcases reader with ⟨mode, stack⟩
  cases mode with
  | word read =>
      simp only [settle] at succeeds ⊢
      cases known : words read with
      | none =>
          rw [known] at succeeds
          exact absurd rfl succeeds
      | some value => rw [agrees read value known]
  | value => rfl
  | valueOrEnd => rfl
  | colon => rfl
  | separator => rfl
  | text => rfl
  | done => rfl
  | failed => rfl

include agrees in
theorem step_of_more_words
    {reader : Reader} {character : Char}
    (succeeds : (reader.step words character).mode ≠ .failed) :
    reader.step moreWords character = reader.step words character := by
  rcases reader with ⟨mode, stack⟩
  cases mode with
  | word read =>
      simp only [step] at succeeds ⊢
      split
      · rfl
      · next ends =>
          rw [if_neg ends] at succeeds
          rw [settle_of_more_words agrees
            (mt (stepSettled_settle_of_failed words · character) succeeds)]
  | value => rfl
  | valueOrEnd => rfl
  | colon => rfl
  | separator => rfl
  | text => rfl
  | done => rfl
  | failed => rfl

include agrees in
theorem run_of_more_words
    {reader : Reader} {text : List Char}
    (succeeds : (reader.run words text).mode ≠ .failed) :
    reader.run moreWords text = reader.run words text := by
  induction text generalizing reader with
  | nil => rfl
  | cons character rest inductionHypothesis =>
      rw [run_cons] at succeeds
      rw [run_cons, run_cons,
        step_of_more_words agrees (step_ne_failed_of_run words succeeds),
        inductionHypothesis succeeds]

include agrees in
/-- A text is read to the same value with more words. -/
theorem readWith_of_more_words
    {text : String} {value : JsonValue}
    (reads : readWith words text = some value) :
    readWith moreWords text = some value := by
  rw [readWith, run_of_more_words agrees (run_ne_failed_of_read words reads),
    settle_of_more_words agrees (settle_ne_failed_of_read words reads),
    ← reads, readWith]

end MoreWords

/-! ## Arrays -/

theorem step_of_not_wordChar
    (reader : Reader) {character : Char}
    (notWordChar : isWordChar character = false) :
    reader.step words character =
      (reader.settle words).stepSettled character := by
  rcases reader with ⟨mode, stack⟩
  cases mode <;> simp [step, settle, notWordChar]

/-- Inside open containers a text is read to its value as well. -/
theorem settle_run_of_read
    {text : String} {value : JsonValue}
    (reads : readWith words text = some value) (outer : List Frame) :
    ((⟨.value, outer⟩ : Reader).run words text.toList).settle words =
      deliver value outer := by
  have start : (⟨.value, outer⟩ : Reader) = initial.inside outer := rfl
  rw [start, run_inside words (run_ne_failed_of_read words reads),
    settle_inside words (settle_ne_failed_of_read words reads)]
  simp only [inside, mode_of_read words reads]

theorem start_of_not_space
    {character : Char} (notSpace : isSpace character = false)
    (mode other : Mode) (stack : List Frame) :
    start ⟨mode, stack⟩ character = start ⟨other, stack⟩ character := by
  simp [start, notSpace, fail]

theorem start_of_closed
    {character : Char} {frame : Frame} {value : JsonValue}
    (closes : closed? character frame = some value) (reader : Reader) :
    (reader.start character).mode = .failed := by
  have bracket : character = ']' ∨ character = '}' := by
    rcases frame with ⟨items⟩ | ⟨members, _ | key⟩
    · simp only [closed?, Option.ite_none_right_eq_some] at closes
      exact Or.inl closes.1
    · simp only [closed?, Option.ite_none_right_eq_some] at closes
      exact Or.inr closes.1
    · cases closes
  rcases bracket with rfl | rfl <;> rfl

/-- Where a container may end as well, a value is read all the same. -/
theorem run_valueOrEnd
    {frame : Frame} {outer : List Frame} {text : List Char}
    (notFailed :
      ((⟨.value, frame :: outer⟩ : Reader).run words text).mode ≠ .failed)
    (started :
      ((⟨.value, frame :: outer⟩ : Reader).run words text).mode ≠ .value) :
    (⟨.valueOrEnd, frame :: outer⟩ : Reader).run words text =
      (⟨.value, frame :: outer⟩ : Reader).run words text := by
  induction text with
  | nil => exact absurd rfl started
  | cons character rest inductionHypothesis =>
      rw [run_cons] at notFailed started ⊢
      rw [run_cons]
      have valueStep :
          (⟨.value, frame :: outer⟩ : Reader).step words character =
            start ⟨.value, frame :: outer⟩ character := rfl
      rw [valueStep] at notFailed started ⊢
      have notClosed : closed? character frame = none := by
        rw [Option.eq_none_iff_forall_ne_some]
        intro value closes
        have failed := start_of_closed closes ⟨.value, frame :: outer⟩
        rw [run_of_failed words failed] at notFailed
        exact notFailed failed
      have endStep :
          (⟨.valueOrEnd, frame :: outer⟩ : Reader).step words character =
            start ⟨.valueOrEnd, frame :: outer⟩ character := by
        simp only [step, stepSettled, notClosed]
      rw [endStep]
      cases space : isSpace character with
      | true =>
          simp only [start, if_pos space] at notFailed started ⊢
          exact inductionHypothesis notFailed started
      | false =>
          rw [start_of_not_space space .valueOrEnd .value]

/-- The items of an array up to its end. -/
theorem run_items
    {texts : List String} {values : List JsonValue}
    (reads :
      List.Forall₂ (fun text value => readWith words text = some value)
        texts values)
    (nonempty : texts ≠ []) (items : List JsonValue) (outer : List Frame) :
    (⟨.value, .array items :: outer⟩ : Reader).run words
        ((String.intercalate "," texts).toList ++ [']']) =
      deliver (.array (items ++ values)) outer := by
  induction reads generalizing items with
  | nil => exact absurd rfl nonempty
  | @cons text value texts values readsFirst readsRest inductionHypothesis =>
      have first :=
        settle_run_of_read words readsFirst (.array items :: outer)
      cases texts with
      | nil =>
          cases readsRest
          rw [String.intercalate_singleton, run_append, run_cons, run_nil,
            step_of_not_wordChar words _ (by decide), first]
          rfl
      | cons second texts =>
          have rest :=
            inductionHypothesis (List.cons_ne_nil _ _) (items ++ [value])
          rw [String.intercalate_cons_cons, String.toList_append,
            String.toList_append, List.append_assoc, List.append_assoc,
            run_append]
          rw [show ",".toList = [','] from rfl, List.singleton_append,
            run_cons, step_of_not_wordChar words _ (by decide), first]
          rw [List.append_assoc, List.singleton_append] at rest
          exact rest

/-! ## Texts that break off -/

/-- Outside of every container the reader is done or has failed. -/
def Bracketed (reader : Reader) : Prop :=
  reader.stack = [] →
    reader.mode = .failed ∨ ∃ value, reader.mode = .done value

theorem bracketed_of_open {reader : Reader} (isOpen : reader.stack ≠ []) :
    reader.Bracketed :=
  fun empty => absurd empty isOpen

theorem bracketed_deliver (value : JsonValue) (stack : List Frame) :
    (deliver value stack).Bracketed := by
  rcases stack with _ | ⟨⟨items⟩ | ⟨members, _ | key⟩, rest⟩
  · exact fun _ => Or.inr ⟨value, rfl⟩
  · exact bracketed_of_open (List.cons_ne_nil _ _)
  · cases value <;> exact bracketed_of_open (List.cons_ne_nil _ _)
  · exact bracketed_of_open (List.cons_ne_nil _ _)

theorem bracketed_start {reader : Reader} (isOpen : reader.stack ≠ [])
    (character : Char) : (reader.start character).Bracketed := by
  apply bracketed_of_open
  simp only [start, fail]
  split
  · exact isOpen
  split
  · exact isOpen
  split
  · exact List.cons_ne_nil _ _
  split
  · exact List.cons_ne_nil _ _
  split <;> exact isOpen

theorem bracketed_stepSettled {reader : Reader}
    (bracketed : reader.Bracketed) (character : Char) :
    (reader.stepSettled character).Bracketed := by
  rcases reader with ⟨mode, _ | ⟨frame, rest⟩⟩
  · -- at the top level only spaces may follow a value
    rcases bracketed rfl with failed | ⟨value, done⟩
    · cases failed
      exact fun _ => Or.inl rfl
    · cases done
      simp only [stepSettled]
      split
      · exact fun _ => Or.inr ⟨value, rfl⟩
      · exact fun _ => Or.inl rfl
  · have isOpen : frame :: rest ≠ [] := List.cons_ne_nil _ _
    cases mode with
    | value => exact bracketed_start isOpen character
    | valueOrEnd =>
        simp only [stepSettled]
        split
        · exact bracketed_deliver _ _
        · exact bracketed_start isOpen character
    | colon =>
        simp only [stepSettled]
        split
        · exact bracketed_of_open isOpen
        · split <;> exact bracketed_of_open isOpen
    | separator =>
        simp only [stepSettled]
        split
        · exact bracketed_of_open isOpen
        split
        · exact bracketed_of_open isOpen
        split
        · exact bracketed_deliver _ _
        · exact bracketed_of_open isOpen
    | text read escape =>
        cases escape with
        | none =>
            simp only [stepSettled]
            split
            · exact bracketed_deliver _ _
            · exact bracketed_of_open isOpen
        | backslash => exact bracketed_of_open isOpen
        | hex high left value => exact bracketed_of_open isOpen
        | partner high => exact bracketed_of_open isOpen
        | partnerBackslash high => exact bracketed_of_open isOpen
    | word read => exact bracketed_of_open isOpen
    | done value =>
        simp only [stepSettled]
        split <;> exact bracketed_of_open isOpen
    | failed => exact bracketed_of_open isOpen

theorem bracketed_settle {reader : Reader} (bracketed : reader.Bracketed) :
    (reader.settle words).Bracketed := by
  rcases reader with ⟨mode, stack⟩
  cases mode with
  | word read =>
      simp only [settle]
      split
      · exact bracketed_deliver _ _
      · exact fun _ => Or.inl rfl
  | value => exact bracketed
  | valueOrEnd => exact bracketed
  | colon => exact bracketed
  | separator => exact bracketed
  | text => exact bracketed
  | done => exact bracketed
  | failed => exact bracketed

theorem bracketed_step {reader : Reader} (bracketed : reader.Bracketed)
    (character : Char) : (reader.step words character).Bracketed := by
  unfold step
  split
  next read mode =>
    split
    · intro empty
      rcases bracketed empty with failed | ⟨value, done⟩
      · rw [mode] at failed
        cases failed
      · rw [mode] at done
        cases done
    · exact bracketed_stepSettled (bracketed_settle words bracketed) character
  next => exact bracketed_stepSettled bracketed character

theorem bracketed_run {reader : Reader} (bracketed : reader.Bracketed)
    (text : List Char) : (reader.run words text).Bracketed := by
  induction text generalizing reader with
  | nil => exact bracketed
  | cons character rest inductionHypothesis =>
      exact inductionHypothesis (bracketed_step words bracketed character)

/-- A value that begins with a bracket is complete at its last bracket. -/
theorem done_of_settled {reader : Reader} (bracketed : reader.Bracketed)
    {value : JsonValue} (settled : (reader.settle words).value? = some value) :
    reader.mode = .done value := by
  rcases reader with ⟨mode, stack⟩
  cases mode with
  | done other =>
      simp only [settle, value?, Option.some.injEq] at settled
      rw [settled]
  | word read =>
      have isOpen : stack ≠ [] := by
        intro empty
        rcases bracketed empty with failed | ⟨other, done⟩
        · cases failed
        · cases done
      simp only [settle] at settled
      split at settled
      next other _ =>
        rcases stack with _ | ⟨⟨items⟩ | ⟨members, _ | key⟩, rest⟩
        · exact absurd rfl isOpen
        · cases settled
        · cases other <;> cases settled
        · cases settled
      next => cases settled
  | value => cases settled
  | valueOrEnd => cases settled
  | colon => cases settled
  | separator => cases settled
  | text => cases settled
  | failed => cases settled

/-- Nothing but spaces may follow a value. -/
theorem isSpace_of_run_done {reader : Reader} {value last : JsonValue}
    (done : reader.mode = .done value) {text : List Char}
    (complete : (reader.run words text).mode = .done last) :
    ∀ character ∈ text, isSpace character = true := by
  induction text generalizing reader with
  | nil => exact fun _ member => absurd member List.not_mem_nil
  | cons character rest inductionHypothesis =>
      have stepShape :
          reader.step words character =
            if isSpace character then reader else reader.fail := by
        simp only [step, stepSettled, done]
      rw [run_cons, stepShape] at complete
      cases space : isSpace character with
      | true =>
          rw [space, if_pos rfl] at complete
          rw [List.forall_mem_cons]
          exact ⟨space, inductionHypothesis done complete⟩
      | false =>
          rw [space, if_neg Bool.false_ne_true,
            run_of_failed words (rfl : reader.fail.mode = .failed)] at complete
          cases complete

end Reader

/-- Texts of the items, joined by commas and put in brackets, are a text of
the array. -/
theorem readWith_array
    {words : List Char → Option JsonValue}
    {texts : List String} {values : List JsonValue}
    (reads :
      List.Forall₂ (fun text value => readWith words text = some value)
        texts values) :
    readWith words ("[" ++ String.intercalate "," texts ++ "]") =
      some (.array values) := by
  have textShape :
      ("[" ++ String.intercalate "," texts ++ "]").toList =
        '[' :: ((String.intercalate "," texts).toList ++ [']']) := by
    rw [String.toList_append, String.toList_append]
    rfl
  have opened :
      Reader.initial.step words '[' = ⟨.valueOrEnd, [.array []]⟩ := rfl
  have complete :
      (⟨.valueOrEnd, [.array []]⟩ : Reader).run words
          ((String.intercalate "," texts).toList ++ [']']) =
        Reader.deliver (.array values) [] := by
    by_cases empty : texts = []
    · subst empty
      cases reads
      rfl
    · have items := Reader.run_items words reads empty [] []
      rw [Reader.run_valueOrEnd, items, List.nil_append]
      · rw [items]
        exact Mode.noConfusion
      · rw [items]
        exact Mode.noConfusion
  rw [readWith, textShape, Reader.run_cons, opened, complete]
  rfl

/-- The text of an array is not a text of anything if its end is missing. -/
theorem readWith_of_break
    {words : List Char → Option JsonValue} {text part : String}
    {value : JsonValue} (reads : readWith words text = some value)
    {inner : List Char} (array : text.toList = '[' :: (inner ++ [']']))
    (isPart : part.toList <+: text.toList) (broken : part ≠ text) :
    readWith words part = none := by
  obtain ⟨missing, shape⟩ := isPart
  by_contra readsPart
  obtain ⟨partValue, readsPart⟩ := Option.ne_none_iff_exists'.1 readsPart
  have opened :
      Reader.initial.step words '[' = ⟨.valueOrEnd, [.array []]⟩ := rfl
  have openBracketed : Reader.Bracketed ⟨.valueOrEnd, [.array []]⟩ :=
    Reader.bracketed_of_open (List.cons_ne_nil _ _)
  cases partShape : part.toList with
  | nil =>
      rw [readWith, partShape] at readsPart
      cases readsPart
  | cons first rest =>
      rw [partShape, array, List.cons_append, List.cons.injEq] at shape
      obtain ⟨rfl, restShape⟩ := shape
      rw [readWith, partShape, Reader.run_cons, opened] at readsPart
      rw [readWith, array, ← restShape, Reader.run_cons, opened,
        Reader.run_append] at reads
      have partBracketed :=
        Reader.bracketed_run words openBracketed rest
      have partDone := Reader.done_of_settled words partBracketed readsPart
      have done :=
        Reader.done_of_settled words
          (Reader.bracketed_run words partBracketed missing) reads
      have spaces := Reader.isSpace_of_run_done words partDone done
      have someMissing : missing ≠ [] := by
        rintro rfl
        apply broken
        rw [← String.toList_inj, partShape, array, ← restShape,
          List.append_nil]
      have lastMissing : ']' ∈ missing := by
        have last := congrArg List.getLast? restShape
        rw [List.getLast?_append_of_ne_nil _ someMissing,
          List.getLast?_concat] at last
        exact List.mem_of_getLast? last
      exact absurd (spaces _ lastMissing) (by decide)

end Json

end SparkObservability
