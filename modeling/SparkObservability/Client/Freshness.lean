import SparkObservability.Client.BackOff
import SparkObservability.Client.Batching

/-!
# How long a record waits in the buffer

Nothing but a call looks at the clock, so a record that stays in the buffer
is overdue when the next calls come too late.  The buffered records are fresh
exactly when every addition that triggers no flush is followed by one that
does, no later than its deadline, unless nobody calls after that deadline.
-/

namespace SparkObservability

universe u

variable {A : Type u}

open ObservabilityClient

/-! ## Calm clients -/

/-- The constructor arguments of a client outside every retry cycle. -/
structure Calm (batchSize batchTime : Int)
    (client : ObservabilityClient A) : Prop where
  batchSize : client.batchSize = batchSize
  batchTime : client.batchTime = batchTime
  notBackingOff : client.isBackingOff = false

/-- An addition that arrives after `count` others at the client fills the
batch or comes when the batch time is over. -/
def Triggers (client : ObservabilityClient A) (count : Nat)
    (addition : Environment × A) : Prop :=
  client.batchSize ≤ client.buffer.length + count + 1 ∨
    client.batchTime ≤ client.durationSinceLastFlush addition.1.now

theorem Calm.flushDue_push_iff
    {batchSize batchTime : Int} {client : ObservabilityClient A}
    (calm : Calm batchSize batchTime client) (addition : Environment × A) :
    (client.push addition.2).FlushDue addition.1.now ↔
      Triggers client 0 addition := by
  have notBackingOff : (client.push addition.2).isBackingOff = false :=
    calm.notBackingOff
  have sameDuration :
      (client.push addition.2).durationSinceLastFlush addition.1.now =
        client.durationSinceLastFlush addition.1.now := rfl
  have sameSize :
      (client.push addition.2).batchSize = client.batchSize := rfl
  have sameTime :
      (client.push addition.2).batchTime = client.batchTime := rfl
  simp [FlushDue, Triggers, notBackingOff, sameDuration, sameSize, sameTime]

theorem triggers_push_iff
    (client : ObservabilityClient A) (event : A) (count : Nat)
    (addition : Environment × A) :
    Triggers (client.push event) count addition ↔
      Triggers client (count + 1) addition := by
  have sameDuration :
      (client.push event).durationSinceLastFlush addition.1.now =
        client.durationSinceLastFlush addition.1.now := rfl
  have sameSize : (client.push event).batchSize = client.batchSize := rfl
  have sameTime : (client.push event).batchTime = client.batchTime := rfl
  simp only [Triggers, sameDuration, sameSize, sameTime, push_buffer,
    List.length_append, List.length_singleton]
  omega

theorem Calm.push {batchSize batchTime : Int}
    {client : ObservabilityClient A}
    (calm : Calm batchSize batchTime client) (event : A) :
    Calm batchSize batchTime (client.push event) :=
  ⟨calm.batchSize, calm.batchTime, calm.notBackingOff⟩

theorem calm_create (batchSize batchTime created : Int) :
    Calm batchSize batchTime
      (create batchSize batchTime created : ObservabilityClient A) :=
  ⟨rfl, rfl, rfl⟩

/-- The additions whose records are in the buffer, if `additions` are all
additions so far. -/
def bufferedAdditions (client : ObservabilityClient A)
    (additions : List (Environment × A)) : List (Environment × A) :=
  additions.drop (additions.length - client.buffer.length)

/-- An addition that is followed by fewer additions than there are records
in the buffer is still buffered. -/
theorem mem_bufferedAdditions_of_length_lt
    {client : ObservabilityClient A}
    {before later : List (Environment × A)} {addition : Environment × A}
    (short : later.length < client.buffer.length) :
    addition ∈ bufferedAdditions client (before ++ addition :: later) := by
  have fewer :
      (before ++ addition :: later).length - client.buffer.length ≤
        before.length := by
    simp only [List.length_append, List.length_cons]
    omega
  rw [bufferedAdditions, List.drop_append_of_le_length fewer]
  exact List.mem_append_right _ (List.Mem.head _)

theorem exists_cut_of_mem_bufferedAdditions
    {client : ObservabilityClient A}
    {additions : List (Environment × A)} {waiting : Environment × A}
    (buffered : waiting ∈ bufferedAdditions client additions) :
    ∃ before later,
      additions = before ++ waiting :: later ∧
        later.length < client.buffer.length := by
  obtain ⟨between, later, shape⟩ := List.mem_iff_append.1 buffered
  rw [bufferedAdditions] at shape
  refine
    ⟨additions.take (additions.length - client.buffer.length) ++ between,
      later, ?_, ?_⟩
  · rw [List.append_assoc, ← shape, List.take_append_drop]
  · have lengths := congrArg List.length shape
    simp only [List.length_drop, List.length_append, List.length_cons]
      at lengths
    omega

/-- Under an ordered clock an addition no later than the deadline comes
before the first one that is overdue. -/
theorem exists_cut_before_overdue
    {between later quiet rest : List (Environment × A)}
    {next trigger : Environment × A} {deadline : Int}
    (ordered :
      ((next :: later).map fun addition => addition.1.now).Pairwise (· ≤ ·))
    (cut : between ++ next :: later = quiet ++ trigger :: rest)
    (inTime : trigger.1.now ≤ deadline) (overdue : deadline < next.1.now) :
    ∃ suffix, between = quiet ++ trigger :: suffix := by
  have notLate : trigger ∉ next :: later := by
    intro member
    rw [List.map_cons, List.pairwise_cons] at ordered
    rcases List.mem_cons.1 member with rfl | inLater
    · omega
    · have notBefore := ordered.1 _ (List.mem_map_of_mem inLater)
      omega
  rcases List.append_eq_append_iff.1 cut with
    ⟨prefixRest, _, lateTrigger⟩ | ⟨suffix, betweenShape, triggerShape⟩
  · exact absurd (by rw [lateTrigger]; simp) notLate
  · cases suffix with
    | nil =>
        rw [List.nil_append, List.cons.injEq] at triggerShape
        exact absurd (by rw [triggerShape.1]; exact List.Mem.head _) notLate
    | cons first suffix =>
        rw [List.cons_append, List.cons.injEq] at triggerShape
        rw [← triggerShape.1] at betweenShape
        exact ⟨suffix, betweenShape⟩

section Freshness

variable [Gson A] [EventClass A]

/-- A smooth addition that triggers nothing is buffered. -/
theorem Calm.next_of_not_triggers
    {batchSize batchTime : Int} {client : ObservabilityClient A}
    (calm : Calm batchSize batchTime client) {addition : Environment × A}
    (notDue : ¬ Triggers client 0 addition) :
    (additionMachine A).next client addition = client.push addition.2 := by
  have notFlushed := mt (calm.flushDue_push_iff addition).1 notDue
  have step :
      (additionMachine A).next client addition =
        (client.add addition.1 addition.2).1 := rfl
  rw [step, add_eq, if_neg notFlushed]

/-- A smooth addition that triggers a flush empties the buffer. -/
theorem Calm.next_of_triggers
    {batchSize batchTime : Int} {client : ObservabilityClient A}
    (calm : Calm batchSize batchTime client) {addition : Environment × A}
    (smooth : (addCall addition).Smooth)
    (due : Triggers client 0 addition) :
    Calm batchSize batchTime ((additionMachine A).next client addition) ∧
      ((additionMachine A).next client addition).buffer = [] := by
  obtain ⟨available, accepted⟩ := smooth addition.1 rfl
  have flushed := (calm.flushDue_push_iff addition).2 due
  have nonempty : (client.push addition.2).buffer ≠ [] := by simp
  have ready := prepared_initialized available (client.push addition.2)
  have readyCalm :
      ((client.push addition.2).prepared addition.1).isBackingOff = false :=
    (prepared_sameDelivery addition.1 _).isBackingOff.trans
      calm.notBackingOff
  have step :
      (additionMachine A).next client addition =
        (client.add addition.1 addition.2).1 := rfl
  rw [step, add_eq, if_pos flushed, flushEvents_eq, if_neg nonempty,
    if_pos ready]
  simp only [sendBuffer, accepted]
  rw [acknowledge_of_not_backingOff readyCalm]
  refine ⟨⟨?_, ?_, readyCalm⟩, rfl⟩
  · exact (prepared_batchSize addition.1 _).trans calm.batchSize
  · exact (prepared_batchTime addition.1 _).trans calm.batchTime

theorem Calm.next
    {batchSize batchTime : Int} {client : ObservabilityClient A}
    (calm : Calm batchSize batchTime client) {addition : Environment × A}
    (smooth : (addCall addition).Smooth) :
    Calm batchSize batchTime ((additionMachine A).next client addition) ∧
      ((additionMachine A).next client addition).buffer.length ≤
        client.buffer.length + 1 := by
  by_cases due : Triggers client 0 addition
  · obtain ⟨nextCalm, emptied⟩ := calm.next_of_triggers smooth due
    refine ⟨nextCalm, ?_⟩
    rw [emptied, List.length_nil]
    exact Nat.zero_le _
  · rw [calm.next_of_not_triggers due]
    exact ⟨calm.push addition.2, by simp⟩

/-- Along smooth additions the buffer grows by at most one record each. -/
theorem Calm.after
    {batchSize batchTime : Int} {client : ObservabilityClient A}
    (calm : Calm batchSize batchTime client)
    {additions : List (Environment × A)}
    (smooth : ∀ addition ∈ additions, (addCall addition).Smooth) :
    Calm batchSize batchTime ((additionMachine A).after client additions) ∧
      ((additionMachine A).after client additions).buffer.length ≤
        client.buffer.length + additions.length := by
  induction additions generalizing client with
  | nil => exact ⟨calm, Nat.le_refl _⟩
  | cons addition rest inductionHypothesis =>
      rw [List.forall_mem_cons] at smooth
      have head := calm.next smooth.1
      have tail := inductionHypothesis head.1 smooth.2
      refine ⟨tail.1, ?_⟩
      have lengths := tail.2
      have headLength := head.2
      simp only [Machine.after_cons, List.length_cons]
      omega

/-- Without a trigger every added record stays in the buffer. -/
theorem Calm.length_after_of_no_trigger
    {batchSize batchTime : Int} {client : ObservabilityClient A}
    (calm : Calm batchSize batchTime client)
    {additions : List (Environment × A)}
    (quiet :
      ∀ before addition later,
        additions = before ++ addition :: later →
          ¬ Triggers client before.length addition) :
    ((additionMachine A).after client additions).buffer.length =
      client.buffer.length + additions.length := by
  induction additions generalizing client with
  | nil => rfl
  | cons addition rest inductionHypothesis =>
      have notDue : ¬ Triggers client 0 addition :=
        quiet [] addition rest rfl
      rw [Machine.after_cons, calm.next_of_not_triggers notDue,
        inductionHypothesis (calm.push addition.2)]
      · simp only [push_buffer, List.length_append, List.length_cons,
          List.length_nil]
        omega
      · intro before next later shape triggers
        rw [triggers_push_iff] at triggers
        exact quiet (addition :: before) next later (by rw [shape]; rfl)
          triggers

/-- A trigger empties the buffer at some point up to it, so that afterwards
the buffer is no longer than the additions. -/
theorem Calm.length_after_of_trigger
    {batchSize batchTime : Int} {client : ObservabilityClient A}
    (calm : Calm batchSize batchTime client)
    {additions : List (Environment × A)}
    (smooth : ∀ addition ∈ additions, (addCall addition).Smooth)
    {before later : List (Environment × A)} {addition : Environment × A}
    (shape : additions = before ++ addition :: later)
    (triggers : Triggers client before.length addition) :
    ((additionMachine A).after client additions).buffer.length ≤
      additions.length := by
  induction before generalizing client additions with
  | nil =>
      subst shape
      rw [List.nil_append, List.forall_mem_cons] at smooth
      obtain ⟨nextCalm, emptied⟩ := calm.next_of_triggers smooth.1 triggers
      have tail := (nextCalm.after smooth.2).2
      rw [emptied, List.length_nil] at tail
      simp only [List.nil_append, Machine.after_cons, List.length_cons]
      omega
  | cons first before inductionHypothesis =>
      subst shape
      rw [List.cons_append, List.forall_mem_cons] at smooth
      by_cases due : Triggers client 0 first
      · obtain ⟨nextCalm, emptied⟩ := calm.next_of_triggers smooth.1 due
        have tail := (nextCalm.after smooth.2).2
        rw [emptied, List.length_nil] at tail
        simp only [List.cons_append, Machine.after_cons, List.length_cons]
        omega
      · have tail :=
          inductionHypothesis (calm.push first.2) smooth.2 rfl
            ((triggers_push_iff client first.2 before.length addition).2
              triggers)
        simp only [List.cons_append, Machine.after_cons, List.length_cons,
          calm.next_of_not_triggers due]
        omega

/-- An addition whose record outlives the additions after it triggered
nothing. -/
theorem Calm.not_triggers_of_length_lt
    {batchSize batchTime : Int} {client : ObservabilityClient A}
    (calm : Calm batchSize batchTime client)
    {addition : Environment × A} {later : List (Environment × A)}
    (smooth : ∀ call ∈ addition :: later, (addCall call).Smooth)
    (short :
      later.length <
        ((additionMachine A).after client (addition :: later)).buffer.length) :
    ¬ Triggers client 0 addition := by
  intro due
  rw [List.forall_mem_cons] at smooth
  obtain ⟨nextCalm, emptied⟩ := calm.next_of_triggers smooth.1 due
  have bound := (nextCalm.after smooth.2).2
  rw [emptied, List.length_nil, ← Machine.after_cons] at bound
  omega

/-- At the start of every addition all buffered records are at most
`batchTime` seconds old. -/
def Fresh (batchSize batchTime created : Int)
    (additions : List (Environment × A)) : Prop :=
  ∀ before next later,
    additions = before ++ next :: later →
      ∀ waiting ∈
          bufferedAdditions
            ((additionMachine A).after
              (create batchSize batchTime created) before) before,
        next.1.now ≤ plusSeconds waiting.1.now batchTime

/-- Of the additions that follow one more record in the buffer of the client,
one triggers a flush no later than the deadline. -/
def FlushedBy (client : ObservabilityClient A) (deadline : Int)
    (additions : List (Environment × A)) : Prop :=
  ∃ before next later,
    additions = before ++ next :: later ∧
      next.1.now ≤ deadline ∧ Triggers client (before.length + 1) next

/-- Whenever an addition triggers no flush and somebody calls after its
deadline, a later addition triggers a flush by the deadline. -/
def NeverLeftWaiting (batchSize batchTime created : Int)
    (additions : List (Environment × A)) : Prop :=
  ∀ before addition later,
    additions = before ++ addition :: later →
      ¬ Triggers
          ((additionMachine A).after
            (create batchSize batchTime created) before)
          0 addition →
        (∃ next ∈ later,
            plusSeconds addition.1.now batchTime < next.1.now) →
          FlushedBy
            ((additionMachine A).after
              (create batchSize batchTime created) before)
            (plusSeconds addition.1.now batchTime) later

/-- The client is calm after every initial part of a smooth run. -/
theorem calm_after_initial
    (batchSize batchTime created : Int)
    {initial rest : List (Environment × A)}
    (smooth : ∀ addition ∈ initial ++ rest, (addCall addition).Smooth) :
    Calm batchSize batchTime
      ((additionMachine A).after
        (create batchSize batchTime created) initial) := by
  have initialSmooth :
      ∀ addition ∈ initial, (addCall addition).Smooth := by
    intro addition member
    exact smooth addition (List.mem_append_left _ member)
  exact ((calm_create batchSize batchTime created).after initialSmooth).1

/-- If no record is ever left waiting, every buffered record is fresh. -/
theorem fresh_of_neverLeftWaiting
    {batchSize batchTime created : Int}
    {additions : List (Environment × A)}
    (smooth : ∀ addition ∈ additions, (addCall addition).Smooth)
    (ordered :
      (additions.map fun addition => addition.1.now).Pairwise (· ≤ ·))
    (neverLeft : NeverLeftWaiting batchSize batchTime created additions) :
    Fresh batchSize batchTime created additions := by
  intro before next later shape waiting buffered
  by_contra overdue
  obtain ⟨earlier, between, beforeShape, short⟩ :=
    exists_cut_of_mem_bufferedAdditions buffered
  subst beforeShape
  let client :=
    (additionMachine A).after (create batchSize batchTime created) earlier
  have wholeShape :
      additions = earlier ++ waiting :: (between ++ next :: later) := by
    rw [shape, List.append_assoc, List.cons_append]
  rw [wholeShape] at smooth
  have calm : Calm batchSize batchTime client :=
    calm_after_initial batchSize batchTime created smooth
  have smoothUpToNext :
      ∀ call ∈ waiting :: between, (addCall call).Smooth := by
    intro call member
    apply smooth call
    rw [← List.cons_append]
    exact List.mem_append_right _ (List.mem_append_left _ member)
  rw [Machine.after_append] at short
  -- the record was buffered, so somebody has to flush it by its deadline
  have notDue : ¬ Triggers client 0 waiting :=
    calm.not_triggers_of_length_lt smoothUpToNext short
  obtain ⟨quiet, trigger, rest, cut, inTime, triggers⟩ :=
    neverLeft earlier waiting (between ++ next :: later) wholeShape
      notDue ⟨next, by simp, by omega⟩
  have laterOrdered :
      ((next :: later).map fun addition => addition.1.now).Pairwise
        (· ≤ ·) := by
    rw [shape, List.map_append] at ordered
    exact (List.pairwise_append.1 ordered).2.1
  obtain ⟨suffix, betweenShape⟩ :=
    exists_cut_before_overdue laterOrdered cut inTime (by omega)
  -- and then it is no longer in the buffer
  have bound :=
    (calm.push waiting.2).length_after_of_trigger
      (List.forall_mem_cons.1 smoothUpToNext).2 betweenShape
      ((triggers_push_iff _ _ _ _).2 triggers)
  rw [Machine.after_cons, calm.next_of_not_triggers notDue] at short
  omega

/-- If every buffered record is fresh, no record is ever left waiting. -/
theorem neverLeftWaiting_of_fresh
    {batchSize batchTime created : Int}
    {additions : List (Environment × A)}
    (smooth : ∀ addition ∈ additions, (addCall addition).Smooth)
    (fresh : Fresh batchSize batchTime created additions) :
    NeverLeftWaiting batchSize batchTime created additions := by
  intro before addition later shape notDue somebodyCalls
  rcases somebodyCalls with ⟨late, lateMember, lateOverdue⟩
  by_contra notFlushed
  let deadline := plusSeconds addition.1.now batchTime
  let client :=
    (additionMachine A).after (create batchSize batchTime created) before
  rw [shape] at smooth
  have calm : Calm batchSize batchTime client :=
    calm_after_initial batchSize batchTime created smooth
  -- the first call that comes after the deadline
  have someOverdue :
      (later.find? fun call => decide (deadline < call.1.now)).isSome := by
    rw [List.find?_isSome]
    exact ⟨late, lateMember, decide_eq_true lateOverdue⟩
  obtain ⟨next, found⟩ := Option.isSome_iff_exists.1 someOverdue
  obtain ⟨nextOverdue, between, rest, laterShape, betweenInTime⟩ :=
    List.find?_eq_some_iff_append.1 found
  have untriggered :
      ∀ quiet trigger suffix,
        between = quiet ++ trigger :: suffix →
          ¬ Triggers (client.push addition.2) quiet.length trigger := by
    intro quiet trigger suffix betweenShape triggers
    have inTime := betweenInTime trigger (by rw [betweenShape]; simp)
    apply notFlushed
    rw [triggers_push_iff] at triggers
    refine ⟨quiet, trigger, suffix ++ next :: rest, ?_, ?_, triggers⟩
    · rw [laterShape, betweenShape, List.append_assoc, List.cons_append]
    · simpa using inTime
  have grown :=
    (calm.push addition.2).length_after_of_no_trigger untriggered
  have stillBuffered :
      between.length <
        ((additionMachine A).after (create batchSize batchTime created)
          (before ++ addition :: between)).buffer.length := by
    rw [Machine.after_append, Machine.after_cons,
      calm.next_of_not_triggers notDue, grown, push_buffer,
      List.length_append, List.length_singleton]
    omega
  have wholeShape :
      additions = (before ++ addition :: between) ++ next :: rest := by
    rw [shape, laterShape, List.append_assoc, List.cons_append]
  have inTime :=
    fresh (before ++ addition :: between) next rest wholeShape addition
      (mem_bufferedAdditions_of_length_lt stillBuffered)
  have overdue : deadline < next.1.now := of_decide_eq_true nextOverdue
  omega

/-- The promise of `timeThreshold`: in a smooth run with an ordered clock all
buffered records are fresh at the start of every call exactly when no record
is ever left waiting. -/
theorem buffered_records_fresh_iff
    (batchSize batchTime created : Int)
    (additions : List (Environment × A))
    (smooth : ∀ addition ∈ additions, (addCall addition).Smooth)
    (ordered :
      (additions.map fun addition => addition.1.now).Pairwise (· ≤ ·)) :
    Fresh batchSize batchTime created additions ↔
      NeverLeftWaiting batchSize batchTime created additions :=
  ⟨neverLeftWaiting_of_fresh smooth,
    fresh_of_neverLeftWaiting smooth ordered⟩

end Freshness

/-- A record that is added `seconds` seconds after the epoch and would be
accepted by the service. -/
def acceptedAddition (seconds : Int) : Environment × LogEvent :=
  (.running (seconds * nanosPerSecond) (.response 200 none), ⟨0, []⟩)

theorem acceptedAddition_smooth (seconds : Int) :
    (addCall (acceptedAddition seconds)).Smooth := by
  intro env environment
  cases environment
  exact ⟨Environment.running_contextAvailable _ _, rfl⟩

/-- A record of 11 s is still in the buffer when somebody calls at 1000 s,
although it should have left within 10 s. -/
theorem record_waits_for_next_call :
    letI := plainGson
    let additions := [acceptedAddition 11, acceptedAddition 1000]
    (∀ addition ∈ additions,
        (addCall addition).Smooth ∧ plusSeconds 0 10 ≤ addition.1.now) ∧
      (additions.map fun addition => addition.1.now).Pairwise (· ≤ ·) ∧
      ¬ Fresh 100 10 0 additions := by
  let gson := plainGson
  refine ⟨?_, by decide, ?_⟩
  · intro addition member
    simp only [List.mem_cons, List.not_mem_nil, or_false] at member
    rcases member with rfl | rfl
    · exact ⟨acceptedAddition_smooth 11, by decide⟩
    · exact ⟨acceptedAddition_smooth 1000, by decide⟩
  · intro fresh
    have stillBuffered :
        acceptedAddition 11 ∈
          bufferedAdditions
            ((additionMachine LogEvent).after (create 100 10 0)
              [acceptedAddition 11])
            ([] ++ acceptedAddition 11 :: []) := by
      apply mem_bufferedAdditions_of_length_lt
      decide +kernel
    have inTime :=
      fresh [acceptedAddition 11] (acceptedAddition 1000) [] rfl
        (acceptedAddition 11) stillBuffered
    revert inTime
    decide

/-- The second record flushes the first one in time, before a third one comes
after the deadline of the first. -/
theorem buffered_records_fresh_iff_steady :
    letI := plainGson
    let additions :=
      [acceptedAddition 15, acceptedAddition 21, acceptedAddition 30]
    Fresh 100 10 0 additions ↔ NeverLeftWaiting 100 10 0 additions := by
  let gson := plainGson
  apply buffered_records_fresh_iff 100 10 0
  · intro addition member
    simp only [List.mem_cons, List.not_mem_nil, or_false] at member
    rcases member with rfl | rfl | rfl
    · exact acceptedAddition_smooth 15
    · exact acceptedAddition_smooth 21
    · exact acceptedAddition_smooth 30
  · decide

end SparkObservability
