import Mathlib.Data.List.Zip
import SparkObservability.Batcher

/-!
# A batcher whose hand-overs may fail

A retrying batcher keeps the records of its open batch until a receiver takes
them all.  It hands the whole batch over when a policy says so, behind a gate
that stays open once it was found open.  A refusal is absorbed as long as a
budget allows it, and the number of refusals absorbed since the last
acceptance is all that the batcher remembers of them.
-/

namespace SparkObservability

universe u

/-- How the receiver answers a batch. -/
inductive HandOver where
  | accepted (closedAt : Int)
  | refused
  | denied
  deriving DecidableEq, Repr

/-- When a batch is handed over, and how many refusals in a row are absorbed.
`late failures since now` says whether the batch has waited long enough. -/
structure RetryPolicy where
  batchSize : Int
  budget : Nat
  late : Nat → Int → Int → Bool

structure RetryingBatcher (Record : Type u) where
  waiting : List Record
  since : Int
  failures : Nat
  isOpen : Bool

/-- What a retrying batcher is told, with what it would find at the gate and
at the receiver. -/
inductive RetryingInput (Record : Type u) where
  | append (record : Record) (now : Int) (gate : Bool) (handOver : HandOver)
  | close (gate : Bool) (handOver : HandOver)
  | restart (time : Int)

/-- The batches that are handed over, and whether the batcher gives up. -/
structure RetryingOutput (Record : Type u) where
  sent : List (List Record)
  givesUp : Bool

namespace RetryingBatcher

variable {Record : Type u}

def append (batcher : RetryingBatcher Record) (record : Record) :
    RetryingBatcher Record :=
  { batcher with waiting := batcher.waiting ++ [record] }

def unlock (batcher : RetryingBatcher Record) (gate : Bool) :
    RetryingBatcher Record :=
  { batcher with isOpen := batcher.isOpen || gate }

def restart (batcher : RetryingBatcher Record) (time : Int) :
    RetryingBatcher Record :=
  { batcher with since := time }

variable (policy : RetryPolicy)

/-- The condition under which an append hands the batch over. -/
def Due (batcher : RetryingBatcher Record) (now : Int) : Prop :=
  (batcher.failures = 0 ∧ batcher.waiting.length ≥ policy.batchSize) ∨
    policy.late batcher.failures batcher.since now = true

instance (batcher : RetryingBatcher Record) (now : Int) :
    Decidable (batcher.Due policy now) :=
  inferInstanceAs (Decidable (_ ∨ _))

/-- Hand the batch over and settle the answer. -/
def settle (batcher : RetryingBatcher Record) :
    HandOver → RetryingBatcher Record × RetryingOutput Record
  | .accepted closedAt =>
      (⟨[], closedAt, 0, batcher.isOpen⟩, ⟨[batcher.waiting], false⟩)
  | .refused =>
      if batcher.failures < policy.budget then
        ({ batcher with failures := batcher.failures + 1 },
          ⟨[batcher.waiting], false⟩)
      else
        (batcher, ⟨[batcher.waiting], true⟩)
  | .denied => (batcher, ⟨[batcher.waiting], true⟩)

/-- Hand the batch over, unless it is empty or the gate is closed. -/
def attempt (batcher : RetryingBatcher Record) (gate : Bool)
    (handOver : HandOver) :
    RetryingBatcher Record × RetryingOutput Record :=
  if batcher.waiting = [] then
    (batcher, ⟨[], false⟩)
  else if (batcher.unlock gate).isOpen then
    (batcher.unlock gate).settle policy handOver
  else
    (batcher.unlock gate, ⟨[], false⟩)

def machine (Record : Type u) (policy : RetryPolicy) :
    Machine (RetryingBatcher Record) (RetryingInput Record)
      (RetryingOutput Record) where
  step batcher
    | .append record now gate handOver =>
        if (batcher.append record).Due policy now then
          (batcher.append record).attempt policy gate handOver
        else
          (batcher.append record, ⟨[], false⟩)
    | .close gate handOver => batcher.attempt policy gate handOver
    | .restart time => (batcher.restart time, ⟨[], false⟩)

section Settling

variable {policy}

theorem settle_refused_of_lt (batcher : RetryingBatcher Record)
    (below : batcher.failures < policy.budget) :
    batcher.settle policy .refused =
      ({ batcher with failures := batcher.failures + 1 },
        ⟨[batcher.waiting], false⟩) :=
  if_pos below

theorem settle_refused_of_le (batcher : RetryingBatcher Record)
    (spent : policy.budget ≤ batcher.failures) :
    batcher.settle policy .refused = (batcher, ⟨[batcher.waiting], true⟩) :=
  if_neg (Nat.not_lt_of_le spent)

/-- A refusal needs an open gate. -/
def OpenIfFailing (batcher : RetryingBatcher Record) : Prop :=
  0 < batcher.failures → batcher.isOpen = true

theorem openIfFailing_attempt {batcher : RetryingBatcher Record}
    (opened : batcher.OpenIfFailing) (gate : Bool) (handOver : HandOver) :
    (batcher.attempt policy gate handOver).1.OpenIfFailing := by
  have unlocked : (batcher.unlock gate).OpenIfFailing := by
    intro failing
    rw [unlock, opened failing, Bool.true_or]
  rw [attempt]
  split
  · exact opened
  split
  next isOpen =>
    cases handOver with
    | accepted closedAt =>
        exact fun failing => absurd failing (by simp [settle])
    | refused =>
        simp only [settle]
        split
        · exact fun _ => isOpen
        · exact unlocked
    | denied => exact unlocked
  next => exact unlocked

theorem openIfFailing_after {batcher : RetryingBatcher Record}
    (opened : batcher.OpenIfFailing) (inputs : List (RetryingInput Record)) :
    ((machine Record policy).after batcher inputs).OpenIfFailing := by
  apply (machine Record policy).after_invariant _ opened
  intro reached input stillOpened
  cases input with
  | append record now gate handOver =>
      have appended : (reached.append record).OpenIfFailing := stillOpened
      simp only [Machine.next, machine]
      split
      · exact openIfFailing_attempt appended gate handOver
      · exact appended
  | close gate handOver =>
      exact openIfFailing_attempt stillOpened gate handOver
  | restart time => exact stillOpened

end Settling

/-! ## Blockades

During a blockade records come in and every hand-over is refused. -/

/-- A record that comes in during a blockade. -/
structure Blocked (Record : Type u) where
  record : Record
  now : Int
  gate : Bool

def Blocked.input (blocked : Blocked Record) : RetryingInput Record :=
  .append blocked.record blocked.now blocked.gate .refused

/-- The batcher during a blockade. -/
def blockade (Record : Type u) (policy : RetryPolicy) :
    Machine (RetryingBatcher Record) (Blocked Record)
      (RetryingOutput Record) :=
  (machine Record policy).comap Blocked.input

/-- The batcher once a blocked record came in and the gate was tried. -/
def joined (batcher : RetryingBatcher Record) (blocked : Blocked Record) :
    RetryingBatcher Record :=
  (batcher.append blocked.record).unlock blocked.gate

variable {policy} {batcher : RetryingBatcher Record}

/-- What one record does during a blockade. -/
inductive BlockadeStep (policy : RetryPolicy)
    (batcher : RetryingBatcher Record) (blocked : Blocked Record) :
    RetryingBatcher Record × RetryingOutput Record → Prop
  | notDue (notDue : ¬ (batcher.append blocked.record).Due policy blocked.now) :
      BlockadeStep policy batcher blocked
        (batcher.append blocked.record, ⟨[], false⟩)
  | shut (shut : (batcher.joined blocked).isOpen = false) :
      BlockadeStep policy batcher blocked
        (batcher.joined blocked, ⟨[], false⟩)
  | absorbed
      (due : (batcher.append blocked.record).Due policy blocked.now)
      (below : batcher.failures < policy.budget) :
      BlockadeStep policy batcher blocked
        ({ batcher.joined blocked with failures := batcher.failures + 1 },
          ⟨[batcher.waiting ++ [blocked.record]], false⟩)
  | exhausted
      (due : (batcher.append blocked.record).Due policy blocked.now)
      (spent : policy.budget ≤ batcher.failures) :
      BlockadeStep policy batcher blocked
        (batcher.joined blocked,
          ⟨[batcher.waiting ++ [blocked.record]], true⟩)

theorem blockadeStep (policy : RetryPolicy)
    (batcher : RetryingBatcher Record) (blocked : Blocked Record) :
    BlockadeStep policy batcher blocked
      ((blockade Record policy).next batcher blocked,
        (blockade Record policy).output batcher blocked) := by
  change BlockadeStep policy batcher blocked
    ((blockade Record policy).step batcher blocked)
  have nonempty : (batcher.append blocked.record).waiting ≠ [] := by
    simp [append]
  simp only [blockade, Machine.comap, Blocked.input, machine]
  by_cases due : (batcher.append blocked.record).Due policy blocked.now
  · rw [if_pos due, attempt, if_neg nonempty]
    cases isOpen : (batcher.joined blocked).isOpen with
    | false =>
        rw [← joined, isOpen]
        exact .shut isOpen
    | true =>
        rw [← joined, isOpen, if_pos rfl]
        rcases Nat.lt_or_ge batcher.failures policy.budget with below | spent
        · rw [settle_refused_of_lt (batcher.joined blocked) below]
          exact .absorbed due below
        · rw [settle_refused_of_le (batcher.joined blocked) spent]
          exact .exhausted due spent
  · rw [if_neg due]
    exact .notDue due

/-- The waits of a policy, for the instants of a blockade: before the
deadline a batch refused `limit` times or more is never late, and from the
deadline on every batch is. -/
structure Patience (policy : RetryPolicy) (since deadline : Int)
    (limit : Nat) (instants : List Int) : Prop where
  positive : 0 < limit
  within : limit ≤ policy.budget
  waits :
    ∀ failures now, limit ≤ failures → failures ≤ policy.budget →
      now ∈ instants → now < deadline →
        policy.late failures since now = false
  ends :
    ∀ failures now, failures ≤ policy.budget →
      now ∈ instants → deadline ≤ now →
        policy.late failures since now = true

/-- A hand-over before the deadline. -/
def early (deadline : Int) (blocked : Blocked Record)
    (answer : RetryingOutput Record) : Bool :=
  decide (blocked.now < deadline) && !answer.sent.isEmpty

theorem due_of_sent {blocked : Blocked Record}
    {next : RetryingBatcher Record} {answer : RetryingOutput Record}
    (step : BlockadeStep policy batcher blocked (next, answer))
    (handed : answer.sent ≠ []) :
    (batcher.append blocked.record).Due policy blocked.now := by
  cases step with
  | notDue => exact absurd rfl handed
  | shut => exact absurd rfl handed
  | absorbed due => exact due
  | exhausted due => exact due

theorem blockadeStep_keeps {blocked : Blocked Record}
    {next : RetryingBatcher Record} {answer : RetryingOutput Record}
    (step : BlockadeStep policy batcher blocked (next, answer)) :
    next.waiting = batcher.waiting ++ [blocked.record] ∧
      next.since = batcher.since ∧
      (batcher.failures ≤ policy.budget → next.failures ≤ policy.budget) ∧
      (batcher.isOpen = true → next.isOpen = true) := by
  have staysOpen (isOpen : batcher.isOpen = true) :
      (batcher.isOpen || blocked.gate) = true := by
    rw [isOpen, Bool.true_or]
  cases step with
  | notDue => exact ⟨rfl, rfl, id, id⟩
  | shut => exact ⟨rfl, rfl, id, staysOpen⟩
  | absorbed _ below => exact ⟨rfl, rfl, fun _ => below, staysOpen⟩
  | exhausted => exact ⟨rfl, rfl, id, staysOpen⟩

/-- What a blockade makes of the batcher. -/
theorem after_blockade (policy : RetryPolicy)
    (batcher : RetryingBatcher Record) (arrivals : List (Blocked Record)) :
    let reached := (blockade Record policy).after batcher arrivals
    reached.waiting = batcher.waiting ++ arrivals.map Blocked.record ∧
      reached.since = batcher.since ∧
      (batcher.failures ≤ policy.budget →
        reached.failures ≤ policy.budget) ∧
      (batcher.isOpen = true → reached.isOpen = true) := by
  induction arrivals generalizing batcher with
  | nil => simp
  | cons blocked rest inductionHypothesis =>
      have head :=
        blockadeStep_keeps (blockadeStep policy batcher blocked)
      have tail :=
        inductionHypothesis ((blockade Record policy).next batcher blocked)
      refine ⟨?_, tail.2.1.trans head.2.1, ?_, ?_⟩
      · rw [Machine.after_cons, tail.1, head.1]
        simp
      · intro bounded
        exact tail.2.2.1 (head.2.2.1 bounded)
      · intro isOpen
        exact tail.2.2.2 (head.2.2.2 isOpen)

section Patience

variable {since deadline : Int} {limit : Nat} {instants : List Int}
  (patience : Patience policy since deadline limit instants)
  (sameSince : batcher.since = since)
  (bounded : batcher.failures ≤ policy.budget)

include patience sameSince bounded

/-- A hand-over before the deadline needs less than `limit` refusals. -/
theorem lt_limit_of_early
    {blocked : Blocked Record} (known : blocked.now ∈ instants)
    {next : RetryingBatcher Record} {answer : RetryingOutput Record}
    (step : BlockadeStep policy batcher blocked (next, answer))
    (handed : early deadline blocked answer = true) :
    batcher.failures < limit := by
  simp only [early, Bool.and_eq_true, decide_eq_true_eq, Bool.not_eq_true',
    List.isEmpty_eq_false_iff] at handed
  by_contra atLimit
  have late :=
    patience.waits batcher.failures blocked.now (by omega) bounded known
      handed.1
  have positive := patience.positive
  rcases due_of_sent step handed.2 with ⟨none, _⟩ | isLate
  · simp only [append] at none
    omega
  · simp only [append, sameSince, late] at isLate
    cases isLate

/-- One record of a blockade: an early hand-over uses up one of the `limit`
refusals. -/
theorem early_step_le
    {blocked : Blocked Record} (known : blocked.now ∈ instants)
    {next : RetryingBatcher Record} {answer : RetryingOutput Record}
    (step : BlockadeStep policy batcher blocked (next, answer)) :
    (early deadline blocked answer).toNat + (limit - next.failures) ≤
      limit - batcher.failures := by
  have fewer :=
    lt_limit_of_early patience sameSince bounded known step
  cases step with
  | notDue => simp [early, append]
  | shut => simp [early, joined, append, unlock]
  | absorbed =>
      cases handed :
          early deadline blocked
            (⟨[batcher.waiting ++ [blocked.record]], false⟩) with
      | false =>
          simp only [Bool.toNat_false]
          omega
      | true =>
          have below := fewer handed
          simp only [Bool.toNat_true]
          omega
  | exhausted _ spent =>
      cases handed :
          early deadline blocked
            (⟨[batcher.waiting ++ [blocked.record]], true⟩) with
      | false => simp [joined, append, unlock]
      | true =>
          -- the budget covers `limit` refusals, so nothing early is left
          have below := fewer handed
          have within := patience.within
          omega

/-- During a blockade at most `limit` hand-overs are made before the
deadline, the refusals before the blockade counted among them. -/
theorem early_handOvers_le
    (arrivals : List (Blocked Record))
    (known : ∀ blocked ∈ arrivals, blocked.now ∈ instants) :
    (arrivals.zip ((blockade Record policy).outputs batcher arrivals)).countP
        (fun step => early deadline step.1 step.2) ≤
      limit - batcher.failures := by
  induction arrivals generalizing batcher with
  | nil => simp
  | cons blocked rest inductionHypothesis =>
      have step := blockadeStep policy batcher blocked
      obtain ⟨_, since', bounded', _⟩ := blockadeStep_keeps step
      have head :=
        early_step_le patience sameSince bounded
          (known blocked (List.Mem.head _)) step
      have tail :=
        inductionHypothesis (since'.trans sameSince) (bounded' bounded)
          fun later member => known later (List.Mem.tail _ member)
      simp only [Machine.outputs_cons, List.zip_cons_cons, List.countP_cons]
      cases isEarly :
          early deadline blocked
            ((blockade Record policy).output batcher blocked) <;>
        simp [isEarly] at head ⊢ <;> omega

/-- From the deadline on every record of a blockade makes a hand-over of
everything that waits, if the gate is open. -/
theorem sent_after_deadline
    {blocked : Blocked Record} (known : blocked.now ∈ instants)
    (passed : deadline ≤ blocked.now)
    (isOpen : (batcher.isOpen || blocked.gate) = true) :
    ((blockade Record policy).output batcher blocked).sent =
      [batcher.waiting ++ [blocked.record]] := by
  have late := patience.ends batcher.failures blocked.now bounded known passed
  have due : (batcher.append blocked.record).Due policy blocked.now :=
    Or.inr (by simpa only [append, sameSince] using late)
  have step := blockadeStep policy batcher blocked
  generalize (blockade Record policy).next batcher blocked = next,
    (blockade Record policy).output batcher blocked = answer at step ⊢
  cases step with
  | notDue notDue => exact absurd due notDue
  | shut shut => exact absurd (isOpen.symm.trans shut) Bool.noConfusion
  | absorbed => rfl
  | exhausted => rfl

end Patience

/-! ## Reopenings

After a blockade every hand-over is accepted. -/

/-- A record that comes in after a blockade. -/
structure Welcome (Record : Type u) where
  record : Record
  now : Int
  gate : Bool
  closedAt : Int

def Welcome.input (welcome : Welcome Record) : RetryingInput Record :=
  .append welcome.record welcome.now welcome.gate (.accepted welcome.closedAt)

/-- What a greedy batcher is told of such a record. -/
def Welcome.batcherInput (welcome : Welcome Record) : BatcherInput Record :=
  .append welcome.record welcome.now welcome.closedAt

/-- The batcher after a blockade. -/
def reopening (Record : Type u) (policy : RetryPolicy) :
    Machine (RetryingBatcher Record) (Welcome Record)
      (RetryingOutput Record) :=
  (machine Record policy).comap Welcome.input

theorem reopening_step_of_due (welcome : Welcome Record)
    (isOpen : batcher.isOpen = true)
    (due : (batcher.append welcome.record).Due policy welcome.now) :
    (reopening Record policy).step batcher welcome =
      (⟨[], welcome.closedAt, 0, true⟩,
        ⟨[batcher.waiting ++ [welcome.record]], false⟩) := by
  have nonempty : (batcher.append welcome.record).waiting ≠ [] := by
    simp [append]
  have stillOpen :
      ((batcher.append welcome.record).unlock welcome.gate).isOpen = true := by
    simp [unlock, append, isOpen]
  simp only [reopening, Machine.comap, Welcome.input, machine]
  rw [if_pos due, attempt, if_neg nonempty, if_pos stillOpen, settle,
    stillOpen]
  rfl

theorem reopening_step_of_not_due (welcome : Welcome Record)
    (notDue : ¬ (batcher.append welcome.record).Due policy welcome.now) :
    (reopening Record policy).step batcher welcome =
      (batcher.append welcome.record, ⟨[], false⟩) :=
  if_neg notDue

/-- Until the wait of the last refusal is over nothing is handed over. -/
theorem reopening_waits
    {arrivals : List (Welcome Record)} (failing : 0 < batcher.failures)
    (waits :
      ∀ welcome ∈ arrivals,
        policy.late batcher.failures batcher.since welcome.now = false) :
    (reopening Record policy).after batcher arrivals =
        { batcher with
          waiting := batcher.waiting ++ arrivals.map Welcome.record } ∧
      (reopening Record policy).outputs batcher arrivals =
        arrivals.map fun _ => ⟨[], false⟩ := by
  induction arrivals generalizing batcher with
  | nil => simp
  | cons welcome rest inductionHypothesis =>
      rw [List.forall_mem_cons] at waits
      have notDue :
          ¬ (batcher.append welcome.record).Due policy welcome.now := by
        rintro (⟨noFailure, _⟩ | late)
        · exact Nat.ne_of_gt failing noFailure
        · exact Bool.false_ne_true (waits.1.symm.trans late)
      have step := reopening_step_of_not_due welcome notDue
      have next :
          (reopening Record policy).next batcher welcome =
            batcher.append welcome.record :=
        congrArg Prod.fst step
      have output :
          (reopening Record policy).output batcher welcome = ⟨[], false⟩ :=
        congrArg Prod.snd step
      have stillFailing : 0 < (batcher.append welcome.record).failures :=
        failing
      obtain ⟨reached, silent⟩ := inductionHypothesis stillFailing waits.2
      rw [Machine.after_cons, Machine.outputs_cons, next, output, reached,
        silent]
      exact ⟨by simp [append], rfl⟩

/-- Without a refusal the policy is that of a greedy batcher, for the given
instants. -/
def Prompt (policy : RetryPolicy) (batchTime : Int) (instants : List Int) :
    Prop :=
  ∀ since ∈ instants, ∀ now ∈ instants,
    policy.late 0 since now = true ↔ secondsBetween since now ≥ batchTime

/-- Once the gate is open and nothing has been refused since, the batcher is
the greedy one. -/
theorem reopening_batches
    {batchTime : Int} {instants : List Int}
    (prompt : Prompt policy batchTime instants)
    {arrivals : List (Welcome Record)} {waiting : List Record} {since : Int}
    (knownSince : since ∈ instants)
    (known :
      ∀ welcome ∈ arrivals,
        welcome.now ∈ instants ∧ welcome.closedAt ∈ instants) :
    ((reopening Record policy).outputs ⟨waiting, since, 0, true⟩
        arrivals).map RetryingOutput.sent =
      (Batcher.machine Record policy.batchSize batchTime).outputs
        ⟨waiting, since⟩ (arrivals.map Welcome.batcherInput) := by
  induction arrivals generalizing waiting since with
  | nil => rfl
  | cons welcome rest inductionHypothesis =>
      rw [List.forall_mem_cons] at known
      have dueIff :
          ((⟨waiting, since, 0, true⟩ : RetryingBatcher Record).append
              welcome.record).Due policy welcome.now ↔
            Batcher.Due policy.batchSize batchTime ⟨waiting, since⟩
              welcome.record welcome.now := by
        simp [Due, Batcher.Due, append,
          prompt since knownSince welcome.now known.1.1]
      rw [Machine.outputs_cons, List.map_cons, List.map_cons,
        Machine.outputs_cons]
      by_cases due :
          Batcher.Due policy.batchSize batchTime ⟨waiting, since⟩
            welcome.record welcome.now
      · have step := reopening_step_of_due welcome rfl (dueIff.2 due)
        have abstractStep :=
          Batcher.step_append_of_due batchTime due welcome.closedAt
        rw [Machine.output, Machine.next, Machine.output, Machine.next, step,
          Welcome.batcherInput, abstractStep,
          inductionHypothesis known.1.2 known.2]
      · have step := reopening_step_of_not_due welcome (mt dueIff.1 due)
        have abstractStep :=
          Batcher.step_append_of_not_due batchTime due welcome.closedAt
        rw [Machine.output, Machine.next, Machine.output, Machine.next, step,
          Welcome.batcherInput, abstractStep, append,
          inductionHypothesis knownSince known.2]

end RetryingBatcher

end SparkObservability
