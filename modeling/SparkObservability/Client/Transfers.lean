import SparkObservability.Client.Delivery
import SparkObservability.Interleaving
import SparkObservability.Retransmission

/-!
# What the pipeline is told

A send that a client takes for failed may have reached the pipeline all the
same, with only the answer lost.  There is a client on the driver and one on
every executor, and their sends reach the pipeline in any order.  Each client
is one end of a link, and what the pipeline gets from it goes on without gaps,
whatever gets lost and whatever the other clients do.
-/

namespace SparkObservability

universe u v

variable {A : Type u}

open ObservabilityClient

/-- A call of a client, and whether a send that fails in it arrives at the
pipeline all the same. -/
structure Transfer (A : Type u) where
  call : ClientCall A
  arrives : Bool

/-- What comes of a call: its answer and the batches that the pipeline
gets. -/
structure Transmission (A : Type u) where
  answer : Answer A
  arrived : List (List A)

def Answer.arrived (arrives : Bool) (answer : Answer A) : List (List A) :=
  (answer.attempts.filter fun attempt =>
    attempt.failure = none || arrives).map SendAttempt.records

/-- A client together with the fate of its sends. -/
def transferMachine (A : Type u) [Gson A] [EventClass A] :
    Machine (ObservabilityClient A) (Transfer A) (Transmission A) where
  step client transfer :=
    let (next, answer) := (clientMachine A).step client transfer.call
    (next, ⟨answer, answer.arrived transfer.arrives⟩)

/-! ## One client -/

/-- The link that a client and the pipeline make up. -/
def linkOf
    (transmissions : List (Transmission A)) (client : ObservabilityClient A) :
    Link A where
  confirmed := deliveredRecords (transmissions.map Transmission.answer)
  waiting := client.buffer
  received := transmissions.flatMap Transmission.arrived

/-- What a call does to the link before it may send. -/
def ClientCall.taking : ClientCall A → List (Link.Operation A)
  | .add _ event => [.post event]
  | .flushEvents _ => []
  | .setLastFlush _ => []

theorem linkOf_entry
    (transmissions : List (Transmission A)) (client : ObservabilityClient A)
    (call : ClientCall A) :
    linkOf transmissions (call.entry client) =
      call.taking.foldl Link.apply (linkOf transmissions client) := by
  cases call <;> rfl

theorem taking_ne_fail (call : ClientCall A) :
    ∀ operation ∈ call.taking, operation ≠ .fail true := by
  cases call <;> simp [ClientCall.taking]

theorem linkOf_concat
    (transmissions : List (Transmission A)) (transmission : Transmission A)
    (client : ObservabilityClient A) :
    linkOf (transmissions ++ [transmission]) client =
      { confirmed :=
          deliveredRecords (transmissions.map Transmission.answer) ++
            transmission.answer.delivered
        waiting := client.buffer
        received :=
          transmissions.flatMap Transmission.arrived ++
            transmission.arrived } := by
  simp [linkOf, deliveredRecords]

section Runs

variable [Gson A] [EventClass A]

/-- One call takes a record at most and transfers everything at most once. -/
theorem transfer_refines_link
    (transmissions : List (Transmission A)) (client : ObservabilityClient A)
    (transfer : Transfer A) :
    ∃ operations : List (Link.Operation A),
      (transfer.arrives = false →
          ∀ operation ∈ operations, operation ≠ .fail true) ∧
        linkOf
            (transmissions ++ [(transferMachine A).output client transfer])
            ((transferMachine A).next client transfer) =
          operations.foldl Link.apply (linkOf transmissions client) := by
  have step := clientStep client transfer.call
  have fromEntry := linkOf_entry transmissions client transfer.call
  have known := taking_ne_fail transfer.call
  have outputShape :
      (transferMachine A).output client transfer =
        ⟨(clientMachine A).output client transfer.call,
          ((clientMachine A).output client transfer.call).arrived
            transfer.arrives⟩ := rfl
  have nextShape :
      (transferMachine A).next client transfer =
        (clientMachine A).next client transfer.call := rfl
  rw [outputShape, nextShape, linkOf_concat]
  generalize (clientMachine A).next client transfer.call = next,
    (clientMachine A).output client transfer.call = answer
    at step ⊢
  cases step with
  | @quiet next _ kept =>
      have sameBuffer : next.buffer = (transfer.call.entry client).buffer := by
        rcases kept with rfl | ⟨env, _, rfl⟩
        · rfl
        · exact prepared_buffer env (transfer.call.entry client)
      refine ⟨transfer.call.taking, fun _ => known, ?_⟩
      rw [← fromEntry]
      simp [linkOf, Answer.delivered, Answer.arrived, sameBuffer]
  | acknowledged _ readyShape =>
      refine ⟨transfer.call.taking ++ [.confirm], fun _ => ?_, ?_⟩
      · rw [List.forall_mem_append]
        exact ⟨known, by simp⟩
      · rw [List.foldl_append, ← fromEntry]
        simp [linkOf, Link.apply, Answer.delivered, Answer.arrived,
          readyShape]
  | absorbed _ readyShape =>
      refine
        ⟨transfer.call.taking ++ [.fail transfer.arrives], fun lost => ?_, ?_⟩
      · rw [List.forall_mem_append]
        exact ⟨known, by simp [lost]⟩
      · rw [List.foldl_append, ← fromEntry]
        cases transfer.arrives <;>
          simp [linkOf, Link.apply, Answer.delivered, Answer.arrived,
            readyShape]
  | raised _ readyShape =>
      refine
        ⟨transfer.call.taking ++ [.fail transfer.arrives], fun lost => ?_, ?_⟩
      · rw [List.forall_mem_append]
        exact ⟨known, by simp [lost]⟩
      · rw [List.foldl_append, ← fromEntry]
        cases transfer.arrives <;>
          simp [linkOf, Link.apply, Answer.delivered, Answer.arrived,
            readyShape]

/-- The pipeline is told at every point of a run, and told exactly as long as
no failed send has arrived. -/
theorem told_after
    (batchSize batchTime created : Int) (transfers : List (Transfer A)) :
    let link :=
      linkOf
        ((transferMachine A).outputs
          (create batchSize batchTime created) transfers)
        ((transferMachine A).after
          (create batchSize batchTime created) transfers)
    link.Told ∧
      ((∀ transfer ∈ transfers, transfer.arrives = false) → link.Exact) := by
  refine (transferMachine A).run_induction
    (motive := fun transfers transmissions client =>
      (linkOf transmissions client).Told ∧
        ((∀ transfer ∈ transfers, transfer.arrives = false) →
          (linkOf transmissions client).Exact))
    ?_ ?_ transfers
  · exact ⟨Link.told_empty, fun _ => rfl⟩
  intro transfers transfer earlier
  obtain ⟨told, exactly⟩ := earlier
  obtain ⟨operations, known, refined⟩ :=
    transfer_refines_link
      ((transferMachine A).outputs
        (create batchSize batchTime created) transfers)
      ((transferMachine A).after
        (create batchSize batchTime created) transfers)
      transfer
  rw [refined, List.forall_mem_append, List.forall_mem_singleton]
  constructor
  · exact told.applyAll operations
  · rintro ⟨lostBefore, lost⟩
    exact (exactly lostBefore).applyAll (known lost)

/-- Apart from the fate of the sends, the machine is that of the client. -/
theorem isPart_clientMachine :
    Machine.IsPart (transferMachine A) (clientMachine A)
      (fun transfer => some transfer.call)
      (fun transmission => some transmission.answer) Eq where
  seen client client' transfer call sameClient visible := by
    cases visible
    subst sameClient
    exact ⟨rfl, rfl⟩
  unseen _ _ _ _ hidden := by cases hidden

theorem delivered_append_buffer_of_transfers
    (batchSize batchTime created : Int) (transfers : List (Transfer A)) :
    deliveredRecords
          (((transferMachine A).outputs
            (create batchSize batchTime created) transfers).map
            Transmission.answer) ++
        ((transferMachine A).after
          (create batchSize batchTime created) transfers).buffer =
      addedRecords (transfers.map Transfer.call) := by
  have start :
      (create batchSize batchTime created : ObservabilityClient A) =
        create batchSize batchTime created := rfl
  obtain ⟨sameClient, sameAnswers⟩ := isPart_clientMachine.run start transfers
  rw [List.filterMap_eq_map', List.filterMap_eq_map'] at sameAnswers
  rw [List.filterMap_eq_map'] at sameClient
  rw [sameClient, sameAnswers]
  exact delivered_append_buffer batchSize batchTime created _

/-! ## All the clients -/

section Sites

variable {Site : Type v} [DecidableEq Site]

/-- What the pipeline gets, in the order in which it arrives, with the client
that it comes from. -/
def pipelineLog (transmissions : List (Site × Transmission A)) :
    List (Site × List A) :=
  transmissions.flatMap fun transmission =>
    transmission.2.arrived.map fun batch => (transmission.1, batch)

def batchesFrom (site : Site) (log : List (Site × List A)) : List (List A) :=
  log.filterMap (Machine.ofMember site)

omit [Gson A] [EventClass A] in
theorem batchesFrom_pipelineLog
    (site : Site) (transmissions : List (Site × Transmission A)) :
    batchesFrom site (pipelineLog transmissions) =
      (transmissions.filterMap (Machine.ofMember site)).flatMap
        Transmission.arrived := by
  induction transmissions with
  | nil => rfl
  | cons transmission rest inductionHypothesis =>
      rcases transmission with ⟨sender, transmission⟩
      rw [batchesFrom, pipelineLog] at inductionHypothesis
      rw [batchesFrom, pipelineLog, List.flatMap_cons,
        List.filterMap_append, inductionHypothesis, List.filterMap_map]
      by_cases same : sender = site
      · simp [Machine.ofMember, same]
      · simp [Machine.ofMember, same, Function.comp_def]

/-- Whatever order the clients take turns in, and whichever of their failed
sends arrive: what the pipeline gets from a client goes on without gaps, it
contains all that the client got acknowledged and nothing but what was added
to it, and nothing arrives twice unless a failed send arrived. -/
theorem pipeline_told_by_every_client
    (batchSize batchTime created : Site → Int)
    (inputs : List (Site × Transfer A)) (site : Site) :
    let system := (transferMachine A).family Site
    let start (site : Site) : ObservabilityClient A :=
      create (batchSize site) (batchTime site) (created site)
    let transfers := inputs.filterMap (Machine.ofMember site)
    let arrivals := batchesFrom site (pipelineLog (system.outputs start inputs))
    let answers :=
      ((system.outputs start inputs).filterMap (Machine.ofMember site)).map
        Transmission.answer
    let added := addedRecords (transfers.map Transfer.call)
    deliveredRecords answers ++ (system.after start inputs site).buffer =
        added ∧
      ∃ known,
        Continues [] arrivals known ∧
          deliveredRecords answers <+: known ∧ known <+: added ∧
          ((∀ transfer ∈ transfers, transfer.arrives = false) →
            arrivals.flatten = deliveredRecords answers) := by
  intro system start transfers arrivals answers added
  obtain ⟨sameClient, sameOutputs⟩ :=
    ((transferMachine A).isPart_family site).run
      (show start site = start site from rfl) inputs
  have ledger :=
    delivered_append_buffer_of_transfers (batchSize site) (batchTime site)
      (created site) transfers
  obtain ⟨⟨early, held, continued⟩, exactly⟩ :=
    told_after (batchSize site) (batchTime site) (created site) transfers
  have arrivalsShape :
      arrivals =
        ((transferMachine A).outputs (start site) transfers).flatMap
          Transmission.arrived := by
    rw [← sameOutputs]
    exact batchesFrom_pipelineLog site _
  have answersShape :
      answers =
        ((transferMachine A).outputs (start site) transfers).map
          Transmission.answer := by
    rw [← sameOutputs]
  rw [sameClient, answersShape, arrivalsShape]
  refine ⟨ledger, _, continued, List.prefix_append _ _, ?_, exactly⟩
  obtain ⟨fresh, split⟩ := held
  refine ⟨fresh, ?_⟩
  rw [List.append_assoc, split]
  exact ledger

end Sites

end Runs

end SparkObservability
