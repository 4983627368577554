import SparkObservability.Overwriting
import SparkObservability.Python

/-!
# The lookup of the reverse proxy's address

`lambda_handler` of the function behind the custom resource.  It goes through
the instances with the tag and keeps the address of the last one; an instance
without an address makes it forget all of them.
-/

namespace SparkObservability

/-- An instance has a public address only while it runs. -/
structure Instance where
  publicIpAddress : Option String
  notEmpty : publicIpAddress ≠ some ""

structure Reservation where
  instances : List Instance

structure InstanceFilter where
  name : String
  values : List String

/-- The client of EC2, as far as it describes instances. -/
structure Ec2Client where
  describeInstances :
    List InstanceFilter → Except PyException (List Reservation)

namespace ReverseProxy

/-- `i['PublicIpAddress']` -/
def publicIpAddress (described : Instance) : Except PyException String :=
  match described.publicIpAddress with
  | some address => .ok address
  | none => .error (.keyError "PublicIpAddress")

/-- The loops of the handler over reservations and instances. -/
def lastAddress (reservations : List Reservation) :
    Except PyException String :=
  reservations.foldlM
    (fun address reservation =>
      reservation.instances.foldlM
        (fun _ described => publicIpAddress described) address)
    ""

def tagFilters : List InstanceFilter :=
  [⟨"tag:SparkObservability", ["true"]⟩]

/-- The part of the handler inside `try`, for the event's `RequestType`. -/
def findAddress (client : Ec2Client) :
    Option String → Except PyException (List (String × String))
  | none => .error (.keyError "RequestType")
  | some requestType =>
      if requestType = "Create" ∨ requestType = "Update" then do
        let reservations ← client.describeInstances tagFilters
        let address ← lastAddress reservations
        return [("PublicIpAddress", address)]
      else
        return []

/-- `Data` of the handler's answer. -/
def lambdaHandler (client : Ec2Client) (requestType : Option String) :
    List (String × String) :=
  match findAddress client requestType with
  | .ok responseData => responseData
  | .error _ => [("Failure", "Check Logs.")]

/-! ## What the lookup finds -/

def allInstances (reservations : List Reservation) : List Instance :=
  reservations.flatMap Reservation.instances

def Addressed (found : Instance) : Prop :=
  found.publicIpAddress ≠ none

theorem addressed_iff (found : Instance) :
    Addressed found ↔ ∃ address, publicIpAddress found = .ok address := by
  rw [Addressed, publicIpAddress]
  cases found.publicIpAddress <;> simp

theorem publicIpAddress_eq_ok
    {found : Instance} {address : String}
    (reads : publicIpAddress found = .ok address) :
    found.publicIpAddress = some address := by
  rw [publicIpAddress] at reads
  split at reads
  · next known =>
      cases reads
      exact known
  · cases reads

theorem lastAddress_eq (reservations : List Reservation) :
    lastAddress reservations =
      Overwriting.overwrite publicIpAddress "" (allInstances reservations) :=
  Overwriting.foldlM_flatMap _ _ _ _

/-- The data has a public address of one of the instances, and nothing
else. -/
def FindsAddress
    (reservations : List Reservation) (data : List (String × String)) : Prop :=
  ∃ found ∈ allInstances reservations,
    ∃ address,
      found.publicIpAddress = some address ∧ address ≠ "" ∧
        data = [("PublicIpAddress", address)]

section Handler

variable {client : Ec2Client} {requestType : String}
  {reservations : List Reservation}
  (asked : requestType = "Create" ∨ requestType = "Update")
  (answered : client.describeInstances tagFilters = .ok reservations)

include asked answered in
theorem findAddress_eq :
    findAddress client (some requestType) =
      (lastAddress reservations).map fun address =>
        [("PublicIpAddress", address)] := by
  rw [findAddress, if_pos asked, answered]
  change (lastAddress reservations).bind _ = _
  cases lastAddress reservations <;> rfl

include asked answered in
theorem lambdaHandler_of_lastAddress
    {address : String} (last : lastAddress reservations = .ok address) :
    lambdaHandler client (some requestType) =
      [("PublicIpAddress", address)] := by
  rw [lambdaHandler, findAddress_eq asked answered, last]
  rfl

include asked answered in
theorem lambdaHandler_of_error
    {error : PyException} (raised : lastAddress reservations = .error error) :
    lambdaHandler client (some requestType) =
      [("Failure", "Check Logs.")] := by
  rw [lambdaHandler, findAddress_eq asked answered, raised]
  rfl

include asked answered in
/-- One instance without an address is enough to find none. -/
theorem lambdaHandler_finds_iff
    (someAddress : ∃ found ∈ allInstances reservations, Addressed found) :
    FindsAddress reservations (lambdaHandler client (some requestType)) ↔
      ∀ found ∈ allInstances reservations, Addressed found := by
  simp only [addressed_iff] at someAddress ⊢
  constructor
  · rintro ⟨found, _, address, _, _, sameData⟩
    cases last : lastAddress reservations with
    | ok lastFound =>
        rw [lastAddress_eq] at last
        exact Overwriting.reads_of_overwrite last
    | error error =>
        rw [lambdaHandler_of_error asked answered last] at sameData
        simp at sameData
  · intro reads
    obtain ⟨address, last⟩ := Overwriting.overwrite_of_reads reads ""
    obtain ⟨one, member, _⟩ := someAddress
    obtain ⟨found, inAnswer, read⟩ :=
      Overwriting.exists_read_of_overwrite (List.ne_nil_of_mem member) last
    rw [← lastAddress_eq] at last
    have known := publicIpAddress_eq_ok read
    refine
      ⟨found, inAnswer, address, known, ?_,
        lambdaHandler_of_lastAddress asked answered last⟩
    rintro rfl
    exact found.notEmpty known

end Handler

/-! ## An answer -/

def running : Instance := ⟨some "203.0.113.7", by decide⟩

def restarted : Instance := ⟨some "203.0.113.8", by decide⟩

/-- It still has the tag. -/
def terminated : Instance := ⟨none, by decide⟩

def answering (reservations : List Reservation) : Ec2Client where
  describeInstances _ := .ok reservations

theorem lambdaHandler_finds_of_two :
    FindsAddress [⟨[running]⟩, ⟨[restarted]⟩]
        (lambdaHandler (answering [⟨[running]⟩, ⟨[restarted]⟩])
          (some "Update")) ↔
      ∀ found ∈ allInstances [⟨[running]⟩, ⟨[restarted]⟩], Addressed found :=
  lambdaHandler_finds_iff (Or.inr rfl) rfl
    ⟨running, List.Mem.head _, nofun⟩

/-- A terminated instance hides the one that runs, whichever comes first. -/
theorem lambdaHandler_loses_running :
    lambdaHandler (answering [⟨[terminated]⟩, ⟨[running]⟩]) (some "Create") =
        [("Failure", "Check Logs.")] ∧
      ¬ FindsAddress [⟨[terminated]⟩, ⟨[running]⟩]
          (lambdaHandler (answering [⟨[terminated]⟩, ⟨[running]⟩])
            (some "Create")) ∧
      ¬ FindsAddress [⟨[running]⟩, ⟨[terminated]⟩]
          (lambdaHandler (answering [⟨[running]⟩, ⟨[terminated]⟩])
            (some "Update")) := by
  have first :
      lambdaHandler (answering [⟨[terminated]⟩, ⟨[running]⟩])
          (some "Create") =
        [("Failure", "Check Logs.")] :=
    rfl
  have second :
      lambdaHandler (answering [⟨[running]⟩, ⟨[terminated]⟩])
          (some "Update") =
        [("Failure", "Check Logs.")] :=
    rfl
  refine ⟨first, ?_, ?_⟩
  · rintro ⟨found, _, address, _, _, sameData⟩
    simp [first] at sameData
  · rintro ⟨found, _, address, _, _, sameData⟩
    simp [second] at sameData

end ReverseProxy

end SparkObservability
