import SparkObservability.Effects
import SparkObservability.Python
import SparkObservability.Splitting

/-!
# The subnets of the domain

How `BackendStack` gets the number of availability zones from the size of the
domain, and the subnets from the context or from the VPC.
-/

namespace SparkObservability

open Effect

/-- What the stack uses of the CDK: subnets, and their import into a scope
whose constructs all have different names. -/
class Cdk where
  Scope : Type
  Subnet : Type
  /-- The names of the constructs in the scope. -/
  children : Scope → List String
  /-- The name of a construct with the given id. -/
  nodeName : String → String
  /-- `Subnet.from_subnet_id` with the id of the construct and the id of the
  subnet. -/
  fromSubnetId : String → String → Effect PyException Scope Subnet
  subnetId : Subnet → String

namespace Cdk

/-- The scope has a construct with the name that the id gives. -/
def Taken [Cdk] (scope : Scope) (id : String) : Prop :=
  nodeName id ∈ children scope

/-- An import adds a construct; it is refused only if the construct would have
no name or one that the scope has already. -/
structure Lawful [Cdk] : Prop where
  imported :
    ∀ {scope later : Scope} {id subnet : String} {selected : Subnet},
      (fromSubnetId id subnet).perform scope = (.ok selected, later) →
        ¬ Taken scope id ∧ subnetId selected = subnet ∧
          ∀ name,
            name ∈ children later ↔
              name ∈ children scope ∨ name = nodeName id
  imports :
    ∀ {scope : Scope} {id : String} (subnet : String),
      id ≠ "" → ¬ Taken scope id →
        ∃ selected later,
          (fromSubnetId id subnet).perform scope = (.ok selected, later)

end Cdk

/-! ## Sizes -/

inductive TshirtSize where
  | xs
  | s
  | m
  | l
  | xl
  deriving DecidableEq, Repr

/-- `ClusterConfig.load_tshirt_size` -/
def loadTshirtSize : Option String → Except PyException TshirtSize
  | none =>
      .error
        (.exception "TshirtSize parameter for Opensearch domain is required")
  | some size =>
      if size.toLower = "xs" then .ok .xs
      else if size.toLower = "s" then .ok .s
      else if size.toLower = "m" then .ok .m
      else if size.toLower = "l" then .ok .l
      else if size.toLower = "xl" then .ok .xl
      else
        .error (.exception "TshirtSize parameter must be XS, S, M, L or XL")

/-- `availability_zone_count` of a domain with zone awareness. -/
def TshirtSize.availabilityZoneCount : TshirtSize → Option Nat
  | .xs => none
  | .s | .m | .l | .xl => some 3

def TshirtSize.azCount (size : TshirtSize) : Nat :=
  size.availabilityZoneCount.getD 1

/-! ## Subnets -/

namespace Python

/-- `text.split(separator, maxsplit)` -/
def split (text : String) (separator : Char) (maxsplit : Nat) : List String :=
  (Splitting.split separator maxsplit text.toList).map String.ofList

section Split

variable {pieces : List String}
  (commaFree : ∀ piece ∈ pieces, ',' ∉ piece.toList)

include commaFree in
theorem split_intercalate (somePiece : pieces ≠ []) (maxsplit : Nat) :
    split (",".intercalate pieces) ',' maxsplit =
      pieces.take maxsplit ++
        (Splitting.leftover ',' maxsplit (pieces.map String.toList)).map
          String.ofList := by
  have taken :
      ((pieces.map String.toList).take maxsplit).map String.ofList =
        pieces.take maxsplit := by
    rw [← List.map_take, List.map_map]
    simp
  have characters :
      Splitting.split ',' maxsplit
          (",".toList.intercalate (pieces.map String.toList)) =
        (pieces.map String.toList).take maxsplit ++
          Splitting.leftover ',' maxsplit (pieces.map String.toList) :=
    Splitting.split_intercalate (by simpa using somePiece)
      (by simpa using commaFree) maxsplit
  rw [split, String.toList_intercalate, characters, List.map_append, taken]

include commaFree in
/-- What is left after the last split comes in one piece. -/
theorem split_intercalate_of_lt
    {maxsplit : Nat} (more : maxsplit < pieces.length) :
    split (",".intercalate pieces) ',' maxsplit =
      pieces.take maxsplit ++ [",".intercalate (pieces.drop maxsplit)] := by
  have somePiece : pieces ≠ [] := List.ne_nil_of_length_pos (by omega)
  have rest :
      String.ofList
          ([','].intercalate ((pieces.map String.toList).drop maxsplit)) =
        ",".intercalate (pieces.drop maxsplit) := by
    apply String.toList_injective
    simp [String.toList_intercalate, List.map_drop]
  rw [split_intercalate commaFree somePiece, Splitting.leftover,
    List.length_map, if_pos more, List.map_singleton, rest]

include commaFree in
theorem split_intercalate_eq_take_iff
    (somePiece : pieces ≠ []) (maxsplit : Nat) :
    split (",".intercalate pieces) ',' maxsplit = pieces.take maxsplit ↔
      pieces.length ≤ maxsplit := by
  rw [split_intercalate commaFree somePiece, List.append_right_eq_self,
    List.map_eq_nil_iff, Splitting.leftover_eq_nil_iff, List.length_map]

end Split

end Python

namespace BackendStack

/-- The context of the stack, as far as it is about the subnets. -/
structure Context where
  tshirtSize : Option String
  opensearchSubnetsIds : Option String

section

variable [Cdk]

/-- The subnets given by the context, or else the private subnets of the VPC,
one per availability zone. -/
def osSubnets (azCount : Nat) (privateSubnets : List Cdk.Subnet) :
    Option String → Effect PyException Cdk.Scope (List Cdk.Subnet)
  | none => pure (privateSubnets.take azCount)
  | some osSubnetsIds =>
      (Python.split osSubnetsIds ',' azCount).mapM fun id =>
        Cdk.fromSubnetId id id

/-- The part of the stack that selects the subnets. -/
def selectSubnets (context : Context) (privateSubnets : List Cdk.Subnet) :
    Effect PyException Cdk.Scope (List Cdk.Subnet) :=
  match loadTshirtSize context.tshirtSize with
  | .error error => throw error
  | .ok size =>
      osSubnets size.azCount privateSubnets context.opensearchSubnetsIds

/-! ## Imports -/

/-- The ids give constructs names that are not in the scope, and different
ones. -/
structure Importable (scope : Cdk.Scope) (ids : List String) : Prop where
  notTaken : ∀ id ∈ ids, ¬ Cdk.Taken scope id
  distinct : (ids.map Cdk.nodeName).Nodup

variable {scope later : Cdk.Scope} {id : String} {rest : List String}

section Scopes

variable
  (grown :
    ∀ name,
      name ∈ Cdk.children later ↔
        name ∈ Cdk.children scope ∨ name = Cdk.nodeName id)

include grown in
/-- The ids after the first one are looked at once it has been imported. -/
theorem importable_cons_iff :
    Importable scope (id :: rest) ↔
      ¬ Cdk.Taken scope id ∧ Importable later rest := by
  constructor
  · rintro ⟨notTaken, distinct⟩
    rw [List.forall_mem_cons] at notTaken
    rw [List.map_cons, List.nodup_cons] at distinct
    refine ⟨notTaken.1, ?_, distinct.2⟩
    intro other inRest taken
    rcases (grown _).1 taken with before | same
    · exact notTaken.2 other inRest before
    · exact distinct.1 (List.mem_map.2 ⟨other, inRest, same⟩)
  · rintro ⟨notTaken, restNotTaken, restDistinct⟩
    constructor
    · rw [List.forall_mem_cons]
      refine ⟨notTaken, ?_⟩
      intro other inRest taken
      exact restNotTaken other inRest ((grown _).2 (Or.inl taken))
    · rw [List.map_cons, List.nodup_cons]
      refine ⟨?_, restDistinct⟩
      intro again
      obtain ⟨other, inRest, same⟩ := List.mem_map.1 again
      exact restNotTaken other inRest ((grown _).2 (Or.inr same))

end Scopes

section Lawful

variable (lawful : Cdk.Lawful)

include lawful in
/-- What is imported has the given ids. -/
theorem importable_of_imported
    {ids : List String} {scope final : Cdk.Scope} {subnets : List Cdk.Subnet}
    (returns :
      (ids.mapM fun id => Cdk.fromSubnetId id id).perform scope =
        (.ok subnets, final)) :
    Importable scope ids ∧ subnets.map Cdk.subnetId = ids := by
  induction ids generalizing scope subnets final with
  | nil =>
      cases returns
      exact ⟨⟨by simp, List.nodup_nil⟩, rfl⟩
  | cons id rest inductionHypothesis =>
      rw [List.mapM_cons] at returns
      obtain ⟨subnet, later, first, returns⟩ :=
        perform_bind_eq_ok_iff.1 returns
      obtain ⟨others, _, restReturns, returns⟩ :=
        perform_bind_eq_ok_iff.1 returns
      obtain ⟨notTaken, sameId, grown⟩ := lawful.imported first
      obtain ⟨importable, sameIds⟩ := inductionHypothesis restReturns
      cases returns
      refine ⟨(importable_cons_iff grown).2 ⟨notTaken, importable⟩, ?_⟩
      rw [List.map_cons, sameId, sameIds]

include lawful in
theorem imported_of_importable
    {ids : List String} (named : ∀ id ∈ ids, id ≠ "") {scope : Cdk.Scope}
    (importable : Importable scope ids) :
    ∃ subnets final,
      (ids.mapM fun id => Cdk.fromSubnetId id id).perform scope =
        (.ok subnets, final) := by
  induction ids generalizing scope with
  | nil => exact ⟨[], scope, rfl⟩
  | cons id rest inductionHypothesis =>
      rw [List.forall_mem_cons] at named
      obtain ⟨subnet, later, first⟩ :=
        lawful.imports id named.1 (importable.notTaken id (List.Mem.head _))
      obtain ⟨_, _, grown⟩ := lawful.imported first
      obtain ⟨others, final, restReturns⟩ :=
        inductionHypothesis named.2
          ((importable_cons_iff grown).1 importable).2
      refine ⟨subnet :: others, final, ?_⟩
      rw [List.mapM_cons, perform_bind_of_ok first,
        perform_bind_of_ok restReturns, perform_pure]

end Lawful

/-! ## The selection -/

/-- The selected subnets are the first ones, one for each availability
zone. -/
def SelectsFirst
    (azCount : Nat) (ids : List String)
    (result : Except PyException (List Cdk.Subnet)) : Prop :=
  ∃ subnets,
    result = .ok subnets ∧ subnets.map Cdk.subnetId = ids.take azCount

/-- Of too many ids, one more is selected than there are availability zones,
and it is all of the rest. -/
theorem ids_of_too_many
    (lawful : Cdk.Lawful) {ids : List String}
    (commaFree : ∀ id ∈ ids, ',' ∉ id.toList) {azCount : Nat}
    (more : azCount < ids.length) {privateSubnets subnets : List Cdk.Subnet}
    {scope final : Cdk.Scope}
    (returns :
      (osSubnets azCount privateSubnets
          (some (",".intercalate ids))).perform scope =
        (.ok subnets, final)) :
    subnets.map Cdk.subnetId =
      ids.take azCount ++ [",".intercalate (ids.drop azCount)] := by
  rw [← Python.split_intercalate_of_lt commaFree more]
  exact (importable_of_imported lawful returns).2

theorem selectsFirst_of_vpc
    (azCount : Nat) (privateSubnets : List Cdk.Subnet) (scope : Cdk.Scope) :
    SelectsFirst azCount (privateSubnets.map Cdk.subnetId)
      ((osSubnets azCount privateSubnets none).perform scope).1 :=
  ⟨_, rfl, List.map_take⟩

/-- The ids of a parameter are the first ones only where there are not too
many of them. -/
theorem osSubnets_selectsFirst_iff
    (lawful : Cdk.Lawful) {ids : List String} (someId : ids ≠ [])
    (named : ∀ id ∈ ids, id ≠ "")
    (commaFree : ∀ id ∈ ids, ',' ∉ id.toList)
    (azCount : Nat) (privateSubnets : List Cdk.Subnet) (scope : Cdk.Scope) :
    SelectsFirst azCount ids
        ((osSubnets azCount privateSubnets
          (some (",".intercalate ids))).perform scope).1 ↔
      ids.length ≤ azCount ∧ Importable scope ids := by
  have pieces := Python.split_intercalate_eq_take_iff commaFree someId azCount
  rw [osSubnets]
  constructor
  · rintro ⟨subnets, returns, sameIds⟩
    obtain ⟨importable, allIds⟩ :=
      importable_of_imported lawful (Prod.ext returns rfl)
    rw [sameIds] at allIds
    have enough := pieces.1 allIds.symm
    rw [← allIds, List.take_of_length_le enough] at importable
    exact ⟨enough, importable⟩
  · rintro ⟨enough, importable⟩
    rw [pieces.2 enough, List.take_of_length_le enough]
    obtain ⟨subnets, final, returns⟩ :=
      imported_of_importable lawful named importable
    rw [returns]
    refine ⟨subnets, rfl, ?_⟩
    rw [(importable_of_imported lawful returns).2,
      List.take_of_length_le enough]

end

/-! ## A deployment -/

/-- The names of a scope, for ids that are names. -/
abbrev plainCdk : Cdk where
  Scope := List String
  Subnet := String
  children names := names
  nodeName id := id
  fromSubnetId id subnet := do
    let names ← get
    if id = "" ∨ id ∈ names then
      throw (.exception id)
    else
      set (names ++ [id])
      return subnet
  subnetId subnet := subnet

theorem perform_fromSubnetId_plainCdk
    (id subnet : String) (names : List String) :
    (plainCdk.fromSubnetId id subnet).perform names =
      if id = "" ∨ id ∈ names then (.error (.exception id), names)
      else (.ok subnet, names ++ [id]) := by
  change Effect.perform (if id = "" ∨ id ∈ names then _ else _) names = _
  split <;> rfl

theorem lawful_plainCdk : @Cdk.Lawful plainCdk := by
  refine @Cdk.Lawful.mk plainCdk ?_ ?_
  · intro names later id subnet selected returns
    rw [perform_fromSubnetId_plainCdk] at returns
    split at returns
    · cases returns
    · next accepted =>
        cases returns
        refine ⟨(not_or.1 accepted).2, rfl, ?_⟩
        intro name
        exact List.mem_append.trans (or_congr_right List.mem_singleton)
  · intro names id subnet named notTaken
    refine ⟨subnet, List.append names [id], ?_⟩
    rw [perform_fromSubnetId_plainCdk]
    exact if_neg (not_or.2 ⟨named, notTaken⟩)

theorem osSubnets_selectsFirst_three :
    letI := plainCdk
    SelectsFirst 3 ["subnet-1", "subnet-2", "subnet-3"]
        ((osSubnets 3 []
          (some (",".intercalate ["subnet-1", "subnet-2", "subnet-3"]))).perform
            ["Vpc"]).1 ↔
      ["subnet-1", "subnet-2", "subnet-3"].length ≤ 3 ∧
        Importable ["Vpc"] ["subnet-1", "subnet-2", "subnet-3"] :=
  @osSubnets_selectsFirst_iff plainCdk lawful_plainCdk
    ["subnet-1", "subnet-2", "subnet-3"] (by decide) (by decide) (by decide)
    3 [] ["Vpc"]

/-- A domain of the smallest size gets both of its subnets. -/
theorem selectSubnets_xs_of_two :
    letI := plainCdk
    ¬ SelectsFirst TshirtSize.xs.azCount ["subnet-1", "subnet-2"]
        ((selectSubnets ⟨some "XS", some "subnet-1,subnet-2"⟩ []).perform
          ["Vpc"]).1 := by
  have selected :
      (@Effect.perform _ (List String) (List String)
          (@selectSubnets plainCdk
            ⟨some "XS", some "subnet-1,subnet-2"⟩ []) ["Vpc"]).1 =
        .ok ["subnet-1", "subnet-2"] := by
    decide +kernel
  rintro ⟨subnets, returns, sameIds⟩
  rw [selected] at returns
  cases returns
  exact absurd sameIds (by decide)

end BackendStack

end SparkObservability
