import Mathlib.Algebra.Order.Ring.Nat
import Mathlib.Data.List.Nodup

/-!
# JSON values

JSON values, objects with the in-place `addProperty` of Gson, and the values
that a JSON text can express.
-/

namespace SparkObservability

/-- The numbers that Python reads from and writes to JSON texts although JSON
does not have them. -/
inductive NonFinite where
  | nan
  | infinity
  | negativeInfinity
  deriving DecidableEq, Repr

inductive JsonValue where
  | null
  | bool (value : Bool)
  | number (value : Rat)
  | nonFinite (value : NonFinite)
  | string (value : String)
  | array (items : List JsonValue)
  | object (members : List (String × JsonValue))

/-- A Gson object; its members are in insertion order. -/
structure JsonObject where
  members : List (String × JsonValue)

namespace JsonObject

/-- Replace the value of a member in place, or append a new member. -/
def put (key : String) (value : JsonValue) :
    List (String × JsonValue) → List (String × JsonValue)
  | [] => [(key, value)]
  | (name, old) :: rest =>
      if name = key then
        (key, value) :: rest
      else
        (name, old) :: put key value rest

def addProperty
    (object : JsonObject) (key : String) (value : JsonValue) : JsonObject :=
  ⟨put key value object.members⟩

/-! ## Looking members up -/

variable {members : List (String × JsonValue)} {key : String}

theorem put_of_not_mem
    (fresh : key ∉ members.map Prod.fst) (value : JsonValue) :
    put key value members = members ++ [(key, value)] := by
  induction members with
  | nil => rfl
  | cons member rest inductionHypothesis =>
      rcases member with ⟨name, old⟩
      rw [List.map_cons, List.mem_cons, not_or] at fresh
      rw [put, if_neg (Ne.symm fresh.1), inductionHypothesis fresh.2]
      rfl

theorem lookup_put_self
    (members : List (String × JsonValue)) (key : String) (value : JsonValue) :
    (put key value members).lookup key = some value := by
  induction members with
  | nil => simp [put]
  | cons member rest inductionHypothesis =>
      rcases member with ⟨name, old⟩
      by_cases same : name = key
      · simp [put, same]
      · have check : (key == name) = false := by simp [Ne.symm same]
        simp [put, same, List.lookup_cons, check, inductionHypothesis]

theorem lookup_put_of_ne
    {other : String} (different : other ≠ key)
    (members : List (String × JsonValue)) (value : JsonValue) :
    (put key value members).lookup other = members.lookup other := by
  have check : (other == key) = false := by simp [different]
  induction members with
  | nil => simp [put, List.lookup_cons, check]
  | cons member rest inductionHypothesis =>
      rcases member with ⟨name, old⟩
      by_cases same : name = key
      · simp [put, same, List.lookup_cons, check]
      · simp [put, same, List.lookup_cons, inductionHypothesis]

theorem lookup_addProperty
    (object : JsonObject) (key : String) (value : JsonValue)
    (other : String) :
    (object.addProperty key value).members.lookup other =
      if other = key then some value else object.members.lookup other := by
  rw [addProperty]
  split
  · next same =>
      rw [same, lookup_put_self]
  · next different =>
      rw [lookup_put_of_ne different]

/-- A key is either there already or comes last. -/
theorem keys_put
    (members : List (String × JsonValue)) (key : String) (value : JsonValue) :
    (put key value members).map Prod.fst =
      if key ∈ members.map Prod.fst then members.map Prod.fst
      else members.map Prod.fst ++ [key] := by
  by_cases present : key ∈ members.map Prod.fst
  · rw [if_pos present]
    induction members with
    | nil => simp at present
    | cons member rest inductionHypothesis =>
        rcases member with ⟨name, old⟩
        by_cases same : name = key
        · simp [put, same]
        · have inRest : key ∈ rest.map Prod.fst := by
            rw [List.map_cons, List.mem_cons] at present
            exact present.resolve_left (Ne.symm same)
          simp [put, same, inductionHypothesis inRest]
  · rw [if_neg present, put_of_not_mem present, List.map_append]
    rfl

theorem nodup_keys_put
    (distinct : (members.map Prod.fst).Nodup) (key : String)
    (value : JsonValue) :
    ((put key value members).map Prod.fst).Nodup := by
  rw [keys_put]
  split
  · exact distinct
  · next absent =>
      rw [← List.concat_eq_append]
      exact distinct.concat absent

theorem mem_put
    {member : String × JsonValue} {value : JsonValue}
    (inPut : member ∈ put key value members) :
    member ∈ members ∨ member = (key, value) := by
  induction members with
  | nil => exact Or.inr (List.mem_singleton.1 inPut)
  | cons first rest inductionHypothesis =>
      rcases first with ⟨name, old⟩
      rw [put] at inPut
      split at inPut
      · rcases List.mem_cons.1 inPut with isNew | later
        · exact Or.inr isNew
        · exact Or.inl (List.mem_cons_of_mem _ later)
      · rcases List.mem_cons.1 inPut with isFirst | later
        · exact Or.inl (isFirst ▸ List.Mem.head _)
        · rcases inductionHypothesis later with inRest | isNew
          · exact Or.inl (List.mem_cons_of_mem _ inRest)
          · exact Or.inr isNew

end JsonObject

/-! ## Values that have a text -/

/-- The number has finitely many decimal places. -/
def IsDecimal (value : Rat) : Prop :=
  ∃ places ≤ value.den, value.den ∣ 10 ^ places

instance (value : Rat) : Decidable (IsDecimal value) :=
  decidable_of_iff (∃ places < value.den + 1, value.den ∣ 10 ^ places)
    (by simp only [IsDecimal, Nat.lt_succ_iff])

mutual

/-- The numbers of the value are decimal, and no object in it has a key
twice. -/
def JsonValue.WellFormed : JsonValue → Prop
  | .null => True
  | .bool _ => True
  | .number value => IsDecimal value
  | .nonFinite _ => False
  | .string _ => True
  | .array items => JsonValue.AllWellFormed items
  | .object members =>
      (members.map Prod.fst).Nodup ∧ JsonValue.MembersWellFormed members

def JsonValue.AllWellFormed : List JsonValue → Prop
  | [] => True
  | item :: rest => item.WellFormed ∧ JsonValue.AllWellFormed rest

def JsonValue.MembersWellFormed : List (String × JsonValue) → Prop
  | [] => True
  | (_, value) :: rest => value.WellFormed ∧ JsonValue.MembersWellFormed rest

end

theorem isDecimal_intCast (value : Int) : IsDecimal value :=
  ⟨0, Nat.zero_le _, by simp⟩

theorem JsonValue.wellFormed_string (text : String) :
    (JsonValue.string text).WellFormed :=
  trivial

theorem JsonValue.wellFormed_intCast (value : Int) :
    (JsonValue.number value).WellFormed :=
  isDecimal_intCast value

theorem JsonValue.membersWellFormed_iff
    (members : List (String × JsonValue)) :
    MembersWellFormed members ↔ ∀ member ∈ members, member.2.WellFormed := by
  induction members with
  | nil => simp [MembersWellFormed]
  | cons member rest inductionHypothesis =>
      rw [MembersWellFormed, inductionHypothesis, List.forall_mem_cons]

namespace JsonObject

def WellFormed (object : JsonObject) : Prop :=
  (JsonValue.object object.members).WellFormed

theorem WellFormed.addProperty
    {object : JsonObject} (wellFormed : object.WellFormed)
    {value : JsonValue} (valueWellFormed : value.WellFormed) (key : String) :
    (object.addProperty key value).WellFormed := by
  rw [JsonObject.WellFormed, JsonValue.WellFormed] at wellFormed ⊢
  refine ⟨nodup_keys_put wellFormed.1 key value, ?_⟩
  rw [JsonValue.membersWellFormed_iff]
  intro member inPut
  rcases mem_put inPut with old | rfl
  · exact (JsonValue.membersWellFormed_iff _).1 wellFormed.2 member old
  · exact valueWellFormed

end JsonObject

end SparkObservability
