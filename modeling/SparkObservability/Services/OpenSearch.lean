import SparkObservability.Python
import Mathlib.Logic.Function.Basic

/-!
# OpenSearch

The resources of an OpenSearch domain by the paths under which its REST
interface knows them, and what requests do to them.
-/

namespace SparkObservability

inductive Action where
  | put
  | delete
  | post
  | postFile
  | patch
  deriving DecidableEq, Repr

inductive Payload where
  | none
  | json (value : JsonValue)
  | file (content : String)

structure Request where
  action : Action
  path : String
  payload : Payload
  headers : List (String × String)

structure Response where
  statusCode : Nat
  text : String
  deriving DecidableEq, Repr

/-- `response.ok` -/
def Response.Ok (response : Response) : Prop :=
  ¬ (400 ≤ response.statusCode ∧ response.statusCode < 600)

instance (response : Response) : Decidable response.Ok :=
  inferInstanceAs (Decidable (¬ _))

/-- The resources of a domain by their paths. -/
abbrev Domain := String → Option JsonValue

namespace Domain

def savedObjectsPath : String := "_dashboards/api/saved_objects/"

def savedObjectPath (type id : String) : String :=
  savedObjectsPath ++ type ++ "/" ++ id

def internalUsersPath : String := "_plugins/_security/api/internalusers/"

def internalUserPath [PythonLibrary] (username : JsonValue) : String :=
  internalUsersPath ++ Python.formatted username

/-- The type and the id of a saved object. -/
def savedObjectKey? (object : JsonValue) : Option (String × String) :=
  match Python.subscript object "type", Python.subscript object "id" with
  | .ok (.string type), .ok (.string id) => some (type, id)
  | _, _ => none

/-- The saved objects of a file, which has one JSON text a line. -/
def savedObjects (content : String) : List ((String × String) × JsonValue) :=
  (content.toList.splitOn '\n').filterMap fun line => do
    let object ← Json.read (String.ofList line)
    let key ← savedObjectKey? object
    return (key, object)

/-- An imported object replaces the one of the same type and id. -/
def importObjects (content : String) (domain : Domain) : Domain :=
  (savedObjects content).foldl
    (fun domain object =>
      Function.update domain (savedObjectPath object.1.1 object.1.2)
        (some object.2))
    domain

/-- What a successful request changes.  No other kind of request is sent with
a content. -/
def serve (domain : Domain) (request : Request) : Domain :=
  match request.action, request.payload with
  | .put, .json value => Function.update domain request.path (some value)
  | .delete, _ => Function.update domain request.path none
  | .postFile, .file content => domain.importObjects content
  | _, _ => domain

/-! ## Paths that are kept apart -/

def putRequest (path : String) (document : JsonValue) : Request :=
  ⟨.put, path, .json document, []⟩

def deleteRequest
    (headers : List (String × String)) (path : String) : Request :=
  ⟨.delete, path, .none, headers⟩

theorem serve_putRequest
    (domain : Domain) (path : String) (document : JsonValue) :
    domain.serve (putRequest path document) =
      Function.update domain path (some document) :=
  rfl

/-- Documents that are put under other paths leave a path alone. -/
theorem foldl_serve_of_not_mem
    {documents : List (String × JsonValue)} {path : String}
    (notPut : path ∉ documents.map Prod.fst) (domain : Domain) :
    (documents.map fun document =>
        putRequest document.1 document.2).foldl serve domain path =
      domain path := by
  induction documents generalizing domain with
  | nil => rfl
  | cons document rest inductionHypothesis =>
      rw [List.map_cons, List.mem_cons, not_or] at notPut
      rw [List.map_cons, List.foldl_cons, inductionHypothesis notPut.2,
        serve_putRequest, Function.update_of_ne notPut.1]

/-- Documents that are put under different paths are all there. -/
theorem foldl_serve_of_mem
    {documents : List (String × JsonValue)}
    (distinct : (documents.map Prod.fst).Nodup)
    {document : String × JsonValue} (member : document ∈ documents)
    (domain : Domain) :
    (documents.map fun document =>
        putRequest document.1 document.2).foldl serve domain document.1 =
      some document.2 := by
  induction documents generalizing domain with
  | nil => cases member
  | cons first rest inductionHypothesis =>
      rw [List.map_cons, List.nodup_cons] at distinct
      rw [List.map_cons, List.foldl_cons]
      rcases List.mem_cons.1 member with rfl | inRest
      · rw [foldl_serve_of_not_mem distinct.1, serve_putRequest,
          Function.update_self]
      · exact inductionHypothesis distinct.2 inRest _

/-- The two characters that tell the kinds of resources apart. -/
def kind (path : String) : List Char :=
  path.toList.take 2

theorem ne_of_kind_ne
    {path other : String} (different : kind path ≠ kind other) :
    path ≠ other := by
  rintro rfl
  exact different rfl

theorem kind_append
    {initial : String} (long : 2 ≤ initial.toList.length) (rest : String) :
    kind (initial ++ rest) = kind initial := by
  rw [kind, String.toList_append, List.take_append_of_le_length long, kind]

theorem kind_savedObjectPath (type id : String) :
    kind (savedObjectPath type id) = ['_', 'd'] := by
  rw [savedObjectPath, String.append_assoc, String.append_assoc,
    kind_append (by decide)]
  decide

theorem kind_internalUserPath [PythonLibrary] (username : JsonValue) :
    kind (internalUserPath username) = ['_', 'p'] := by
  rw [internalUserPath, kind_append (by decide)]
  decide

theorem internalUserPath_string_injective [PythonLibrary]
    {username other : String}
    (same :
      internalUserPath (.string username) = internalUserPath (.string other)) :
    username = other := by
  have sameCharacters := congrArg String.toList same
  rw [internalUserPath, internalUserPath, String.toList_append,
    String.toList_append] at sameCharacters
  exact String.toList_injective (List.append_cancel_left sameCharacters)

/-- An import changes saved objects only. -/
theorem importObjects_of_kind_ne
    {path : String} (different : kind path ≠ ['_', 'd']) (content : String)
    (domain : Domain) :
    domain.importObjects content path = domain path := by
  rw [importObjects]
  generalize savedObjects content = objects
  induction objects generalizing domain with
  | nil => rfl
  | cons object rest inductionHypothesis =>
      have notSaved : path ≠ savedObjectPath object.1.1 object.1.2 := by
        apply ne_of_kind_ne
        rw [kind_savedObjectPath]
        exact different
      rw [List.foldl_cons, inductionHypothesis, Function.update_of_ne notSaved]

theorem foldl_update_ne_none
    {objects : List ((String × String) × JsonValue)} {path : String}
    {domain : Domain}
    (present :
      domain path ≠ none ∨
        ∃ object ∈ objects, savedObjectPath object.1.1 object.1.2 = path) :
    objects.foldl
        (fun domain object =>
          Function.update domain (savedObjectPath object.1.1 object.1.2)
            (some object.2))
        domain path ≠
      none := by
  induction objects generalizing domain with
  | nil => simpa using present
  | cons first rest inductionHypothesis =>
      apply inductionHypothesis
      dsimp only
      by_cases same : path = savedObjectPath first.1.1 first.1.2
      · rw [same, Function.update_self]
        exact Or.inl (Option.some_ne_none _)
      · rw [Function.update_of_ne same]
        rcases present with before | ⟨object, member, named⟩
        · exact Or.inl before
        · rcases List.mem_cons.1 member with rfl | inRest
          · exact absurd named.symm same
          · exact Or.inr ⟨object, inRest, named⟩

/-- The paths of the saved objects of a file. -/
def importedPaths (content : String) : List String :=
  (savedObjects content).map fun object =>
    savedObjectPath object.1.1 object.1.2

/-- All objects are there after their import. -/
theorem importObjects_ne_none
    {content path : String} (imported : path ∈ importedPaths content)
    (domain : Domain) :
    domain.importObjects content path ≠ none :=
  foldl_update_ne_none (Or.inr (List.mem_map.1 imported))

theorem kind_of_mem_importedPaths
    {content path : String} (imported : path ∈ importedPaths content) :
    kind path = ['_', 'd'] := by
  obtain ⟨object, _, rfl⟩ := List.mem_map.1 imported
  exact kind_savedObjectPath _ _

end Domain

end SparkObservability
