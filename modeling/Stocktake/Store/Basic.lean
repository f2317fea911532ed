import Stocktake.Dict
import Stocktake.Store.Error
import Stocktake.Store.Vocabulary
import Stocktake.Tag

/-!
# The store

Subjects with a kind, a name, attributes and tags, and the answers to queries, matched by their
text.  Any operation may be refused for one subject or for all of them; a refused operation has no
effect.  What can change the store is a `Write`, so that a run of writes is a list.
-/

namespace Stocktake

/-- What the store knows of one subject. -/
structure Subject where
  kind : String := ""
  name : String := ""
  attributes : List (String × String) := []
  tags : List Tag := []
  deriving DecidableEq, Repr, Inhabited

/-- The values of a property, in the order in which they were added. -/
def Subject.values (s : Subject) (property : String) : List String :=
  (s.attributes.filter fun a => a.1 == property).map Prod.snd

/-- A subject without the statements of a property. -/
def Subject.without (x : Subject) (property : String) : Subject :=
  { x with
    tags := if property = Vocabulary.tagProperty then [] else x.tags
    attributes := x.attributes.filter fun a => a.1 != property }

/-- A subject with one more attribute. -/
def Subject.withAttribute (x : Subject) (property value : String) : Subject :=
  { x with attributes := x.attributes ++ [(property, value)] }

/-- One solution of a query: variables and their values. -/
abbrev Row := Dict String

/-- What can be asked of the store about one subject. -/
inductive Operation
  | tags
  | addTag
  | removeStatements
  | attributeValues
  | createResource
  | addAttribute
  | addResourceAttribute
  deriving DecidableEq, Repr

/-- How an operation is called. -/
def Operation.name : Operation → String
  | .tags => "tags"
  | .addTag => "add_tag"
  | .removeStatements => "remove_statements"
  | .attributeValues => "attribute_values"
  | .createResource => "create_resource"
  | .addAttribute => "add_attribute"
  | .addResourceAttribute => "add_resource_attribute"

/-- All operations. -/
def Operation.all : List Operation :=
  [.tags, .addTag, .removeStatements, .attributeValues, .createResource, .addAttribute,
    .addResourceAttribute]

/-- A cause for which operations are refused. -/
inductive Refusal
  | notFound
  | detached
  | unsupported
  | query (reason : String)
  deriving DecidableEq, Repr

/-- The cause of a name; every other name is the reason why a query fails. -/
def Refusal.named (name : String) : Refusal :=
  if name = "not_found" then .notFound
  else if name = "detached" then .detached
  else if name = "unsupported" then .unsupported
  else .query name

/-- The error of a refused operation. -/
def Refusal.error (uri : String) (op : Operation) : Refusal → StoreError
  | .notFound => .notFound uri
  | .detached => .detached
  | .unsupported => .unsupported op.name
  | .query reason => .query reason

/-- Subjects, answers to queries, refusals, and whether many writes are in progress. -/
structure Store where
  subjects : Dict Subject := .empty
  selects : Dict (List Row) := .empty
  asks : Dict Bool := .empty
  /-- Queries that fail, with the reason. -/
  refusedQueries : Dict String := .empty
  /-- For every operation, the subjects for which it is refused; `"*"` stands for the others. -/
  refusals : List (Operation × Dict Refusal) := []
  inBatch : Bool := false
  /-- How often a batch was begun. -/
  batchSessions : Nat := 0

instance : Inhabited Store := ⟨{}⟩

/-- A change that is asked of the store. -/
inductive Write
  | batch (on : Bool)
  | tag (uri : String) (tag : Tag)
  | remove (uri property : String)
  | create (uri kind name : String)
  | attribute (uri property value : String)
  | link (uri property value : String)
  deriving DecidableEq, Repr

namespace Store

/-- The answer to a query for rows; a query never heard of has none. -/
def select (s : Store) (query : String) : Except StoreError (List Row) :=
  match s.refusedQueries.get? query with
  | some reason => .error (.query reason)
  | none => .ok ((s.selects.get? query).getD [])

/-- The answer to a yes-or-no query; a query never heard of is answered with no. -/
def ask (s : Store) (query : String) : Except StoreError Bool :=
  match s.refusedQueries.get? query with
  | some reason => .error (.query reason)
  | none => .ok ((s.asks.get? query).getD false)

/-- Whether there is a subject of that name. -/
def contains (s : Store) (uri : String) : Bool := s.subjects.has uri

/-- The refusals of an operation. -/
def refusalsOf (op : Operation) : List (Operation × Dict Refusal) → Dict Refusal
  | [] => .empty
  | (o, d) :: rest => if o = op then d else refusalsOf op rest

/-- The error with which the operation is refused for the subject, if it is.  A refusal for this very
    subject counts before one for all subjects. -/
def refused? (s : Store) (op : Operation) (uri : String) : Option StoreError :=
  let d := refusalsOf op s.refusals
  ((d.get? uri).or (d.get? "*")).map (Refusal.error uri op)

/-- The subject, unless the operation is refused or there is none. -/
def subject (s : Store) (op : Operation) (uri : String) : Except StoreError Subject :=
  match s.refused? op uri with
  | some e => .error e
  | none =>
    match s.subjects.get? uri with
    | some subject => .ok subject
    | none => .error (.notFound uri)

/-- The tags of a subject. -/
def tags (s : Store) (uri : String) : Except StoreError (List Tag) :=
  (s.subject .tags uri).map Subject.tags

/-- The values of a property of a subject. -/
def attributeValues (s : Store) (uri property : String) : Except StoreError (List String) :=
  (s.subject .attributeValues uri).map fun subject => subject.values property

/-- The store with the subject put under the name. -/
def put (s : Store) (uri : String) (subject : Subject) : Store :=
  { s with subjects := s.subjects.insert uri subject }

/-- Adds a tag to a subject. -/
def addTag (s : Store) (uri : String) (tag : Tag) : Except StoreError Store :=
  (s.subject .addTag uri).map fun x => s.put uri { x with tags := x.tags ++ [tag] }

/-- Removes the statements of a property from a subject; where there is no subject, nothing is to be
    removed. -/
def removeStatements (s : Store) (uri property : String) : Except StoreError Store :=
  match s.refused? .removeStatements uri with
  | some e => .error e
  | none =>
    match s.subjects.get? uri with
    | some x => .ok (s.put uri (x.without property))
    | none => .ok s

/-- Puts a new subject, in place of any that had the name. -/
def createResource (s : Store) (uri kind name : String) : Except StoreError Store :=
  match s.refused? .createResource uri with
  | some e => .error e
  | none => .ok (s.put uri { kind, name })

/-- Adds an attribute to a subject. -/
def addAttribute (s : Store) (uri property value : String) : Except StoreError Store :=
  (s.subject .addAttribute uri).map fun x => s.put uri (x.withAttribute property value)

/-- Adds an attribute that names another subject, which has to be there. -/
def addResourceAttribute (s : Store) (uri property value : String) : Except StoreError Store :=
  match s.refused? .addResourceAttribute uri with
  | some e => .error e
  | none =>
    if s.contains value then
      match s.subjects.get? uri with
      | some x => .ok (s.put uri (x.withAttribute property value))
      | none => .error (.notFound uri)
    else .error (.notFound value)

/-- Turns batches on or off. -/
def setBatch (s : Store) (on : Bool) : Store :=
  { s with
    inBatch := on
    batchSessions := if on && !s.inBatch then s.batchSessions + 1 else s.batchSessions }

/-- The store after one write. -/
def write (s : Store) : Write → Except StoreError Store
  | .batch on => .ok (s.setBatch on)
  | .tag uri tag => s.addTag uri tag
  | .remove uri property => s.removeStatements uri property
  | .create uri kind name => s.createResource uri kind name
  | .attribute uri property value => s.addAttribute uri property value
  | .link uri property value => s.addResourceAttribute uri property value

/-- A store that holds nothing and takes nothing: queries are answered empty, no subject is found, and
    what would have made or removed something is not supported. -/
def offline : Store where
  refusals := [
    (.removeStatements, Dict.empty.insert "*" .unsupported),
    (.createResource, Dict.empty.insert "*" .unsupported),
    (.addResourceAttribute, Dict.empty.insert "*" .notFound)]

/-- The names of the tags that the store knows; none if it does not say. -/
def knownTagNames (s : Store) : List String :=
  match s.select Vocabulary.tagNamesQuery with
  | .ok rows => rows.filterMap fun row => row.get? "name"
  | .error _ => []

end Store

end Stocktake
