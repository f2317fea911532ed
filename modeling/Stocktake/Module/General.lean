import Stocktake.Module.Basic
import Stocktake.Module.Rows

/-!
# The general module

The standard filters, and views on every resource and on every tag.
-/

namespace Stocktake.General

/-- The query for the names of all resources. -/
def resourcesQuery : String :=
  "SELECT ?resource ?name WHERE \x7b ?resource <http://inventag.local/name> ?name \x7d ORDER BY ?name"

/-- The query for the properties of all resources that have a name. -/
def propertiesQuery : String :=
  "SELECT ?resource ?name ?property ?value WHERE \x7b ?resource <http://inventag.local/name> ?name . " ++
    "?resource ?property ?value . FILTER(isLiteral(?value)) \x7d ORDER BY ?name"

/-- The query for the tags of all resources that have a name. -/
def taggedQuery : String :=
  "SELECT ?resource ?name ?tag WHERE \x7b ?resource <http://inventag.local/name> ?name . " ++
    "?resource <http://inventag.local/tag> ?t . ?t <http://inventag.local/tagName> ?tag \x7d " ++
    "ORDER BY ?tag ?name"

/-- What stands above the tags in a tree. -/
def tagsRoot : String := "Tags"

/-- The cell that a row about a property makes; the name itself makes none. -/
def propertyCell? (row : Row) : Option Cell := do
  let property ← row.get? "property"
  if property = Vocabulary.nameProperty then none
  else
    let uri ← row.get? "resource"
    let display ← row.get? "name"
    let value ← row.get? "value"
    pure ⟨uri, display, Vocabulary.localName property, value⟩

/-- The view on every resource. -/
def resourcesView (actions : List (Action World)) : View where
  name := "Resources"
  description := "Every named resource in the store"
  shapes := [.list, .table]
  actions := actions
  produce store cache
    | .table =>
      (store.select propertiesQuery).map fun rows =>
        issueTable cache none (groupCells (rows.filterMap propertyCell?))
    | _ =>
      (store.select resourcesQuery).map fun rows =>
        issueList cache (rowDrafts "name" (some "resource") rows)

/-- A resource and one of its tags. -/
structure Tagging where
  uri : String
  name : String
  tag : String
  deriving DecidableEq, Repr

/-- The tagging that a row tells of. -/
def tagging? (row : Row) : Option Tagging := do
  let uri ← row.get? "resource"
  let name ← row.get? "name"
  let tag ← row.get? "tag"
  pure ⟨uri, name, tag⟩

/-- The tagged resources, each once, in the order in which they come up. -/
def taggedDrafts : List Tagging → List Draft
  | [] => []
  | t :: rest =>
    { display := t.name, reference := some { uri := t.uri } } ::
      (taggedDrafts rest).filter fun d => d.uri != some t.uri

/-- The tree of tags with their resources, which are among `records`. -/
def taggedTree (taggings : List Tagging) (records : List Record) : Tree (Draft ⊕ Record) :=
  let member := fun (t : Tagging) =>
    (records.find? fun r => r.uri == some t.uri).map fun r => Tree.leaf (.inr r)
  let group := fun tag =>
    Tree.collapsed (.inl (plainDraft tag))
      ((taggings.filter fun t => t.tag == tag).filterMap member)
  .collapsed (.inl (plainDraft tagsRoot)) ((sortedNames (taggings.map Tagging.tag)).map group)

/-- The view on every resource with a tag. -/
def taggedView (actions : List (Action World)) : View where
  name := "Tagged resources"
  description := "Resources carrying at least one tag, grouped by tag"
  shapes := [.list, .tree]
  actions := actions
  produce store cache shape :=
    (store.select taggedQuery).map fun rows =>
      let taggings := rows.filterMap tagging?
      let (records, cache) := Draft.issueAll cache (taggedDrafts taggings)
      match shape with
      | .tree => issueContainerTree cache (taggedTree taggings records)
      | _ => (.list records, cache)

/-- The filter whose pattern is a query. -/
def queryFilter : DecideFactory :=
  .ask "sparql" "SPARQL" "The ask query holds with ?uri bound to the resource"

/-- The module. -/
def module (hiddenTag : String) : Module where
  name := "General"
  description := "Standard filters and views over every resource"
  views := [resourcesView (Action.standard hiddenTag), taggedView (Action.standard hiddenTag)]
  filters := [.displayName, .text, .tag, queryFilter, .regex, .uri]

end Stocktake.General
