import Stocktake.Container.Shape
import Stocktake.Container.Tree
import Stocktake.Filter.Basic

/-!
# Containers

Lists, tables and trees of records.  Reading a container looks up the tags of its records; a view
keeps the records that pass a filter after that, and shares them with its source.
-/

namespace Stocktake

/-- A list of records with columns: named ones, or the fields in use. -/
structure Table where
  records : List Record
  explicit : Option (List String) := none
  deriving Repr, Inhabited

/-- Puts a text into an increasing list, unless it is there. -/
def insertName (name : String) : List String → List String
  | [] => [name]
  | x :: rest =>
    if name < x then name :: x :: rest
    else if x = name then x :: rest
    else x :: insertName name rest

/-- The texts in increasing order, each once. -/
def sortedNames (names : List String) : List String := names.foldr insertName []

/-- The columns of records that name none: their fields in increasing order. -/
def inferredColumns (records : List Record) : List String :=
  sortedNames (records.flatMap fun r => r.fields.keys)

/-- The columns of a table. -/
def Table.columns (t : Table) : List String := t.explicit.getD (inferredColumns t.records)

/-- The cells of a record under columns: a missing field is empty. -/
def cells (columns : List String) (fields : Dict String) : List String :=
  columns.map fun c => (fields.get? c).getD ""

/-- The cells of a record in a table. -/
def Table.row (t : Table) (r : Record) : List String := cells t.columns r.fields

/-- Data of one of the shapes. -/
inductive Container
  | list (records : List Record)
  | table (data : Table)
  | tree (root : Tree Record)
  deriving Inhabited

/-- Whether a record, with its tags as last seen, passes a filter. -/
def Filter.keeps (store : Store) (cache : TagCache) (f : Filter) (r : Record) : Bool :=
  f.accepts store (r.read cache)

section Keeps

variable (store : Store) (cache : TagCache) (r : Record)

theorem Filter.keeps_and (fs : List Filter) :
    (Filter.and fs).keeps store cache r = fs.all fun f => f.keeps store cache r := by
  rw [keeps, accepts_and]
  rfl

theorem Filter.keeps_or (fs : List Filter) :
    (Filter.or fs).keeps store cache r = fs.any fun f => f.keeps store cache r := by
  rw [keeps, accepts_or]
  rfl

theorem Filter.keeps_not_cons (f : Filter) (fs : List Filter) :
    (Filter.not (f :: fs)).keeps store cache r = !f.keeps store cache r := by
  rw [keeps, accepts_not_cons]
  rfl

end Keeps

/-- The records that pass a filter after a look at the store. -/
def filterRecords (store : Store) (f : Filter) (cache : TagCache) (rs : List Record) :
    List Record × TagCache :=
  let cache := Record.refreshAll store cache rs
  (rs.filter (f.keeps store cache), cache)

/-- Whether two records look the same. -/
def sameReading (cache : TagCache) (a b : Record) : Bool := a.read cache == b.read cache

/-- The view of a tree under a filter, with the flags of an earlier view. -/
def filterTree (store : Store) (f : Filter) (before : Option (Tree Record)) (cache : TagCache)
    (root : Tree Record) : Tree Record × TagCache :=
  let cache := Record.refreshAll store cache root.contents
  ((root.pruned (f.keeps store cache)).carryOver (sameReading cache) before, cache)

namespace Container

/-- The shape of the data. -/
def shape : Container → Shape
  | .list _ => .list
  | .table _ => .table
  | .tree _ => .tree

/-- The records, those of a tree depth first. -/
def records : Container → List Record
  | .list rs => rs
  | .table t => t.records
  | .tree root => root.contents

/-- The number of records; the nodes of a tree count, the root too. -/
def size : Container → Nat
  | .list rs => rs.length
  | .table t => t.records.length
  | .tree root => root.size

/-- Looks up the tags of all records. -/
def refresh (store : Store) (cache : TagCache) (c : Container) : TagCache :=
  Record.refreshAll store cache c.records

/-- The view of the data under a filter: of the same shape, with the same columns, and every node of
    a tree collapsed. -/
def filtered (store : Store) (f : Filter) (cache : TagCache) : Container → Container × TagCache
  | .list rs =>
    let (kept, cache) := filterRecords store f cache rs
    (.list kept, cache)
  | .table t =>
    let (kept, cache) := filterRecords store f cache t.records
    (.table { t with records := kept }, cache)
  | .tree root =>
    let (view, cache) := filterTree store f none cache root
    (.tree view, cache)

end Container

mutual

/-- Hands out the drafts of a tree, depth first; the records in it stay. -/
def issueTree (cache : TagCache) : Tree (Draft ⊕ Record) → Tree Record × TagCache
  | .node c e ts =>
    let (r, cache) := match c with
      | .inl d => d.issue cache
      | .inr r => (r, cache)
    let (ts, cache) := issueTrees cache ts
    (.node r e ts, cache)

/-- Hands out the drafts of several trees. -/
def issueTrees (cache : TagCache) : List (Tree (Draft ⊕ Record)) → List (Tree Record) × TagCache
  | [] => ([], cache)
  | t :: ts =>
    let (t, cache) := issueTree cache t
    let (ts, cache) := issueTrees cache ts
    (t :: ts, cache)

end

end Stocktake
