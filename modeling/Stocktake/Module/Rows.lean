import Stocktake.Container.Basic

/-!
# Records from the rows of a query

Rows become records one by one, or several of them make one record; and records stand in a tree by
the paths they are at.
-/

namespace Stocktake

/-- Puts things in the order of their keys; things with equal keys stay in order. -/
def sortByKey {α : Type} (key : α → String) (xs : List α) : List α :=
  ((xs.map fun x => (key x, x)).mergeSort fun a b => decide (¬ b.1 < a.1)).map Prod.snd

/-- The order of display without regard to case. -/
def sortDrafts (ds : List Draft) : List Draft := sortByKey (fun d => Text.lowercase d.display) ds

/-- The record of a row that binds `label`: its value is the display, the value of `resource` names
    the subject, and the other variables are fields. -/
def rowDraft? (label : String) (resource : Option String) (row : Row) : Option Draft :=
  match row.get? label with
  | none => none
  | some display =>
    let row := row.erase label
    match resource with
    | none => some { display, fields := row }
    | some name =>
      match row.get? name with
      | none => some { display, fields := row }
      | some uri => some { display, reference := some { uri }, fields := row.erase name }

/-- The records of rows. -/
def rowDrafts (label : String) (resource : Option String) (rows : List Row) : List Draft :=
  rows.filterMap (rowDraft? label resource)

/-- One value of a field of a subject. -/
structure Cell where
  uri : String
  display : String
  field : String
  value : String
  deriving DecidableEq, Repr

/-- Adds a cell to the record of its subject, or starts one with it. -/
def addCell (c : Cell) : List Draft → List Draft
  | [] =>
    [{ display := c.display, reference := some { uri := c.uri },
       fields := appendField .empty c.field c.value }]
  | d :: rest =>
    if d.uri = some c.uri then d.appendField c.field c.value :: rest else d :: addCell c rest

/-- One record for every subject, in the order in which they come up; the values of a field are
    joined by commas. -/
def groupCells (cells : List Cell) : List Draft := cells.foldl (fun ds c => addCell c ds) []

/-- Entries at the nodes of a tree of names, the names below a node in increasing order. -/
inductive PathTrie (α : Type) where
  | node (entry : Option α) (tries : List (String × PathTrie α))

namespace PathTrie

variable {α : Type}

/-- The trie without entries. -/
def empty : PathTrie α := .node none []

/-- The entry at the root. -/
def entry : PathTrie α → Option α
  | .node e _ => e

/-- The tries below the root. -/
def tries : PathTrie α → List (String × PathTrie α)
  | .node _ ts => ts

/-- Changes what is under a name, keeping the order of the names; `change` gets `none` if there is
    nothing. -/
def alter (name : String) (change : Option (PathTrie α) → PathTrie α) :
    List (String × PathTrie α) → List (String × PathTrie α)
  | [] => [(name, change none)]
  | (n, t) :: rest =>
    if name < n then (name, change none) :: (n, t) :: rest
    else if n = name then (n, change (some t)) :: rest
    else (n, t) :: alter name change rest

/-- Puts an entry at a path, over one that is there. -/
def insert (a : α) : (path : List String) → PathTrie α → PathTrie α
  | [], .node _ ts => .node (some a) ts
  | name :: path, .node e ts =>
    .node e (alter name (fun t => insert a path (t.getD empty)) ts)

mutual

/-- The tree below a name; a node without an entry holds the plain one of its name. -/
def toTree (plain : String → α) (name : String) : PathTrie α → Tree α
  | .node e ts => .collapsed (e.getD (plain name)) (toTrees plain ts)

/-- The trees below names. -/
def toTrees (plain : String → α) : List (String × PathTrie α) → List (Tree α)
  | [] => []
  | (name, t) :: rest => toTree plain name t :: toTrees plain rest

end

/-- The trie of entries at paths; of entries at the same path the last one counts. -/
def ofEntries (entries : List (String × α)) : PathTrie α :=
  entries.foldl (fun t (path, a) => t.insert a (Text.segments path)) empty

end PathTrie

/-- The tree of entries at paths.  A root that has no entry and leads to one name only is left
    out. -/
def pathTree {α : Type} (plain : String → α) (root : String) (entries : List (String × α)) :
    Tree α :=
  match PathTrie.ofEntries entries with
  | .node none [(name, only)] => only.toTree plain name
  | top => top.toTree plain root

/-- A record that only has a display. -/
def plainDraft (display : String) : Draft := { display }

end Stocktake
