import Stocktake.Toml.Value

/-!
# Tables under construction

A table grows by key-value pairs and headers, and no part of it may be defined twice.  A table that
a header or a dotted key only passes through may still be defined by its own header, unless it came
from a dotted key; a dotted key may only go on with a table that dotted keys made.
-/

namespace Stocktake.Toml

/-- An entry of a table under construction. -/
inductive Item where
  | value (v : Toml)
  /-- A table; it may have been only passed through, and it may be due to a dotted key. -/
  | table (passed dotted : Bool) (entries : List (String × Item))
  /-- Tables of one name, each with a header of its own. -/
  | tables (all : List (List (String × Item)))
  deriving Inhabited

/-- A table under construction. -/
structure Node where
  passed : Bool := false
  dotted : Bool := false
  entries : List (String × Item) := []
  deriving Inhabited

/-- The item under a key. -/
def item? (key : String) : List (String × Item) → Option Item
  | [] => none
  | (k, x) :: rest => if k = key then some x else item? key rest

/-- Puts an item under a key, keeping the order of the keys. -/
def putItem (key : String) (x : Item) : List (String × Item) → List (String × Item)
  | [] => [(key, x)]
  | (k, y) :: rest =>
    if key < k then (key, x) :: (k, y) :: rest
    else if k = key then (k, x) :: rest
    else (k, y) :: putItem key x rest

/-- Takes away the item under a key. -/
def dropItem (key : String) (entries : List (String × Item)) : List (String × Item) :=
  entries.filter fun e => e.1 != key

namespace Node

/-- The node with an item put under a key. -/
def put (n : Node) (key : String) (x : Item) : Node := { n with entries := putItem key x n.entries }

/-- The node as an item. -/
def item (n : Node) : Item := .table n.passed n.dotted n.entries

/-- Changes the table that a path leads to, making those that are missing.  Of tables of one name, the
    path goes on with the last. -/
def descend (dotted : Bool) (change : Node → Option Node) : List String → Node → Option Node
  | [], n => change n
  | key :: path, n =>
    match item? key n.entries with
    | none => (descend dotted change path ⟨true, dotted, []⟩).map fun x => n.put key x.item
    | some (.value _) => none
    | some (.table passed d entries) =>
      if dotted && !passed then none
      else (descend dotted change path ⟨passed, d, entries⟩).map fun x => n.put key x.item
    | some (.tables all) =>
      match all.getLast? with
      | none => none
      | some last =>
        (descend dotted change path ⟨false, false, last⟩).map fun x =>
          n.put key (.tables (all.dropLast ++ [x.entries]))

/-- How many parts a key may have at most before its last one. -/
def pathLimit : Nat := 80

/-- Adds a pair, its key in parts. -/
def addPair (n : Node) (key : List String) (v : Toml) : Option Node :=
  match key.getLast? with
  | none => none
  | some last =>
    let path := key.dropLast
    if pathLimit ≤ path.length then none
    else
      descend true (fun table =>
        if table.dotted == path.isEmpty || (item? last table.entries).isSome then none
        else some (table.put last (.value v))) path n

end Node

/-- A document under construction: what is finished, and the table whose header came last. -/
structure Builder where
  root : Node := {}
  current : Node := {}
  path : List String := []
  /-- The current table is one of several of one name. -/
  repeated : Bool := false
  deriving Inhabited

namespace Builder

/-- The root with the current table in its place. -/
def finish? (b : Builder) : Option Node :=
  match b.path.getLast? with
  | none => some b.current
  | some key =>
    Node.descend false (fun parent =>
      match item? key parent.entries, b.repeated with
      | some (.tables all), true =>
        some (parent.put key (.tables (all ++ [b.current.entries])))
      | none, false => some (parent.put key b.current.item)
      | _, _ => none) b.path.dropLast b.root

/-- Starts the table of a header. -/
def startTable? (b : Builder) (path : List String) : Option Builder := do
  let root ← b.finish?
  let key ← path.getLast?
  let parentPath := path.dropLast
  -- The path is made first, so that what it leads to can be looked at.
  let root ← Node.descend false some parentPath root
  let found := lookUp root parentPath key
  match found with
  | none => some { root, current := {}, path, repeated := false }
  | some (.table true false entries) =>
    let root ← Node.descend false
      (fun parent => some { parent with entries := dropItem key parent.entries }) parentPath root
    some { root, current := ⟨false, false, entries⟩, path, repeated := false }
  | some _ => none
where
  /-- The item at the end of a path that is there. -/
  lookUp (n : Node) : List String → String → Option Item
    | [], key => item? key n.entries
    | k :: path, key =>
      match item? k n.entries with
      | some (.table p d entries) => lookUp ⟨p, d, entries⟩ path key
      | some (.tables all) => lookUp ⟨false, false, all.getLast?.getD []⟩ path key
      | _ => none

/-- Starts one of several tables of the name of a header. -/
def startRepeated? (b : Builder) (path : List String) : Option Builder := do
  let root ← b.finish?
  let key ← path.getLast?
  let root ← Node.descend false (fun parent =>
    match item? key parent.entries with
    | none => some (parent.put key (.tables []))
    | some (.tables _) => some parent
    | some _ => none) path.dropLast root
  some { root, current := {}, path, repeated := true }

/-- Adds a pair to the current table. -/
def addPair? (b : Builder) (key : List String) (v : Toml) : Option Builder :=
  (b.current.addPair key v).map fun current => { b with current }

end Builder

mutual

/-- The value of an item. -/
def Item.toml : Item → Toml
  | .value v => v
  | .table _ _ entries => .table (entriesToml entries)
  | .tables all => .array (tablesToml all)

/-- The values of entries. -/
def entriesToml : List (String × Item) → List (String × Toml)
  | [] => []
  | (key, x) :: rest => (key, x.toml) :: entriesToml rest

/-- The values of tables. -/
def tablesToml : List (List (String × Item)) → List Toml
  | [] => []
  | entries :: rest => .table (entriesToml entries) :: tablesToml rest

end

end Stocktake.Toml
