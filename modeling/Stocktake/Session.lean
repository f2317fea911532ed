import Stocktake.Container.Input
import Stocktake.Module.Basic
import Stocktake.Query.Compile

/-!
# Sessions

A run of steps in one world: containers and filtered trees are kept under names, records are
selected, and the actions, imports and exports of a catalog are called.  A step that fails keeps what
was under a name.
-/

namespace Stocktake

/-- Changes the first item that satisfies the test. -/
def modifyFirst {α : Type} (test : α → Bool) (f : α → α) : List α → List α
  | [] => []
  | x :: rest => if test x then f x :: rest else x :: modifyFirst test f rest

/-- The state of a session. -/
structure Session where
  world : World
  settings : Query.Settings
  catalog : Catalog
  containers : Dict Container := .empty
  trees : Dict (Tree Record) := .empty
  selection : List Record := []

namespace Session

/-- The session before a step: nothing has been written, told, reported or copied in it. -/
def startStep (s : Session) : Session :=
  { s with
    world :=
      { s.world with
        writes := []
        notices := []
        reports := []
        clipboard := { s.world.clipboard with text := none } } }

/-- The container under a name. -/
def container (s : Session) (name : String) : Container :=
  (s.containers.get? name).getD (.list [])

/-- The filtered tree under a name. -/
def tree (s : Session) (name : String) : Tree Record :=
  (s.trees.get? name).getD (.leaf default)

/-- Puts a container under a name and looks up the tags of its records. -/
def keep (s : Session) (name : String) (c : Container) (cache : TagCache) : Session :=
  { s with
    world := { s.world with cache := c.refresh s.world.store cache }
    containers := s.containers.insert name c }

/-- Looks up the tags of a container. -/
def look (s : Session) (c : Container) : Session :=
  { s with world := { s.world with cache := c.refresh s.world.store s.world.cache } }

/-- The settings, with another choice about hidden records if one is made. -/
def settingsWith (s : Session) (wrapper : Option Bool) : Query.Settings :=
  { s.settings with useWrapper := wrapper.getD s.settings.useWrapper }

/-- The filter of a query. -/
def compile (s : Session) (wrapper : Option Bool) (query : String) : Except Error Filter :=
  (Query.build (s.settingsWith wrapper) s.catalog.registry query).mapError .filter

/-- The first view of a name. -/
def view? (s : Session) (name : String) : Option View :=
  s.catalog.views.find? fun v => v.name == name

/-- Keeps the data of a view. -/
def fetch (s : Session) (view : String) (shape : Shape) (into : String) : Except Error Session :=
  match s.view? view with
  | none => .error (.module .noSource)
  | some v =>
    match v.data s.world.store s.world.cache shape with
    | .error e => .error (.module e)
    | .ok (c, cache) => .ok (s.keep into c cache)

/-- Keeps the records of a text. -/
def load (s : Session) (text : String) (shape : Shape) (into : String) : Except Error Session :=
  match readContainer s.world.cache text shape with
  | .error e => .error (.json e)
  | .ok (c, cache) => .ok (s.keep into c cache)

/-- Keeps the view of a container under a query. -/
def filter (s : Session) (source query : String) (wrapper : Option Bool) (into : String) :
    Except Error Session :=
  (s.compile wrapper query).map fun f =>
    let (view, cache) := (s.container source).filtered s.world.store f s.world.cache
    s.keep into view cache

/-- Keeps the view of a tree under a query, with the flags of an earlier view. -/
def refilter (s : Session) (source query : String) (wrapper : Option Bool)
    (before : Option String) (into : String) : Except Error Session :=
  (s.compile wrapper query).map fun f =>
    match s.container source with
    | .tree root =>
      let (view, cache) :=
        filterTree s.world.store f (before.bind s.trees.get?) s.world.cache root
      { s with world := { s.world with cache }, trees := s.trees.insert into view }
    | _ => s

/-- Expands or collapses a node of a filtered tree. -/
def expand (s : Session) (name : String) (path : List Nat) (value : Bool) : Session :=
  { s with trees := s.trees.insert name ((s.tree name).updateAt (Tree.withExpanded value) path) }

/-- Whether something below a node of a filtered tree, or the node, passes a query. -/
def subtreeMatches (s : Session) (name : String) (path : List Nat) (query : String)
    (wrapper : Option Bool) : Except Error Bool :=
  (s.compile wrapper query).map fun f =>
    ((s.tree name).follow path).anyNode (f.keeps s.world.store s.world.cache)

/-- Gives other tags to the record of a node of a filtered tree. -/
def setTags (s : Session) (name : String) (path : List Nat) (tags : List Tag) : Session :=
  let id := ((s.tree name).follow path).content.id
  { s with world := { s.world with cache := s.world.cache.set id tags } }

/-- Selects records of a container by their places, or all of them. -/
def select (s : Session) (source : String) (places : Option (List Nat)) : Session :=
  let c := s.container source
  let selection := match places with
    | none => c.records
    | some places => places.filterMap fun i => c.records[i]?
  { s.look c with selection }

/-- Selects nothing. -/
def unselect (s : Session) : Session := { s with selection := [] }

/-- The catalog with the parameters of an action of a view changed. -/
def withParameters (s : Session) (view action : String) (ps : List Parameter) : Session :=
  let inAction := modifyFirst (fun a : Action World => a.name == action)
    fun a => { a with parameters := ps }
  let inView := modifyFirst (fun v : View => v.name == view)
    fun v => { v with actions := inAction v.actions }
  let inModule := modifyFirst (fun m : Module => m.views.any fun v => v.name == view)
    fun m => { m with views := inView m.views }
  { s with catalog := { s.catalog with modules := inModule s.catalog.modules } }

/-- Sets parameters one after the other. -/
def setParameters (store : Store) (ps : List Parameter) :
    List (String × String) → Except ModuleError (List Parameter)
  | [] => .ok ps
  | (name, value) :: rest =>
    match setParameter store name value ps with
    | .ok ps => setParameters store ps rest
    | .error e => .error e

/-- What came of a call of an action. -/
structure Called where
  enabled : Bool
  values : List String
  outcome : Except ModuleError Outcome

/-- Sets the parameters of an action, which stay set, and calls it on the selection. -/
def act (s : Session) (view action : String) (values : List (String × String)) :
    Except Error (Called × Session) :=
  match (s.view? view).bind fun v => v.actions.find? fun a => a.name == action with
  | none => .error (.module (.actionDisabled action))
  | some a =>
    match setParameters s.world.store a.parameters values with
    | .error e => .error (.module e)
    | .ok ps =>
      let s := s.withParameters view action ps
      let a := { a with parameters := ps }
      let (outcome, world) := a.invoke s.selection s.world
      .ok (⟨a.isEnabled s.selection, ps.map Parameter.displayValue, outcome⟩, { s with world })

/-- Calls an import. -/
def runImport (s : Session) (name : String) : Except ModuleError Unit × Session :=
  match s.catalog.imports.find? fun i => i.name == name with
  | none => (.error .noSource, s)
  | some i =>
    let (r, world) := i.run s.world
    (r, { s with world })

/-- The first export of a name. -/
def export? (s : Session) (name : String) : Option Export :=
  s.catalog.exports.find? fun e => e.name == name

/-- The catalog with the parameters of an export changed. -/
def withExportParameters (s : Session) (name : String) (ps : List Parameter) : Session :=
  let inExports := modifyFirst (fun e : Export => e.name == name)
    fun e => { e with parameters := ps }
  let inModule := modifyFirst (fun m : Module => m.exports.any fun e => e.name == name)
    fun m => { m with exports := inExports m.exports }
  { s with catalog := { s.catalog with modules := inModule s.catalog.modules } }

/-- Sets the parameters of an export, which stay set, and calls it. -/
def runExport (s : Session) (name : String) (values : List (String × String)) :
    Except ModuleError Unit × Session :=
  match s.export? name with
  | none => (.error .noSource, s)
  | some e =>
    match setParameters s.world.store e.parameters values with
    | .error error => (.error error, s)
    | .ok ps =>
      let s := s.withExportParameters name ps
      let (r, world) := e.run ps s.world
      (r, { s with world })

end Session

end Stocktake
