import Stocktake.Action.Standard
import Stocktake.Container.Basic
import Stocktake.Filter.Factory

/-!
# Modules

A module bundles views on the store, imports into it, exports out of it, and factories of filters.
-/

namespace Stocktake

/-- Something that gives containers of some shapes, and the actions on what it gives. -/
structure View where
  name : String
  description : String
  shapes : List Shape
  actions : List (Action World)
  produce : Store → TagCache → Shape → Except StoreError (Container × TagCache)

namespace View

/-- The data of a view; only the shapes that it lists can be had. -/
def data (v : View) (store : Store) (cache : TagCache) (shape : Shape) :
    Except ModuleError (Container × TagCache) :=
  if v.shapes.contains shape then (v.produce store cache shape).mapError .store
  else .error (.unsupportedShape v.name shape)

theorem data_of_produce {v : View} {store : Store} {cache : TagCache} {shape : Shape}
    {c : Container × TagCache} (hshape : v.shapes.contains shape = true)
    (h : v.produce store cache shape = .ok c) : v.data store cache shape = .ok c := by
  rw [data, if_pos hshape, h]
  rfl

/-- A view with one more action. -/
def withAction (v : View) (a : Action World) : View := { v with actions := v.actions ++ [a] }

end View

/-- The result of a list of drafts. -/
def issueList (cache : TagCache) (ds : List Draft) : Container × TagCache :=
  let (rs, cache) := Draft.issueAll cache ds
  (.list rs, cache)

/-- The result of a table of drafts. -/
def issueTable (cache : TagCache) (columns : Option (List String)) (ds : List Draft) :
    Container × TagCache :=
  let (rs, cache) := Draft.issueAll cache ds
  (.table ⟨rs, columns⟩, cache)

/-- The result of a tree of drafts and records. -/
def issueContainerTree (cache : TagCache) (t : Tree (Draft ⊕ Record)) : Container × TagCache :=
  let (root, cache) := issueTree cache t
  (.tree root, cache)

/-- Brings facts from the source into the store. -/
structure Import where
  name : String
  description : String
  run : World → Except ModuleError Unit × World

/-- Writes facts from the store somewhere. -/
structure Export where
  name : String
  description : String
  parameters : List Parameter
  run : List Parameter → World → Except ModuleError Unit × World

/-- A bundle. -/
structure Module where
  name : String
  description : String
  views : List View := []
  imports : List Import := []
  exports : List Export := []
  filters : List DecideFactory := []

/-- Something that brings modules; it is told the tag that hides records. -/
abbrev Loader := String → List Module

/-- The modules at hand, and the filters that queries find. -/
structure Catalog where
  modules : List Module
  registry : Registry

namespace Catalog

/-- The catalog of modules: a factory counts over one with the same key in a module before. -/
def ofModules (modules : List Module) : Catalog where
  modules
  registry := (modules.flatMap Module.filters).foldl Registry.enterDecide .withCombinators

/-- The catalog of what loaders bring, one loader after the other. -/
def ofLoaders (hiddenTag : String) (loaders : List Loader) : Catalog :=
  .ofModules (loaders.flatMap fun load => load hiddenTag)

/-- The views of all modules. -/
def views (c : Catalog) : List View := c.modules.flatMap Module.views

/-- The imports of all modules. -/
def imports (c : Catalog) : List Import := c.modules.flatMap Module.imports

/-- The exports of all modules. -/
def exports (c : Catalog) : List Export := c.modules.flatMap Module.exports

end Catalog

end Stocktake
