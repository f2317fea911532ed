import Stocktake.Files
import Stocktake.Module.Basic
import Stocktake.Module.Rows
import Stocktake.Plugin.Manifest
import Stocktake.Toml.Reader

/-!
# Plugins

Modules out of the manifests in a directory.  The type that a manifest names decides what makes its
module.  A manifest that gives no module is passed over.
-/

namespace Stocktake

/-- Why no module was made of a manifest. -/
inductive MakingFault
  | refused (reason : String)
  | panicked (reason : String)
  deriving DecidableEq, Repr

/-- What makes modules of the entries of manifests. -/
abbrev PluginMaker := List (String × Toml) → Except MakingFault Module

/-- What makes modules, by the type of the manifest. -/
abbrev PluginTypes := Dict PluginMaker

/-- The view that a manifest describes. -/
def ViewSpec.view (hiddenTag : String) (s : ViewSpec) : View where
  name := s.name
  description := s.description
  shapes := [.list, .table]
  actions := Action.standard hiddenTag
  produce store cache shape :=
    (store.select s.query).map fun rows =>
      let ds := rowDrafts s.label s.resource rows
      match shape with
      | .table => issueTable cache (if s.columns.isEmpty then none else some s.columns) ds
      | _ => issueList cache ds

/-- The filter that a manifest describes. -/
def FilterSpec.factory (s : FilterSpec) : DecideFactory :=
  .askTemplate s.key s.name s.description s.ask

/-- The module that a manifest describes. -/
def Manifest.module (hiddenTag : String) (m : Manifest) : Module where
  name := m.name
  description := m.description
  views := m.views.map (ViewSpec.view hiddenTag)
  filters := m.filters.map FilterSpec.factory

/-- What makes modules of manifests of type `query`. -/
def queryMaker (hiddenTag : String) : PluginMaker := fun entries =>
  match Manifest.ofEntries entries with
  | .ok m => .ok (m.module hiddenTag)
  | .error fault => .error (.refused fault.message)

/-- The types that are known without registration. -/
def PluginTypes.standard (hiddenTag : String) : PluginTypes :=
  Dict.empty.insert "query" (queryMaker hiddenTag)

/-- The module of a text that was read as a manifest. -/
def loadText (types : PluginTypes) (text : String) : Except PluginError Module :=
  match Toml.read .v10 text with
  | none => .error .parse
  | some entries =>
    match (Toml.find? "type" entries).bind Toml.string? with
    | none => .error .missingType
    | some kind =>
      match types.get? kind with
      | none => .error (.unknownType kind)
      | some maker =>
        match maker entries with
        | .ok m => .ok m
        | .error (.refused reason) => .error (.invalidManifest reason)
        | .error (.panicked reason) => .error (.constructorPanicked kind reason)

/-- The module of the octets of a manifest. -/
def loadManifest (types : PluginTypes) (octets : List UInt8) : Except PluginError Module :=
  match Text.decode? octets with
  | none => .error .read
  | some text => loadText types text

/-- Whether a file name is that of a fragment of a manifest: it spells a text that starts with an
    underscore. -/
def isFragment (name : FileName) : Bool :=
  (Text.decode? name).any fun text => text.toList.head? == some '_'

/-- Whether a file name is that of a manifest: it ends in `.toml` after something else, and is not that
    of a fragment. -/
def isCandidate (name : FileName) : Bool :=
  let ending := Text.octets ".toml"
  ending.length < name.length && name.drop (name.length - ending.length) == ending &&
    !isFragment name

/-- The manifests of a directory in the order of a walk through it. -/
def candidates (directory : FileTree) : List (List UInt8) :=
  ((directory.walk []).filter fun f => isCandidate (f.1.getLast?.getD [])).map Prod.snd

/-- The modules of the manifests in a directory. -/
def loadModules (types : PluginTypes) (directory : FileTree) : List Module :=
  (candidates directory).filterMap fun octets => (loadManifest types octets).toOption

/-- The loader of the manifests in a directory. -/
def pluginLoader (directory : FileTree) : Loader := fun hiddenTag =>
  loadModules (.standard hiddenTag) directory

/-- The modules of the manifests in the directory at a path, which is made if it is not there. -/
def loadFrom (types : PluginTypes) (here : List FileName) (path : String) (files : FileTree) :
    List Module × FileTree :=
  if path = "" then ([], files)
  else
    match files.openDirectory here path with
    | (none, files) => ([], files)
    | (some directory, files) => (loadModules types directory, files)

end Stocktake
