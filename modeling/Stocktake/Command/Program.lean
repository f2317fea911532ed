import Stocktake.Command.Lines
import Stocktake.Command.Basic
import Stocktake.Config.Basic
import Stocktake.Module.Standard
import Stocktake.Plugin.Loader

/-!
# The program

A run of the program: it reads its configuration, which it writes if there is none, loads the modules
and carries out a command.  What it needs of the machine is a `Host`, so that it runs on a `FileTree`
as well as on real files.
-/

namespace Stocktake

/-- What the program needs of the machine that it runs on. -/
structure Host (m : Type → Type) where
  /-- Whether there is something at a path. -/
  exists? : String → m Bool
  /-- The octets of the file at a path. -/
  readFile? : String → m (Option (List UInt8))
  /-- Writes a file and makes the directories that lead to it; tells whether that went well. -/
  writeFile : String → List UInt8 → m Bool
  /-- The directory at a path, which is made if it is not there. -/
  openDirectory : String → m (Option FileTree)

/-- The files of a tree as seen from one of its directories. -/
def FileTree.host (here : List FileName) : Host (StateM FileTree) where
  exists? path := do
    let root ← get
    pure ((root.resolve? here path).bind fun names => root.at? names).isSome
  readFile? path := do
    let root ← get
    pure (root.read? here path)
  writeFile path octets := do
    let root ← get
    let parent := Text.join "/" (Text.pieces path "/").dropLast
    let made := if parent = "" then root else (root.openDirectory here parent).2
    match made.write? here path octets with
    | none => pure false
    | some root =>
      set root
      pure true
  openDirectory path := do
    let root ← get
    let (opened, root) := root.openDirectory here path
    set root
    pure opened

/-- What the program is told besides the command line. -/
structure Surroundings where
  /-- The path of the user's configuration, if the user has a place for it. -/
  configPath : Option String
  /-- The variables of the environment. -/
  environment : List (String × String) := []
  /-- Whether the output goes to a terminal. -/
  terminal : Bool := false

/-- Whether a variable is set, and set to something other than nought. -/
def switchedOn? (environment : List (String × String)) (name : String) : Option Bool :=
  (environment.find? fun x => x.1 == name).map fun x => x.2 != "0"

/-- Whether the output is to be painted: always, never, or on a terminal. -/
def Surroundings.colors (s : Surroundings) : Bool :=
  if switchedOn? s.environment "CLICOLOR_FORCE" = some true then true
  else if (switchedOn? s.environment "NO_COLOR").isSome then false
  else (switchedOn? s.environment "CLICOLOR").getD true && s.terminal

namespace Program

variable {m : Type → Type} [Monad m]

/-- The configuration, which is written with the defaults first if there is no file. -/
def configuration (host : Host m) (s : Surroundings) : m (Option Config) := do
  match s.configPath with
  | none => pure none
  | some path =>
    let found ← host.exists? path
    let written ← if found then pure true else host.writeFile path (Text.octets (Config.write {}))
    if !written then pure none
    else
      let octets ← host.readFile? path
      pure (Config.load octets s.environment)

/-- The catalog of the standard modules and of those that manifests describe. -/
def catalog (host : Host m) (config : Config) : m Catalog := do
  let directory ←
    if config.pluginDir = "" then pure none else host.openDirectory config.pluginDir
  pure (.ofLoaders config.hiddenTag (standardModules :: directory.toList.map pluginLoader))

/-- The settings of queries, where the wrapper can be left out. -/
def settings (config : Config) (noWrapper : Bool) : Query.Settings :=
  { config.query with useWrapper := config.useWrapper && !noWrapper }

/-- The lines of a command. -/
def carryOut (host : Host m) (l : Look) (config : Config) (c : Catalog) :
    Command → m (Except Error (List String))
  | .modules => pure (.ok (c.lines l))
  | .filters => pure (.ok (c.registry.lines l))
  | .check query noWrapper => pure (checkLines l (settings config noWrapper) c.registry query)
  | .filter query input shape noWrapper => do
    let content ← host.readFile? input
    pure (filterLines l (settings config noWrapper) c.registry .offline query shape content)

/-- The lines that the program prints. -/
def run (host : Host m) (s : Surroundings) (i : Invocation) : m (Except Error (List String)) := do
  match ← configuration host s with
  | none => pure (.error .config)
  | some config =>
    let config := { config with pluginDir := i.pluginDir.getD config.pluginDir }
    let c ← catalog host config
    carryOut host ⟨s.colors, i.quiet || config.quiet⟩ config c i.command

end Program

end Stocktake
