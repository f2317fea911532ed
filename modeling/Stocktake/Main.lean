import Stocktake.Command.Arguments
import Stocktake.Command.Program
import Stocktake.Command.Usage

/-!
# The command line program

The thin layer around `Program.run`: it finds the user's configuration and the variables of the
environment, works on real files and prints.
-/

namespace Stocktake.Main

/-- The directory of entries, with all that is below them.  What cannot be read is empty; what is neither a
    file nor a directory, such as a link, is left out, and so is what is not found by its name. -/
partial def readEntries (entries : Array IO.FS.DirEntry) : IO FileTree := do
  let mut es := []
  for entry in entries do
    let name := Text.octets entry.fileName
    let kind ← try pure (some (← entry.path.symlinkMetadata).type) catch _ => pure none
    match kind with
    | some .dir =>
      let below ← try entry.path.readDir catch _ => pure #[]
      es := FileTree.putEntry name (← readEntries below) es
    | some .file =>
      let octets ← try IO.FS.readBinFile entry.path catch _ => pure .empty
      es := FileTree.putEntry name (.file octets.toList) es
    | _ => pure ()
  pure (.directory es)

/-- The real files. -/
def host : Host IO where
  exists? path := do
    let here ← IO.currentDir
    (here / path).pathExists
  readFile? path := do
    try
      let octets ← IO.FS.readBinFile path
      pure (some octets.toList)
    catch _ => pure none
  writeFile path octets := do
    try
      let here ← IO.currentDir
      match (here / path).parent with
      | some parent => IO.FS.createDirAll parent
      | none => pure ()
      IO.FS.writeBinFile path (ByteArray.mk octets.toArray)
      pure true
    catch _ => pure false
  openDirectory path := do
    try
      IO.FS.createDirAll path
      let here ← IO.currentDir
      let directory ← readEntries (← (here / path).readDir)
      pure (some directory)
    catch _ => pure none

/-- The variable that an entry of the environment sets. -/
def variableOf? (octets : List UInt8) : Option (String × String) :=
  (Text.decode? octets).bind fun entry => Text.cut? entry "="

/-- The entries of an environment, which end in null octets. -/
def entriesOf (octets : List UInt8) : List (List UInt8) :=
  let (last, entries) := octets.foldr
    (fun octet (entry, entries) =>
      if octet = 0 then ([], entry :: entries) else (octet :: entry, entries)) ([], [])
  last :: entries

/-- The variables of the environment. -/
def environment : IO (List (String × String)) := do
  match ← host.readFile? "/proc/self/environ" with
  | none => pure []
  | some octets => pure ((entriesOf octets).filterMap variableOf?)

/-- Where the user's configuration stands. -/
def configPath : IO (Option String) := do
  let below := fun (directory : String) =>
    some (directory ++ "/" ++ programName ++ "/config.toml")
  match ← IO.getEnv "XDG_CONFIG_HOME" with
  | some directory =>
    if Text.startsWith directory "/" then return below directory
  | none => pure ()
  match ← IO.getEnv "HOME" with
  | some home => pure (below (home ++ "/.config"))
  | none => pure none

/-- Carries out an invocation. -/
def carryOut (i : Invocation) : IO UInt32 := do
  let output ← IO.getStdout
  let s : Surroundings :=
    { configPath := ← configPath
      environment := ← environment
      terminal := ← output.isTty }
  match ← Program.run host s i with
  | .ok lines =>
    lines.forM IO.println
    if i.verbose then IO.eprintln (toString lines.length ++ " line(s) printed")
    pure 0
  | .error e =>
    IO.eprintln ("Error (" ++ e.kind ++ "): " ++ e.message)
    pure 1

/-- Carries out the words of a command line. -/
def start (words : List String) : IO UInt32 := do
  match Invocation.read words with
  | .ok i => carryOut i
  | .error fault =>
    if fault.isRequest then
      fault.answer.forM IO.println
      pure 0
    else
      IO.eprintln ("error: " ++ fault.message)
      usageLines.forM IO.eprintln
      pure 2

end Stocktake.Main

/-- The program. -/
def main (words : List String) : IO UInt32 := Stocktake.Main.start words
