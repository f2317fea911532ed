import Stocktake.Error
import Stocktake.Files
import Stocktake.Number.Binary64
import Stocktake.Record.Basic

/-!
# The surroundings of actions, imports and exports

The store, the tags last seen, the source of data, the clipboard and the files, together with what
has been asked of the store, told to the listeners, and reported as progress.
-/

namespace Stocktake

/-- What listeners are told. -/
inductive Notice
  | tagsChanged (count : Nat)
  | imported (submodule : String)
  | exported (submodule : String)
  deriving DecidableEq, Repr

/-- How far a long task has come. -/
structure Report where
  fraction : Binary64 := .zero
  message : String := ""
  deriving DecidableEq, Repr

instance : Inhabited Report := ⟨{}⟩

/-- A report of a fraction, which is brought between zero and one. -/
def Report.clamped (fraction : Binary64) (message : String) : Report :=
  ⟨fraction.clampUnit, message⟩

/-- A report that `done` of `total` steps are done. -/
def Report.steps (done total : Nat) (message : String) : Report :=
  .clamped (.ofQuotient false done total) message

/-- Where copied text goes. -/
structure Clipboard where
  /-- Why the clipboard takes nothing, if it does not. -/
  refusal : Option String := none
  text : Option String := none
  deriving DecidableEq, Repr, Inhabited

/-- A clipboard that is not there. -/
def Clipboard.absent : Clipboard := { refusal := some "built without clipboard support" }

/-- A source of data: what comes of commands. -/
structure Source where
  run : String → Except SourceError String

/-- The source that has a table of outputs; a command that is not in it fails. -/
def Source.ofOutputs (outputs : Dict String) : Source where
  run command :=
    match outputs.get? command with
    | some output => .ok output
    | none => .error (.failed command (some 127) "unknown command")

instance : Coe (Dict String) Source := ⟨Source.ofOutputs⟩

/-- The surroundings. -/
structure World where
  store : Store := {}
  cache : TagCache := {}
  source : Option Source := none
  clipboard : Clipboard := {}
  files : FileTree := .emptyDirectory
  /-- Where relative paths start. -/
  workingDirectory : List FileName := []
  /-- Writes asked of the store, in order, refused ones included. -/
  writes : List Write := []
  notices : List Notice := []
  reports : List Report := []

instance : Inhabited World := ⟨{}⟩

namespace World

/-- Asks one write of the store. -/
def write (w : World) (x : Write) : Except StoreError Unit × World :=
  let w := { w with writes := w.writes ++ [x] }
  match w.store.write x with
  | .ok store => (.ok (), { w with store })
  | .error e => (.error e, w)

/-- Asks for writes in order, up to the first one that is refused. -/
def writeAll : List Write → World → Except StoreError Unit × World
  | [], w => (.ok (), w)
  | x :: rest, w =>
    match w.write x with
    | (.ok (), w) => writeAll rest w
    | (.error e, w) => (.error e, w)

/-- Does something while the store is in a batch. -/
def inBatch {α : Type} (body : World → α × World) (w : World) : α × World :=
  let (a, w) := body (w.write (.batch true)).2
  (a, (w.write (.batch false)).2)

/-- Tells the listeners. -/
def post (w : World) (n : Notice) : World := { w with notices := w.notices ++ [n] }

/-- Reports progress. -/
def report (w : World) (r : Report) : World := { w with reports := w.reports ++ [r] }

/-- Puts a text on the clipboard. -/
def copy (w : World) (text : String) : Except ModuleError Unit × World :=
  match w.clipboard.refusal with
  | some reason => (.error (.clipboard reason), w)
  | none => (.ok (), { w with clipboard := { w.clipboard with text := some text } })

/-- Looks up the tags of a record. -/
def refresh (w : World) (r : Record) : World := { w with cache := r.refresh w.store w.cache }

/-- The output of a command of the active source. -/
def command (w : World) (text : String) : Except ModuleError String :=
  match w.source with
  | none => .error .noSource
  | some source => (source.run text).mapError .source

end World

end Stocktake
