import Stocktake.Container.Shape

/-!
# Commands

What the program can be asked to do.
-/

namespace Stocktake

/-- A command. -/
inductive Command
  /-- Lists the modules with what they contribute. -/
  | modules
  /-- Lists the filters. -/
  | filters
  /-- Shows the filter of a query. -/
  | check (query : String) (noWrapper : Bool)
  /-- Shows the records of a file that pass a query. -/
  | filter (query input : String) (shape : Shape) (noWrapper : Bool)
  deriving DecidableEq, Repr

/-- A command with the settings that the command line changes. -/
structure Invocation where
  command : Command
  quiet : Bool := false
  verbose : Bool := false
  pluginDir : Option String := none
  deriving DecidableEq, Repr

end Stocktake
