import Stocktake.Container.Input
import Stocktake.Error
import Stocktake.Module.Basic
import Stocktake.Output.Lines
import Stocktake.Query.Compile
import Stocktake.Text.Octets

/-!
# What commands print

The lines of every command.  A command that fails prints nothing.
-/

namespace Stocktake

/-- The lines of a view: its name with its shapes, and its actions. -/
def View.lines (v : View) : List String :=
  ("  view    " ++ v.name ++ " (" ++ Text.join ", " (v.shapes.map Shape.text) ++ ")") ::
    v.actions.map fun a => "            action " ++ a.label

/-- The lines of a module: its name, and unless the output is quiet, what it contributes. -/
def Module.lines (l : Look) (m : Module) : List String :=
  l.heading m.name ::
    if l.quiet then []
    else
      (if m.description = "" then [] else ["  " ++ m.description])
        ++ m.views.flatMap View.lines
        ++ m.imports.map (fun i => "  import  " ++ i.name)
        ++ m.exports.map (fun e => "  export  " ++ e.name)
        ++ m.filters.map (fun f => "  filter  " ++ f.key)

/-- The lines of a catalog. -/
def Catalog.lines (l : Look) (c : Catalog) : List String :=
  if c.modules.isEmpty then (if l.quiet then [] else ["No modules loaded."])
  else c.modules.flatMap (Module.lines l)

/-- The lines of a registry: its decide factories and its combine factories, under headings unless
    the output is quiet. -/
def Registry.lines (l : Look) (r : Registry) : List String :=
  let heading := fun text => if l.quiet then [] else [l.heading text]
  heading "Decide filters:"
    ++ r.decideFactories.map (fun f => l.factoryLine f.key f.name f.description)
    ++ heading "Combine filters:"
    ++ r.combineFactories.map (fun f => l.factoryLine f.key f.name f.description)

/-- The lines about the filter of a query. -/
def checkLines (l : Look) (settings : Query.Settings) (registry : Registry) (query : String) :
    Except Error (List String) :=
  match Query.build settings registry query with
  | .error e => .error (.filter e)
  | .ok f => .ok ((if l.quiet then [] else ["Query compiles to:"]) ++ [f.describe])

/-- The lines of what is left of a container of `total` records. -/
def shownLines (l : Look) (cache : TagCache) (total : Nat) (view : Container) : List String :=
  if view.size = 0 then (if l.quiet then [] else ["No records match."])
  else
    l.lines cache view
      ++ if l.quiet then []
        else ["", toString view.size ++ " of " ++ toString total ++ " record(s) shown"]

/-- The lines of the records of a file that pass a query.  The query is read before the file. -/
def filterLines (l : Look) (settings : Query.Settings) (registry : Registry) (store : Store)
    (query : String) (shape : Shape) (input : Option (List UInt8)) : Except Error (List String) :=
  match Query.build settings registry query with
  | .error e => .error (.filter e)
  | .ok f =>
    match input.bind Text.decode? with
    | none => .error .io
    | some text =>
      match readContainer {} text shape with
      | .error e => .error (.json e)
      | .ok (c, cache) =>
        let (view, cache) := c.filtered store f cache
        .ok (shownLines l (view.refresh store cache) c.size view)

end Stocktake
