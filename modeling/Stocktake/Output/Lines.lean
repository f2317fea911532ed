import Stocktake.Container.Basic
import Stocktake.Output.Paint
import Stocktake.Text.Blank

/-!
# Containers as lines

What is printed of records, tables and trees.  Where the output is quiet, only the plain values are
left.
-/

namespace Stocktake

/-- How the output is to look. -/
structure Look where
  colors : Bool := false
  quiet : Bool := false
  deriving DecidableEq, Repr, Inhabited

namespace Look

/-- A heading. -/
def heading (l : Look) (text : String) : String :=
  if l.quiet then text else paint l.colors .bold text

/-- A record with its tags. -/
def recordLine (l : Look) (r : Reading) : String :=
  if l.quiet || r.tags.isEmpty then r.display
  else r.display ++ " [" ++ paint l.colors .cyan (Text.join ", " (r.tags.map Tag.name)) ++ "]"

/-- A factory: its key, its name and what it does. -/
def factoryLine (l : Look) (key name description : String) : String :=
  if l.quiet then key
  else
    let start := "  " ++ paintPadded l.colors .green 10 key ++ " " ++ name
    if description = "" then start else start ++ ": " ++ paint l.colors .dimmed description

/-- The number of characters that the widest cell of each column takes. -/
def columnWidths (columns : List String) (rows : List (List String)) : List Nat :=
  rows.foldl (fun widths row => List.zipWith (fun w cell => max w cell.length) widths row)
    (columns.map String.length)

/-- Cells under each other: every one padded to its width, two blanks between them, and none at the
    end. -/
def alignedLine (widths : List Nat) (row : List String) : String :=
  Text.trimRight (Text.join "  " (List.zipWith padRight widths row))

/-- The lines of rows under columns. -/
def alignedLines (l : Look) (columns : List String) (rows : List (List String)) : List String :=
  let widths := columnWidths columns rows
  let body := rows.map (alignedLine widths)
  if l.quiet then body else paint l.colors .bold (alignedLine widths columns) :: body

/-- The lines of a table; without columns, those of its records. -/
def tableLines (l : Look) (cache : TagCache) (t : Table) : List String :=
  let columns := t.columns
  if columns = [] then t.records.map fun r => l.recordLine (r.read cache)
  else l.alignedLines columns (t.records.map fun r => cells columns r.fields)

/-- The lines of a tree, two blanks deeper at every level. -/
def treeLines (l : Look) (cache : TagCache) (root : Tree Record) : List String :=
  root.walk.map fun (depth, r, _) =>
    String.ofList (List.replicate (2 * depth) ' ') ++ l.recordLine (r.read cache)

/-- The lines of a container. -/
def lines (l : Look) (cache : TagCache) : Container → List String
  | .list rs => rs.map fun r => l.recordLine (r.read cache)
  | .table t => l.tableLines cache t
  | .tree root => l.treeLines cache root

end Look

end Stocktake
