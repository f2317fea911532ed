/-!
# Shapes of data
-/

namespace Stocktake

/-- What a container looks like. -/
inductive Shape
  | list
  | table
  | tree
  deriving DecidableEq, Repr, Inhabited

namespace Shape

/-- The text of a shape. -/
def text : Shape → String
  | .list => "list"
  | .table => "table"
  | .tree => "tree"

/-- All shapes. -/
def all : List Shape := [.list, .table, .tree]

/-- The shape with this very text. -/
def ofText? (s : String) : Option Shape := all.find? fun shape => shape.text == s

/-- An ASCII letter in lower case. -/
def lowerAscii (c : Char) : Char :=
  if 'A' ≤ c && c ≤ 'Z' then Char.ofNat (c.toNat + 32) else c

/-- The shape with this text, the case of ASCII letters apart. -/
def ofTextFolded? (s : String) : Option Shape := ofText? (String.ofList (s.toList.map lowerAscii))

theorem ofText?_text (shape : Shape) : ofText? shape.text = some shape := by
  cases shape <;> decide

end Shape

end Stocktake
