/-!
# JSON values

A JSON text as a value.  The members of an object stand in the order of the text, repeated keys
included; a number is kept as it was written.
-/

namespace Stocktake

/-- A JSON value. -/
inductive Json
  | null
  | bool (value : Bool)
  | number (literal : String)
  | string (text : String)
  | array (items : List Json)
  | object (members : List (String × Json))
  deriving Inhabited, Repr

namespace Json

/-- Whether the value is null. -/
def isNull : Json → Bool
  | .null => true
  | _ => false

/-- The text of a string. -/
def string? : Json → Option String
  | .string s => some s
  | _ => none

/-- The items of an array. -/
def array? : Json → Option (List Json)
  | .array items => some items
  | _ => none

/-- The members of an object. -/
def object? : Json → Option (List (String × Json))
  | .object members => some members
  | _ => none

/-- The texts of an array of strings. -/
def strings? (j : Json) : Option (List String) := j.array?.bind fun items => items.mapM string?

/-- The members of an object whose values are all strings. -/
def stringMembers? (j : Json) : Option (List (String × String)) :=
  j.object?.bind fun members => members.mapM fun (k, v) => v.string?.map (k, ·)

end Json

/-- Why a JSON text was not taken. -/
inductive JsonError
  /-- It is no JSON, goes on after the value, is nested too deeply or holds a number too large. -/
  | syntactic
  /-- It is JSON of another form than the one expected. -/
  | data
  deriving DecidableEq, Repr

end Stocktake
