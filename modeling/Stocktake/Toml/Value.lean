import Stocktake.Number.Binary64

/-!
# TOML values

The entries of a table stand in increasing order of their keys.
-/

namespace Stocktake

/-- A TOML value.  A date or time is kept as the text that it is written with. -/
inductive Toml
  | string (text : String)
  | integer (value : Int)
  | float (value : Binary64)
  | boolean (value : Bool)
  | datetime (text : String)
  | array (items : List Toml)
  | table (entries : List (String × Toml))
  deriving Inhabited, Repr

/-- The two versions of the format that are read.  The later one knows two more escapes, dates
    without seconds, and inline tables over several lines. -/
inductive TomlVersion
  | v10
  | v11
  deriving DecidableEq, Repr

namespace Toml

/-- The value under a key in entries. -/
def find? (key : String) : List (String × Toml) → Option Toml
  | [] => none
  | (k, v) :: rest => if k = key then some v else find? key rest

/-- The text of a string. -/
def string? : Toml → Option String
  | .string s => some s
  | _ => none

end Toml

end Stocktake
