import Stocktake.Json.Reader
import Stocktake.Tag

/-!
# Tags written as JSON

A tag is an object with a text `name` and possibly a text `detail`, or an array of these two in this
order, of which the second may be missing.
-/

namespace Stocktake.Tag

/-- The members of an object, of which `name` and `detail` may not come twice and others do not
    count. -/
def ofMembers? : (name detail : Option String) → List (String × Json) → Option Tag
  | name, detail, [] => name.map fun name => { name, detail := detail.getD "" }
  | name, detail, (key, value) :: rest =>
    if key = "name" then
      match name, value with
      | none, .string s => ofMembers? (some s) detail rest
      | _, _ => none
    else if key = "detail" then
      match detail, value with
      | none, .string s => ofMembers? name (some s) rest
      | _, _ => none
    else ofMembers? name detail rest

/-- The tag that a value stands for. -/
def ofJson? : Json → Option Tag
  | .object members => ofMembers? none none members
  | .array [.string name] => some { name }
  | .array [.string name, .string detail] => some { name, detail }
  | _ => none

/-- The tag in a text. -/
def readJson (text : String) : Except JsonError Tag := Json.readAs ofJson? text

end Stocktake.Tag
