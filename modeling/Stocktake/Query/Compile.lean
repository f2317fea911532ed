import Stocktake.Filter.Factory
import Stocktake.Text.Blank
import Stocktake.Yaml.Value

/-!
# Queries

A query is a YAML text.  A string is a pattern for the default filter; a map with one key names a
filter, and the value is its pattern or the list of its parts; anything else holds of everything.
Unless told otherwise, a query also leaves out the records with the hidden tag: it is then wrapped as
`{and: [{not: [{tag: hidden}]}, query]}`.
-/

namespace Stocktake.Query

open Yaml (Value)

/-- How queries are read. -/
structure Settings where
  useWrapper : Bool := true
  hiddenTag : String := "hidden"
  defaultFilter : String := "text"
  deriving DecidableEq, Repr, Inhabited

/-- What a value is called in errors. -/
def kindName : Value → String
  | .null => "null"
  | .bool _ => "boolean"
  | .number _ => "number"
  | .string _ => "string"
  | .sequence _ => "list"
  | .mapping _ => "map"
  | .tagged _ _ => "tagged value"

/-- The value of a query text: a blank one has no query in it. -/
def readText (text : String) : Except FilterError Value :=
  if Text.isAllBlank text then .ok .null
  else
    match Yaml.read text with
    | some v => .ok v
    | none => .error (.syntactic "not a YAML document")

/-- The query that leaves out the records with the hidden tag. -/
def wrap (hiddenTag : String) (query : Value) : Value :=
  .mapping [(.string "and", .sequence [
    .mapping [(.string "not", .sequence [.mapping [(.string "tag", .string hiddenTag)]])],
    query])]

/-- The default filter for a pattern. -/
def compileDefault (registry : Registry) (defaultFilter pattern : String) :
    Except FilterError Filter :=
  match registry.decide.get? defaultFilter with
  | some factory => factory.build pattern
  | none => .error (.unknownDefaultFilter defaultFilter)

/-- The named filter for a pattern. -/
def compileDecide (registry : Registry) (name pattern : String) : Except FilterError Filter :=
  match registry.decide.get? name with
  | some factory => factory.build pattern
  | none => .error (.unknownFilter name)

/-- The named combination of filters. -/
def compileCombine (registry : Registry) (name : String) (children : List Filter) :
    Except FilterError Filter :=
  match registry.combine.get? name with
  | some factory => .ok (factory.build children)
  | none => .error (.unknownCombineFilter name)

mutual

/-- The filter of a string or a map; `none` for a value of another kind. -/
def compileItem (registry : Registry) (defaultFilter : String) :
    Value → Option (Except FilterError Filter)
  | .string pattern => some (compileDefault registry defaultFilter pattern)
  | .mapping entries => some (compileEntries registry defaultFilter entries)
  | _ => none

/-- The filter of a map. -/
def compileEntries (registry : Registry) (defaultFilter : String) :
    List (Value × Value) → Except FilterError Filter
  | [] => .error .emptyMap
  | [(.string name, value)] => compileNamed registry defaultFilter name value
  | [(key, _)] => .error (.invalidFilterName (kindName key))
  | entries => .error (.manyKeys entries.length)

/-- The filter of a name and its value. -/
def compileNamed (registry : Registry) (defaultFilter name : String) :
    Value → Except FilterError Filter
  | .string pattern => compileDecide registry name pattern
  | .sequence items =>
    match compileItems registry defaultFilter items with
    | .ok children => compileCombine registry name children
    | .error e => .error e
  | _ => .ok .all

/-- The filters of the strings and maps of a list. -/
def compileItems (registry : Registry) (defaultFilter : String) :
    List Value → Except FilterError (List Filter)
  | [] => .ok []
  | item :: rest =>
    match compileItem registry defaultFilter item with
    | none => compileItems registry defaultFilter rest
    | some (.error e) => .error e
    | some (.ok child) =>
      match compileItems registry defaultFilter rest with
      | .ok children => .ok (child :: children)
      | .error e => .error e

end

/-- The filter of a whole query. -/
def compileRoot (registry : Registry) (defaultFilter : String) (query : Value) :
    Except FilterError Filter :=
  (compileItem registry defaultFilter query).getD (.ok .all)

/-- The filter of a query, wrapped if the settings say so. -/
def compile (settings : Settings) (registry : Registry) (query : Value) :
    Except FilterError Filter :=
  compileRoot registry settings.defaultFilter
    (if settings.useWrapper then wrap settings.hiddenTag query else query)

/-- The filter of a query text. -/
def build (settings : Settings) (registry : Registry) (text : String) :
    Except FilterError Filter :=
  match readText text with
  | .error e => .error e
  | .ok query => compile settings registry query

end Stocktake.Query
