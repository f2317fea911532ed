/-!
# Errors of queries
-/

namespace Stocktake

/-- Why a query gives no filter. -/
inductive FilterError
  | syntactic (reason : String)
  | unknownFilter (name : String)
  | unknownCombineFilter (name : String)
  | unknownDefaultFilter (name : String)
  /-- A filter is named by something of this kind and not by a string. -/
  | invalidFilterName (kind : String)
  /-- A map that stands for a filter has no or several keys. -/
  | malformedNode (reason : String)
  | invalidPattern (filter reason : String)
  deriving DecidableEq, Repr

/-- The error of a map without keys. -/
def FilterError.emptyMap : FilterError := .malformedNode "empty filter map"

/-- The error of a map with several keys. -/
def FilterError.manyKeys (count : Nat) : FilterError :=
  .malformedNode ("expected exactly one filter name per map, got " ++ toString count)

/-- The text of an error. -/
def FilterError.message : FilterError → String
  | .syntactic reason => "An error occurred while parsing the query: " ++ reason
  | .unknownFilter name => "Filter '" ++ name ++ "' is unknown"
  | .unknownCombineFilter name => "Combine filter '" ++ name ++ "' is unknown"
  | .unknownDefaultFilter name => "Default filter '" ++ name ++ "' is unknown"
  | .invalidFilterName kind => "Any filter name must be a string, got " ++ kind ++ " instead"
  | .malformedNode reason => "Malformed filter: " ++ reason
  | .invalidPattern filter reason => "Invalid pattern for filter '" ++ filter ++ "': " ++ reason

/-- The kind of an error in a word. -/
def FilterError.kind : FilterError → String
  | .syntactic _ => "Syntax"
  | .unknownFilter _ => "UnknownFilter"
  | .unknownCombineFilter _ => "UnknownCombineFilter"
  | .unknownDefaultFilter _ => "UnknownDefaultFilter"
  | .invalidFilterName _ => "InvalidFilterName"
  | .malformedNode _ => "MalformedNode"
  | .invalidPattern .. => "InvalidPattern"

end Stocktake
