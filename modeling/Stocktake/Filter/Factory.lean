import Stocktake.Dict
import Stocktake.Filter.Basic
import Stocktake.Filter.Error

/-!
# Factories of filters and their registry

A decide factory makes a filter of a pattern, a combine factory one of filters.  A registry finds
either by its key; under every key the last factory entered counts, and a listing goes by the keys.
-/

namespace Stocktake

/-- Makes filters of patterns. -/
structure DecideFactory where
  key : String
  name : String
  description : String
  build : String → Except FilterError Filter

/-- Makes filters of filters. -/
structure CombineFactory where
  key : String
  name : String
  description : String
  build : List Filter → Filter

namespace DecideFactory

/-- The display or a field contains the pattern. -/
def text : DecideFactory where
  key := "text"
  name := "Text"
  description := "Display string or any field contains the pattern (case-insensitive)"
  build pattern := .ok (.text pattern)

/-- The display contains the pattern. -/
def displayName : DecideFactory where
  key := "name"
  name := "Name"
  description := "Display string contains the pattern (case-insensitive)"
  build pattern := .ok (.name pattern)

/-- A tag has this name. -/
def tag : DecideFactory where
  key := "tag"
  name := "Tag"
  description := "Carries a tag with exactly this name; an empty name matches everything"
  build pattern := .ok (.tag pattern)

/-- The pattern is an expression that occurs in the display. -/
def regex : DecideFactory where
  key := "regex"
  name := "Regular expression"
  description := "Display string matches the regular expression"
  build pattern :=
    match Regex.Pattern.parse? pattern with
    | some p => .ok (.regex p)
    | none => .error (.invalidPattern "regex" "not a regular expression")

/-- The record refers to this subject. -/
def uri : DecideFactory where
  key := "uri"
  name := "URI"
  description := "Backed by the store subject with exactly this URI"
  build pattern := .ok (.uri pattern)

/-- The pattern is a query that holds of the subject. -/
def ask (key name description : String) : DecideFactory where
  key := key
  name := name
  description := description
  build pattern := .ok (.ask key pattern)

/-- The template of a query with the pattern as a literal in it. -/
def fillTemplate (template pattern : String) : String :=
  Text.replace template Vocabulary.patternPlaceholder (Vocabulary.literal pattern)

/-- A fixed query, into which the pattern is put as a literal, holds of the subject. -/
def askTemplate (key name description template : String) : DecideFactory where
  key := key
  name := name
  description := description
  build pattern := .ok (.ask key (fillTemplate template pattern))

end DecideFactory

namespace CombineFactory

/-- Every child holds. -/
def and : CombineFactory := ⟨"and", "And", "Every child filter matches", .and⟩

/-- Some child holds. -/
def or : CombineFactory := ⟨"or", "Or", "At least one child filter matches", .or⟩

/-- The first child does not hold. -/
def not : CombineFactory := ⟨"not", "Not", "The first child filter does not match", .not⟩

/-- The three combinators. -/
def standard : List CombineFactory := [and, or, not]

end CombineFactory

/-- Factories by their keys. -/
structure Registry where
  decide : Dict DecideFactory := .empty
  combine : Dict CombineFactory := .empty

instance : Inhabited Registry := ⟨{}⟩

namespace Registry

/-- Enters a decide factory under its key. -/
def enterDecide (r : Registry) (f : DecideFactory) : Registry :=
  { r with decide := r.decide.insert f.key f }

/-- Enters a combine factory under its key. -/
def enterCombine (r : Registry) (f : CombineFactory) : Registry :=
  { r with combine := r.combine.insert f.key f }

/-- The registry with the three combinators. -/
def withCombinators : Registry := CombineFactory.standard.foldl enterCombine {}

/-- The decide factories in the order of their keys. -/
def decideFactories (r : Registry) : List DecideFactory := r.decide.values

/-- The combine factories in the order of their keys. -/
def combineFactories (r : Registry) : List CombineFactory := r.combine.values

end Registry

end Stocktake
