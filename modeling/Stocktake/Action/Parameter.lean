import Stocktake.Error
import Stocktake.Store.Basic
import Stocktake.Text.Blank
import Stocktake.Text.Glob

/-!
# Parameters

Inputs that an action or an export declares: a text, possibly a list or one of given choices, or the
path of a file, possibly of a given form.  A parameter that has not been set has its default.
-/

namespace Stocktake

/-- Where the suggestions for a text come from. -/
inductive Choices
  | fixed (values : List String)
  /-- The names of the tags that the store knows. -/
  | tagNames
  deriving DecidableEq, Repr

/-- The suggestions. -/
def Choices.values (store : Store) : Choices → List String
  | .fixed values => values
  | .tagNames => store.knownTagNames

/-- A parameter that is a text. -/
structure TextParameter where
  name : String
  description : String
  current : Option String := none
  fallback : Option String := none
  choices : Option Choices := none
  multiline : Bool := false
  /-- What stands between the items, if the text is a list. -/
  separator : Option String := none
  onlyChoices : Bool := false
  deriving DecidableEq, Repr, Inhabited

namespace TextParameter

/-- The text: what was set, or the default, or nothing. -/
def value (p : TextParameter) : String := (p.current.or p.fallback).getD ""

/-- The items of the text, without blanks at their ends; blank ones are left out. -/
def values (p : TextParameter) : List String :=
  let items := match p.separator with
    | some separator => Text.pieces p.value separator
    | none => [p.value]
  (items.map Text.trim).filter fun item => item != ""

/-- The texts that are suggested. -/
def suggestions (store : Store) (p : TextParameter) : List String :=
  match p.choices with
  | some choices => choices.values store
  | none => []

/-- The parameter set to a text. -/
def set (store : Store) (value : String) (p : TextParameter) : Except ModuleError TextParameter :=
  if p.onlyChoices && !(p.suggestions store).contains value then
    .error (.invalidParameter p.name ("'" ++ value ++ "' is not one of the allowed choices"))
  else .ok { p with current := some value }

/-- The parameter as if it had not been set. -/
def clear (p : TextParameter) : TextParameter := { p with current := none }

end TextParameter

/-- A parameter that is the path of a file. -/
structure FileParameter where
  name : String
  description : String
  path : Option String := none
  /-- The file is to be written, not read. -/
  saves : Bool := false
  /-- Patterns of the names that are taken; without patterns, all are. -/
  patterns : List String := []
  deriving DecidableEq, Repr, Inhabited

/-- The last part of a path, unless it leads up. -/
def fileName? (path : String) : Option String :=
  match (Text.splitAtChar '/' path.toList).filter fun part => part != [] && part != ['.'] with
  | [] => none
  | parts =>
    match parts.getLast? with
    | some ['.', '.'] => none
    | some part => some (String.ofList part)
    | none => none

namespace FileParameter

/-- Whether a path has a name of the right form. -/
def accepts (p : FileParameter) (path : String) : Bool :=
  p.patterns.isEmpty ||
    match fileName? path with
    | none => false
    | some name => p.patterns.any fun pattern => Glob.matchesText pattern name

/-- The parameter set to a path. -/
def set (path : String) (p : FileParameter) : Except ModuleError FileParameter :=
  if p.accepts path then .ok { p with path := some path }
  else
    .error (.invalidParameter p.name
      (path ++ " does not match " ++ Text.join ", " p.patterns))

end FileParameter

/-- An input. -/
inductive Parameter
  | text (parameter : TextParameter)
  | file (parameter : FileParameter)
  deriving DecidableEq, Repr

/-- How to ask for an input. -/
inductive ParameterInput
  | plain (multiline : Bool)
  | suggestions (values : List String) (list : Bool)
  | choices (values : List String)
  | file (saves : Bool) (patterns : List String)
  deriving DecidableEq, Repr

/-- A change that is asked of an input. -/
inductive ParameterEdit
  | set (value : String)
  /-- As if nothing had been set; the path of a file stays. -/
  | clear
  deriving DecidableEq, Repr

namespace Parameter

/-- The name of the input. -/
def name : Parameter → String
  | .text p => p.name
  | .file p => p.name

/-- What the input is for. -/
def description : Parameter → String
  | .text p => p.description
  | .file p => p.description

/-- How to ask for the input. -/
def input (store : Store) : Parameter → ParameterInput
  | .text p =>
    if p.onlyChoices then .choices (p.suggestions store)
    else if p.choices.isSome then .suggestions (p.suggestions store) p.separator.isSome
    else .plain p.multiline
  | .file p => .file p.saves p.patterns

/-- The input set from a text. -/
def set (store : Store) (value : String) : Parameter → Except ModuleError Parameter
  | .text p => (p.set store value).map .text
  | .file p => (p.set value).map .file

/-- Changes the input; a change that is refused leaves it as it was. -/
def edit (store : Store) : ParameterEdit → Parameter → Except ModuleError Unit × Parameter
  | .set value, p =>
    match p.set store value with
    | .ok p => (.ok (), p)
    | .error e => (.error e, p)
  | .clear, .text p => (.ok (), .text p.clear)
  | .clear, .file p => (.ok (), .file p)

/-- The input after changes in order, each made while the store is in a state of its own. -/
def editAll (p : Parameter) (edits : List (Store × ParameterEdit)) : Parameter :=
  edits.foldl (fun p x => (p.edit x.1 x.2).2) p

/-- The input as a text. -/
def displayValue : Parameter → String
  | .text p => p.value
  | .file p => p.path.getD ""

/-- The text of the parameter of that name, if it is one for a text. -/
def textNamed (name : String) (ps : List Parameter) : Option TextParameter :=
  ps.findSome? fun
    | .text p => if p.name = name then some p else none
    | .file _ => none

/-- The parameter of that name, if it is one for a file. -/
def fileNamed (name : String) (ps : List Parameter) : Option FileParameter :=
  ps.findSome? fun
    | .file p => if p.name = name then some p else none
    | .text _ => none

end Parameter

end Stocktake
