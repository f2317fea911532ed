import Stocktake.Text.Blank
import Stocktake.Text.Quoted
import Stocktake.Toml.Value

/-!
# Manifests

What a manifest of type `query` says: the views and filters of a module, with the queries behind
them.  Entries are looked at in the order of their keys, and the first one of a wrong type counts;
after that, the first one that is missing.
-/

namespace Stocktake

/-- A view as a manifest describes it. -/
structure ViewSpec where
  name : String
  description : String := ""
  query : String
  /-- The variable that is displayed. -/
  label : String := "label"
  /-- The variable that names the subject. -/
  resource : Option String := none
  columns : List String := []
  deriving DecidableEq, Repr

/-- A filter as a manifest describes it. -/
structure FilterSpec where
  key : String
  name : String
  description : String := ""
  ask : String
  deriving DecidableEq, Repr

/-- A module as a manifest describes it. -/
structure Manifest where
  name : String
  description : String := ""
  views : List ViewSpec := []
  filters : List FilterSpec := []
  deriving DecidableEq, Repr

namespace Manifest

/-- Why a value does not fit. -/
inductive Fault
  | wrongType (found : Toml) (expected : String)
  | missing (field : String)
  | tooShort (count : Nat) (expected : String)
  | tooLong (count : Nat)
  | blankName

/-- What a value is called. -/
def describe : Toml → String
  | .string s => "string " ++ Text.quoted s
  | .datetime s => "string " ++ Text.quoted s
  | .integer n => "integer `" ++ toString n ++ "`"
  | .float x => "floating point `" ++ x.textWithPoint ++ "`"
  | .boolean b => "boolean `" ++ toString b ++ "`"
  | .array _ => "sequence"
  | .table _ => "map"

/-- The text of a fault. -/
def Fault.message : Fault → String
  | .wrongType found expected => "invalid type: " ++ describe found ++ ", expected " ++ expected
  | .missing field => "missing field `" ++ field ++ "`"
  | .tooShort count expected => "invalid length " ++ toString count ++ ", expected " ++ expected
  | .tooLong count => "invalid length " ++ toString count ++ ", expected fewer elements in array"
  | .blankName => "name must not be empty"

/-- A text.  A date counts as its text. -/
def text : Toml → Except Fault String
  | .string s => .ok s
  | .datetime s => .ok s
  | v => .error (.wrongType v "a string")

/-- A sequence. -/
def sequence {α : Type} (item : Toml → Except Fault α) : Toml → Except Fault (List α)
  | .array xs => xs.mapM item
  | v => .error (.wrongType v "a sequence")

/-- What is under a key, if it is there. -/
def optional {α : Type} (entries : List (String × Toml)) (key : String)
    (decode : Toml → Except Fault α) : Except Fault (Option α) :=
  match Toml.find? key entries with
  | none => .ok none
  | some v => (decode v).map some

/-- What has to be there. -/
def required {α : Type} (key : String) : Option α → Except Fault α
  | some a => .ok a
  | none => .error (.missing key)

/-- The item at a position of a sequence, if it is there. -/
def positional {α : Type} (items : List Toml) (i : Nat) (decode : Toml → Except Fault α) :
    Except Fault (Option α) :=
  match items[i]? with
  | none => .ok none
  | some v => (decode v).map some

/-- The item at a position of a sequence that has to be there. -/
def positionalRequired {α : Type} (items : List Toml) (i : Nat) (expected : String)
    (decode : Toml → Except Fault α) : Except Fault α :=
  match items[i]? with
  | none => .error (.tooShort i expected)
  | some v => decode v

/-- A view: a table, or its fields in order. -/
def view : Toml → Except Fault ViewSpec
  | .table entries => do
    let columns ← optional entries "columns" (sequence text)
    let description ← optional entries "description" text
    let label ← optional entries "label" text
    let name ← optional entries "name" text
    let query ← optional entries "query" text
    let resource ← optional entries "resource" text
    let name ← required "name" name
    let query ← required "query" query
    pure ⟨name, description.getD "", query, label.getD "label", resource, columns.getD []⟩
  | .array items => do
    let expected := "struct QueryView with 6 elements"
    let name ← positionalRequired items 0 expected text
    let description ← positional items 1 text
    let query ← positionalRequired items 2 expected text
    let label ← positional items 3 text
    let resource ← positionalRequired items 4 expected text
    let columns ← positional items 5 (sequence text)
    if 6 < items.length then throw (.tooLong items.length)
    pure ⟨name, description.getD "", query, label.getD "label", some resource, columns.getD []⟩
  | v => .error (.wrongType v "struct QueryView")

/-- A filter: a table, or its fields in order. -/
def filter : Toml → Except Fault FilterSpec
  | .table entries => do
    let ask ← optional entries "ask" text
    let description ← optional entries "description" text
    let key ← optional entries "key" text
    let name ← optional entries "name" text
    let key ← required "key" key
    let name ← required "name" name
    let ask ← required "ask" ask
    pure ⟨key, name, description.getD "", ask⟩
  | .array items => do
    let expected := "struct QueryFilter with 4 elements"
    let key ← positionalRequired items 0 expected text
    let name ← positionalRequired items 1 expected text
    let description ← positional items 2 text
    let ask ← positionalRequired items 3 expected text
    if 4 < items.length then throw (.tooLong items.length)
    pure ⟨key, name, description.getD "", ask⟩
  | v => .error (.wrongType v "struct QueryFilter")

/-- The manifest that the entries of a document make. -/
def ofEntries (entries : List (String × Toml)) : Except Fault Manifest := do
  let description ← optional entries "description" text
  let filters ← optional entries "filters" (sequence filter)
  let views ← optional entries "interactive" (sequence view)
  let name ← optional entries "name" text
  let name ← required "name" name
  if Text.isAllBlank name then throw .blankName
  pure ⟨name, description.getD "", views.getD [], filters.getD []⟩

end Manifest

end Stocktake
