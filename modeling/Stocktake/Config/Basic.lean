import Stocktake.Number.Numeral
import Stocktake.Query.Compile
import Stocktake.Toml.Reader

/-!
# Configuration

The settings of the program: their defaults, over which a file counts, over which variables of the
environment count.  A setting that is a text takes the text of any single value; a setting that is
on or off takes numbers and some words too.
-/

namespace Stocktake

/-- The settings. -/
structure Config where
  pluginDir : String := "modules/plugins"
  hiddenTag : String := "hidden"
  useWrapper : Bool := true
  defaultFilter : String := "text"
  quiet : Bool := false
  deriving DecidableEq, Repr, Inhabited

/-- How queries are read under the settings. -/
def Config.query (c : Config) : Query.Settings := ⟨c.useWrapper, c.hiddenTag, c.defaultFilter⟩

/-- A value that a setting is given. -/
inductive ConfigValue
  | text (s : String)
  | integer (n : Int)
  | float (x : Binary64)
  | boolean (b : Bool)
  /-- Several values. -/
  | compound
  deriving Repr

namespace ConfigValue

/-- The value as a text. -/
def text? : ConfigValue → Option String
  | .text s => some s
  | .integer n => some (toString n)
  | .float x => some x.text
  | .boolean b => some (toString b)
  | .compound => none

/-- The value as on or off. -/
def boolean? : ConfigValue → Option Bool
  | .boolean b => some b
  | .integer n => some (n != 0)
  | .float x => some !x.isZero
  | .text s =>
    let word := Text.lowercase s
    if ["1", "true", "on", "yes"].contains word then some true
    else if ["0", "false", "off", "no"].contains word then some false
    else none
  | .compound => none

/-- The value of an entry of a file. -/
def ofToml : Toml → ConfigValue
  | .string s => .text s
  | .datetime s => .text s
  | .integer n => .integer n
  | .float x => .float x
  | .boolean b => .boolean b
  | .array _ => .compound
  | .table _ => .compound

/-- The value of a variable of the environment: on or off, a number, or else a text. -/
def ofVariable (s : String) : ConfigValue :=
  let word := Text.lowercase s
  if word = "true" then .boolean true
  else if word = "false" then .boolean false
  else
    match Numeral.integer? s.toList with
    | some n => .integer n
    | none =>
      match Numeral.float? s.toList with
      | some x => .float x
      | none => .text s

end ConfigValue

/-- A character of a part of a key. -/
def isConfigKeyChar (c : Char) : Bool :=
  ('A' ≤ c && c ≤ 'Z') || ('a' ≤ c && c ≤ 'z') || ('0' ≤ c && c ≤ '9') || c = '-' || c = '_'

/-- Whether the characters are steps into a value: names after dots, numbers in brackets. -/
def areSteps : (fuel : Nat) → List Char → Bool
  | 0, _ => false
  | _ + 1, [] => true
  | fuel + 1, '.' :: s =>
    !(s.takeWhile isConfigKeyChar).isEmpty && areSteps fuel (s.dropWhile isConfigKeyChar)
  | fuel + 1, '[' :: s =>
    let s := match s with
      | '-' :: s => s
      | s => s
    match s.takeWhile Numeral.isDigit, s.dropWhile Numeral.isDigit with
    | _ :: _, ']' :: rest => areSteps fuel rest
    | _, _ => false
  | _ + 1, _ :: _ => false

/-- Which setting a key gives a value to: one of that name, or a part of one. -/
def settingOf (key : String) : String × Bool :=
  let cs := key.toList
  let rest := cs.dropWhile isConfigKeyChar
  if rest.isEmpty || !areSteps (rest.length + 1) rest then (key, false)
  else (String.ofList (cs.takeWhile isConfigKeyChar), true)

/-- Values of settings. -/
abbrev ConfigLayer := Dict ConfigValue

/-- A layer with the value of a key. -/
def ConfigLayer.add (layer : ConfigLayer) (key : String) (v : ConfigValue) : ConfigLayer :=
  match settingOf key with
  | (name, false) => layer.insert name v
  | (name, true) => layer.insert name .compound

/-- The values of a file. -/
def ConfigLayer.ofEntries (entries : List (String × Toml)) : ConfigLayer :=
  entries.foldl (fun layer (key, v) => ConfigLayer.add layer key (.ofToml v)) .empty

/-- What the names of variables start with, apart from case. -/
def variableStart : String := "inventag_"

/-- A layer with the values of the variables that are meant for the program. -/
def ConfigLayer.addVariables (layer : ConfigLayer) (environment : List (String × String)) :
    ConfigLayer :=
  environment.foldl (fun layer (name, value) =>
    match Text.after? (Text.lowercase name) variableStart with
    | some key => ConfigLayer.add layer key (.ofVariable value)
    | none => layer) layer

/-- A setting that a layer may give. -/
def ConfigLayer.setting {α : Type} (layer : ConfigLayer) (key : String) (fallback : α)
    (decode : ConfigValue → Option α) : Option α :=
  match layer.get? key with
  | none => some fallback
  | some v => decode v

namespace Config

/-- The settings of a layer; `none` if a value does not fit. -/
def ofLayer (layer : ConfigLayer) : Option Config := do
  let defaults : Config := {}
  let pluginDir ← layer.setting "plugin_dir" defaults.pluginDir ConfigValue.text?
  let hiddenTag ← layer.setting "hidden_tag" defaults.hiddenTag ConfigValue.text?
  let useWrapper ← layer.setting "use_wrapper" defaults.useWrapper ConfigValue.boolean?
  let defaultFilter ← layer.setting "default_filter" defaults.defaultFilter ConfigValue.text?
  let quiet ← layer.setting "quiet" defaults.quiet ConfigValue.boolean?
  pure ⟨pluginDir, hiddenTag, useWrapper, defaultFilter, quiet⟩

/-- The settings under the octets of a file, if there is one, and variables of the environment.  What
    is no text in the file is replaced. -/
def load (file : Option (List UInt8)) (environment : List (String × String)) : Option Config := do
  let layer ← match file with
    | none => some Dict.empty
    | some octets => (Toml.read .v11 (Text.decodeLossy octets)).map ConfigLayer.ofEntries
  ofLayer (ConfigLayer.addVariables layer environment)

/-- How a character is written in a file. -/
def writeChar (c : Char) : List Char :=
  if c = '"' then ['\\', '"']
  else if c = '\\' then ['\\', '\\']
  else if c = '\n' then ['\\', 'n']
  else if c.toNat < 0x20 || c.toNat = 0x7F then
    let digits := Nat.toDigits 16 c.toNat
    ['\\', 'u'] ++ List.replicate (4 - digits.length) '0' ++ digits
  else [c]

/-- A text as it is written in a file. -/
def writeText (s : String) : String := String.ofList ('"' :: s.toList.flatMap writeChar ++ ['"'])

/-- The settings as the text of a file. -/
def write (c : Config) : String :=
  "plugin_dir = " ++ writeText c.pluginDir ++ "\n" ++
    "hidden_tag = " ++ writeText c.hiddenTag ++ "\n" ++
    "use_wrapper = " ++ toString c.useWrapper ++ "\n" ++
    "default_filter = " ++ writeText c.defaultFilter ++ "\n" ++
    "quiet = " ++ toString c.quiet ++ "\n"

end Config

end Stocktake
