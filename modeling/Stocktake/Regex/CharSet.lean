import Stocktake.Regex.CategoryTable
import Stocktake.Regex.FoldTable
import Stocktake.Regex.PropertyTable
import Stocktake.Regex.ScriptTable
import Stocktake.Text.Blank
import Stocktake.Text.Lowercase

/-!
# Sets of characters

What one character of a text is tested for: ranges of code points, sets of the Unicode character
database, and Boolean combinations of both.  A set may be closed under simple case folding.
-/

namespace Stocktake.Regex

/-- A set of code points. -/
inductive CharSet
  | ranges (ranges : List (Nat × Nat))
  | union (a b : CharSet)
  | inter (a b : CharSet)
  | diff (a b : CharSet)
  | symmDiff (a b : CharSet)
  | compl (a : CharSet)
  /-- The set with all case variants of its members; with `ascii`, of the letters of ASCII only. -/
  | folded (ascii : Bool) (a : CharSet)
  deriving Repr, Inhabited

/-- The first of the case variants of a code point. -/
def foldedCode (n : Nat) : List (Nat × Nat × Nat × Nat) → Nat
  | [] => n
  | (first, last, step, distance) :: runs =>
    if first ≤ n && n ≤ last && (n - first) % step = 0 then n - distance
    else foldedCode n runs

/-- The code points of runs that are folded to `m`. -/
def codesFoldedTo (m : Nat) : List (Nat × Nat × Nat × Nat) → List Nat
  | [] => []
  | (first, last, step, distance) :: runs =>
    let n := m + distance
    let rest := codesFoldedTo m runs
    if first ≤ n && n ≤ last && (n - first) % step = 0 then n :: rest else rest

/-- All code points that differ from `n` in case only, with `n` itself. -/
def caseVariants (ascii : Bool) (n : Nat) : List Nat :=
  if ascii then
    if 0x41 ≤ n && n ≤ 0x5A then [n, n + 32]
    else if 0x61 ≤ n && n ≤ 0x7A then [n, n - 32]
    else [n]
  else
    let m := foldedCode n foldRuns
    m :: codesFoldedTo m foldRuns

namespace CharSet

/-- Whether a code point is in a set. -/
def mem : CharSet → Nat → Bool
  | .ranges rs, n => Text.inRanges rs n
  | .union a b, n => a.mem n || b.mem n
  | .inter a b, n => a.mem n && b.mem n
  | .diff a b, n => a.mem n && !b.mem n
  | .symmDiff a b, n => a.mem n != b.mem n
  | .compl a, n => !a.mem n
  | .folded ascii a, n => (caseVariants ascii n).any a.mem

/-- The empty set. -/
def empty : CharSet := .ranges []

/-- The set of one character. -/
def single (c : Char) : CharSet := .ranges [(c.toNat, c.toNat)]

/-- The set of all characters. -/
def all : CharSet := .ranges [(0, 0x10FFFF)]

/-- Whether a set of octets has no member outside of ASCII. -/
def isAscii (a : CharSet) : Bool := (List.range 128).all fun i => !a.mem (i + 128)

end CharSet

/-- The value of a digit in base 36. -/
def base36? (c : Char) : Option Nat :=
  if '0' ≤ c && c ≤ '9' then some (c.toNat - '0'.toNat)
  else if 'a' ≤ c && c ≤ 'z' then some (c.toNat - 'a'.toNat + 10)
  else none

/-- Reads ranges as the tables hold them: `pos` is the end of the range before, `gap` and `more` are
    the numbers read so far of the current one, and `counting` tells which of them goes on. -/
def decodeRanges (pos gap more : Nat) (counting : Bool) : List Char → List (Nat × Nat)
  | [] => [(pos + gap, pos + gap + more)]
  | c :: s =>
    if c = ' ' then (pos + gap, pos + gap + more) :: decodeRanges (pos + gap + more + 1) 0 0 false s
    else if c = '-' then decodeRanges pos gap more true s
    else
      let d := (base36? c).getD 0
      if counting then decodeRanges pos gap (more * 36 + d) counting s
      else decodeRanges pos (gap * 36 + d) more counting s

/-- The set that a table has under a name. -/
def findIn? (table : List (String × String)) (name : String) : Option CharSet :=
  (table.find? fun (names, _) => (names.splitOn " ").contains name).map fun (_, data) =>
    .ranges (decodeRanges 0 0 0 false data.toList)

/-- The union of the categories with the given names. -/
def categories (names : List String) : CharSet :=
  names.foldl (fun a name => a.union ((findIn? categoryTable name).getD .empty)) .empty

/-- The general category with a normalized name. -/
def category? (name : String) : Option CharSet :=
  let isOne (names : List String) : Bool := names.contains name
  if isOne ["any"] then some .all
  else if isOne ["ascii"] then some (.ranges [(0, 0x7F)])
  else if isOne ["assigned"] then some (.compl (categories ["cn"]))
  else if isOne ["l", "letter"] then some (categories ["ll", "lm", "lo", "lt", "lu"])
  else if isOne ["lc", "casedletter"] then some (categories ["ll", "lt", "lu"])
  else if isOne ["m", "mark", "combiningmark"] then some (categories ["mc", "me", "mn"])
  else if isOne ["n", "number"] then some (categories ["nd", "nl", "no"])
  else if isOne ["p", "punctuation", "punct"] then
    some (categories ["pc", "pd", "pe", "pf", "pi", "po", "ps"])
  else if isOne ["s", "symbol"] then some (categories ["sc", "sk", "sm", "so"])
  else if isOne ["z", "separator"] then some (categories ["zl", "zp", "zs"])
  else if isOne ["c", "other"] then some (categories ["cc", "cf", "cn", "co"])
  else findIn? categoryTable name

/-- A property, category or script name without case, spaces, dashes, underscores and a leading
    `is`. -/
def normalizedName (name : List Char) : String :=
  let (leading, rest) :=
    match name with
    | i :: s :: rest =>
      if i.toLower = 'i' && s.toLower = 's' then (true, rest) else (false, name)
    | _ => (false, name)
  let kept := (rest.filter fun c => c.toNat < 128 && c != ' ' && c != '_' && c != '-').map Char.toLower
  if leading && kept = ['c'] then "isc" else String.ofList kept

/-- The names of properties that are no sets of characters. -/
def otherPropertyNames : List String := [
  "age", "bc", "bidiclass", "blk", "block", "bmg", "bidimirroringglyph", "bpb",
  "bidipairedbracket", "bpt", "bidipairedbrackettype", "ccc", "canonicalcombiningclass",
  "casefolding", "cjkaccountingnumeric", "dm", "decompositionmapping", "dt",
  "decompositiontype", "ea", "eastasianwidth", "fcnfkc", "fcnfkcclosure", "gc",
  "generalcategory", "gcb", "graphemeclusterbreak", "hst", "hangulsyllabletype", "incb",
  "indicconjunctbreak", "inpc", "indicpositionalcategory", "insc", "indicsyllabiccategory",
  "isc", "isocomment", "jamoshortname", "jsn", "jg", "joininggroup", "jt", "joiningtype", "lb",
  "linebreak", "lowercasemapping", "na", "name", "na1", "unicode1name", "namealias",
  "nfcqc", "nfcquickcheck", "nfdqc", "nfdquickcheck", "nfkccf", "nfkccasefold", "nfkcqc",
  "nfkcquickcheck", "nfkdqc", "nfkdquickcheck", "nt", "numerictype", "nv", "numericvalue",
  "sb", "sentencebreak", "scf", "simplecasefolding", "scx", "scriptextensions", "script",
  "slc", "simplelowercasemapping", "stc", "simpletitlecasemapping", "suc",
  "simpleuppercasemapping", "tc", "titlecasemapping", "uc", "uppercasemapping", "vo",
  "verticalorientation", "wb", "wordbreak"]

/-- The set with a name that stands alone: a binary property, a category or a script.  Three short
    names are categories although a property has them too. -/
def namedSet? (name : List Char) : Option CharSet :=
  let name := normalizedName name
  let isCategory := name = "cf" || name = "sc" || name = "lc"
  let property := if isCategory then none else findIn? propertyTable name
  match property with
  | some a => some a
  | none =>
    if !isCategory && otherPropertyNames.contains name then none
    else
      match category? name with
      | some a => some a
      | none => findIn? scriptTable name

/-- The set of the characters for which a property has a value. -/
def valuedSet? (property value : List Char) : Option CharSet :=
  let property := normalizedName property
  let value := normalizedName value
  if property = "gc" || property = "generalcategory" then category? value
  else if property = "sc" || property = "script" then findIn? scriptTable value
  else if property = "scx" || property = "scriptextensions" then
    match findIn? scriptExtensionTable value with
    | some a => some a
    | none => findIn? scriptTable value
  else none

/-- Letters as names of groups may have them. -/
def isAlphabetic (c : Char) : Bool :=
  c.isAlpha || (127 < c.toNat && ((findIn? propertyTable "alphabetic").getD .empty).mem c.toNat)

/-- Letters and numbers as names of groups may have them. -/
def isAlphanumeric (c : Char) : Bool :=
  c.isAlphanum || isAlphabetic c || (127 < c.toNat && (categories ["nd", "nl", "no"]).mem c.toNat)

/-- The decimal digits of all scripts. -/
def digitSet : CharSet := categories ["nd"]

/-- The blanks of all scripts. -/
def spaceSet : CharSet := (findIn? propertyTable "whitespace").getD .empty

/-- The characters of words: letters, marks, decimal digits, connectors and joiners. -/
def wordSet : CharSet :=
  (categories ["mc", "me", "mn", "nd", "pc"]).union
    (((findIn? propertyTable "alphabetic").getD .empty).union
      ((findIn? propertyTable "joinc").getD .empty))

/-- The digits, blanks and word characters of ASCII. -/
def asciiDigits : List (Nat × Nat) := [(0x30, 0x39)]

/-- The blanks of ASCII. -/
def asciiSpaces : List (Nat × Nat) := [(0x09, 0x0D), (0x20, 0x20)]

/-- The word characters of ASCII. -/
def asciiWords : List (Nat × Nat) := [(0x30, 0x39), (0x41, 0x5A), (0x5F, 0x5F), (0x61, 0x7A)]

/-- The classes that have a name between `[:` and `:]`. -/
def posixRanges? (name : String) : Option (List (Nat × Nat)) :=
  match name with
  | "alnum" => some [(0x30, 0x39), (0x41, 0x5A), (0x61, 0x7A)]
  | "alpha" => some [(0x41, 0x5A), (0x61, 0x7A)]
  | "ascii" => some [(0x00, 0x7F)]
  | "blank" => some [(0x09, 0x09), (0x20, 0x20)]
  | "cntrl" => some [(0x00, 0x1F), (0x7F, 0x7F)]
  | "digit" => some asciiDigits
  | "graph" => some [(0x21, 0x7E)]
  | "lower" => some [(0x61, 0x7A)]
  | "print" => some [(0x20, 0x7E)]
  | "punct" => some [(0x21, 0x2F), (0x3A, 0x40), (0x5B, 0x60), (0x7B, 0x7E)]
  | "space" => some asciiSpaces
  | "upper" => some [(0x41, 0x5A)]
  | "word" => some asciiWords
  | "xdigit" => some [(0x30, 0x39), (0x41, 0x46), (0x61, 0x66)]
  | _ => none

end Stocktake.Regex
