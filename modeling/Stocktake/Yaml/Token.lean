import Stocktake.Yaml.Cursor

/-!
# YAML tokens

The tokens of a YAML text and the scanner that finds them.  Blocks are found by indentation: the
scanner puts tokens for the start and the end of a block.  A key without a question mark shows only
at the colon behind it; so the scanner keeps, for every level of brackets, the place where such a key
may have started, and puts the key token in there afterwards.
-/

namespace Stocktake.Yaml

/-- A token of a YAML text. -/
inductive Token
  | streamEnd
  | versionDirective (major minor : Nat)
  | tagDirective (handle expansion : String)
  | documentStart
  | documentEnd
  | blockSequenceStart
  | blockMappingStart
  | blockEnd
  | flowSequenceStart
  | flowSequenceEnd
  | flowMappingStart
  | flowMappingEnd
  | blockEntry
  | flowEntry
  | key
  | value
  | alias (name : String)
  | anchor (name : String)
  | tag (handle suffix : String)
  | scalar (text : String) (plain : Bool)
  deriving DecidableEq, Repr, Inhabited

/-- The place where a key without a question mark may have started. -/
structure KeyStart where
  /-- The key has to be one: it stands at the indentation of its block. -/
  required : Bool
  /-- The number of tokens before it. -/
  position : Nat
  index : Nat
  line : Nat
  column : Nat

/-- The state of the scanner. -/
structure Scanner where
  cur : Cursor
  tokens : Array Token := #[]
  /-- The column of the innermost block, `-1` outside of all. -/
  indent : Int := -1
  indents : List Int := []
  /-- A key may start here. -/
  keyAllowed : Bool := true
  /-- The possible key of the current level of brackets. -/
  keyStart : Option KeyStart := none
  /-- Those of the levels outside, the nearest one first. -/
  outerKeys : List (Option KeyStart) := []

namespace Scanner

/-- Inside brackets or braces. -/
def inFlow (s : Scanner) : Bool := !s.outerKeys.isEmpty

/-- Adds a token. -/
def emit (s : Scanner) (t : Token) : Scanner := { s with tokens := s.tokens.push t }

/-- Whether a possible key of an earlier place cannot be one any more: a key stands on one line and
    is at most 1024 characters long. -/
def isStale (cur : Cursor) (k : KeyStart) : Bool := k.line < cur.line || k.index + 1024 < cur.index

/-- Gives up the possible keys that are too far back; fails if one of them had to be a key. -/
def dropStaleKeys (s : Scanner) : Option Scanner :=
  let check : Option KeyStart → Option (Option KeyStart)
    | none => some none
    | some k => if isStale s.cur k then (if k.required then none else some none) else some (some k)
  match check s.keyStart, s.outerKeys.mapM check with
  | some keyStart, some outerKeys => some { s with keyStart, outerKeys }
  | _, _ => none

/-- Gives up the possible key of this level; fails if it had to be a key. -/
def removeKey (s : Scanner) : Option Scanner :=
  match s.keyStart with
  | some k => if k.required then none else some { s with keyStart := none }
  | none => some s

/-- Notes that a key may start here. -/
def saveKey (s : Scanner) : Option Scanner :=
  if s.keyAllowed then
    let required := !s.inFlow && s.indent == (s.cur.column : Int)
    let k : KeyStart := {
      required, position := s.tokens.size
      index := s.cur.index, line := s.cur.line, column := s.cur.column }
    s.removeKey.map fun s => { s with keyStart := some k }
  else some s

/-- Opens a block at a column deeper than the current one, its token going to `position`. -/
def openBlock (s : Scanner) (column : Nat) (position : Option Nat) (t : Token) : Scanner :=
  if s.inFlow || (column : Int) ≤ s.indent then s
  else
    let tokens :=
      match position with
      | some p => s.tokens.insertIdxIfInBounds p t
      | none => s.tokens.push t
    { s with tokens, indents := s.indent :: s.indents, indent := column }

/-- Closes the blocks deeper than a column. -/
def closeBlocksOver (column indent : Int) : List Int → List Int × Int × Nat
  | [] => ([], indent, 0)
  | outer :: rest =>
    if column < indent then
      let (indents, indent, n) := closeBlocksOver column outer rest
      (indents, indent, n + 1)
    else (outer :: rest, indent, 0)

/-- Closes the blocks deeper than a column, outside of brackets. -/
def closeBlocks (s : Scanner) (column : Int) : Scanner :=
  if s.inFlow then s
  else
    let (indents, indent, n) := closeBlocksOver column s.indent s.indents
    { s with indents, indent, tokens := s.tokens ++ Array.replicate n Token.blockEnd }

/-- Skips blanks, comments and line breaks.  Outside of brackets a tab does not indent what may start
    a key, and behind a line break a key may start. -/
def toNextToken : (fuel : Nat) → Scanner → Scanner
  | 0, s => s
  | fuel + 1, s =>
    let cur := if s.cur.index == 0 && s.cur.sees (Char.ofNat 0xFEFF) then s.cur.skip else s.cur
    let tabs := s.inFlow || !s.keyAllowed
    let cur := cur.skipWhile fun c => c == ' ' || (tabs && c == '\t')
    let cur := if cur.sees '#' then cur.skipWhile fun c => !isBreak c else cur
    if cur.atBreak then
      toNextToken fuel { s with cur := cur.skipBreak, keyAllowed := s.keyAllowed || !s.inFlow }
    else { s with cur }

/-- Whether a version number is given, as up to nine digits. -/
def versionNumber? (cur : Cursor) : Option (Nat × Cursor) :=
  let (ds, cur) := cur.takeWhile Char.isDigit
  if ds.isEmpty || 9 < ds.length then none
  else some (ds.foldl (fun n d => n * 10 + (d.toNat - '0'.toNat)) 0, cur)

/-- A tag handle: `!`, `!!` or `!name!`.  Outside of a directive the last `!` may be missing. -/
def tagHandle? (directive : Bool) (cur : Cursor) : Option (List Char × Cursor) :=
  if !cur.sees '!' then none
  else
    let (name, cur) := cur.skip.takeWhile isWord
    if cur.sees '!' then some ('!' :: name ++ ['!'], cur.skip)
    else if directive && !name.isEmpty then none
    else some ('!' :: name, cur)

/-- A character of a tag or of its expansion. -/
def isUriChar (inUri : Bool) (c : Char) : Bool :=
  isWord c || ";/?:@&=+$.%!~*'()".toList.contains c || (inUri && [',', '[', ']'].contains c)

/-- The octets that `%` and two digits each stand for, `n` of them. -/
def escapedOctets? : (n : Nat) → Cursor → Option (List UInt8 × Cursor)
  | 0, cur => some ([], cur)
  | n + 1, cur =>
    if !cur.sees '%' then none
    else
      match (cur.peek? 1).bind hexDigit?, (cur.peek? 2).bind hexDigit? with
      | some a, some b =>
        (escapedOctets? n (cur.skipMany 3)).map fun (os, cur) => (UInt8.ofNat (a * 16 + b) :: os, cur)
      | _, _ => none

/-- One character that is written as escaped octets. -/
def escapedChar? (cur : Cursor) : Option (Char × Cursor) :=
  match escapedOctets? 1 cur with
  | some ([first], after) =>
    let width :=
      if first < 0x80 then 1 else if first &&& 0xE0 == 0xC0 then 2
      else if first &&& 0xF0 == 0xE0 then 3 else if first &&& 0xF8 == 0xF0 then 4 else 0
    if width == 0 then none
    else
      match escapedOctets? (width - 1) after with
      | some (more, cur) =>
        match String.fromUTF8? ⟨(first :: more).toArray⟩ with
        | some s => s.toList.head?.map (·, cur)
        | none => none
      | none => none
  | _ => none

/-- The characters of a tag or of its expansion. -/
def tagUri (inUri : Bool) : (fuel : Nat) → Cursor → Option (List Char × Cursor)
  | 0, cur => some ([], cur)
  | fuel + 1, cur =>
    match cur.peek? 0 with
    | some c =>
      if c == '%' then
        match escapedChar? cur with
        | some (c, cur) => (tagUri inUri fuel cur).map fun (cs, cur) => (c :: cs, cur)
        | none => none
      else if isUriChar inUri c then
        (tagUri inUri fuel cur.skip).map fun (cs, cur) => (c :: cs, cur)
      else some ([], cur)
    | none => some ([], cur)

/-- The rest of a directive line: blanks and a comment. -/
def endOfDirective (s : Scanner) (cur : Cursor) (t : Token) : Option Scanner :=
  let cur := cur.skipWhile isBlank
  let cur := if cur.sees '#' then cur.skipWhile fun c => !isBreak c else cur
  if cur.atBreakOrEnd then some ({ s with cur := cur.skipBreak }.emit t) else none

/-- A directive at the start of a line. -/
def directive (s : Scanner) : Option Scanner :=
  match (s.closeBlocks (-1)).removeKey with
  | none => none
  | some s =>
    let s := { s with keyAllowed := false }
    let (name, cur) := s.cur.skip.takeWhile isWord
    if !cur.atGap then none
    else if name == "YAML".toList then
      match versionNumber? (cur.skipWhile isBlank) with
      | some (major, cur) =>
        if cur.sees '.' then
          match versionNumber? cur.skip with
          | some (minor, cur) => s.endOfDirective cur (.versionDirective major minor)
          | none => none
        else none
      | none => none
    else if name == "TAG".toList then
      match tagHandle? true (cur.skipWhile isBlank) with
      | some (handle, cur) =>
        if cur.atBlank then
          let cur := cur.skipWhile isBlank
          match tagUri true cur.rest.length cur with
          | some (uri, cur) =>
            if uri.isEmpty || !cur.atGap then none
            else s.endOfDirective cur (.tagDirective (String.ofList handle) (String.ofList uri))
          | none => none
        else none
      | none => none
    else none

/-- A document marker. -/
def documentMarker (s : Scanner) (t : Token) : Option Scanner :=
  (s.closeBlocks (-1)).removeKey.map fun s =>
    { s with keyAllowed := false, cur := s.cur.skipMany 3 }.emit t

/-- An opening bracket or brace. -/
def openFlow (s : Scanner) (t : Token) : Option Scanner :=
  s.saveKey.map fun s =>
    { s with
      keyStart := none, outerKeys := s.keyStart :: s.outerKeys
      keyAllowed := true, cur := s.cur.skip }.emit t

/-- A closing bracket or brace. -/
def closeFlow (s : Scanner) (t : Token) : Option Scanner :=
  s.removeKey.map fun s =>
    let s :=
      match s.outerKeys with
      | k :: ks => { s with keyStart := k, outerKeys := ks }
      | [] => s
    { s with keyAllowed := false, cur := s.cur.skip }.emit t

/-- A comma inside brackets. -/
def flowEntry (s : Scanner) : Option Scanner :=
  s.removeKey.map fun s => { s with keyAllowed := true, cur := s.cur.skip }.emit .flowEntry

/-- A dash before an entry of a sequence. -/
def blockEntry (s : Scanner) : Option Scanner :=
  if !s.inFlow && !s.keyAllowed then none
  else
    (s.openBlock s.cur.column none .blockSequenceStart).removeKey.map fun s =>
      { s with keyAllowed := true, cur := s.cur.skip }.emit .blockEntry

/-- A question mark before a key. -/
def keyMark (s : Scanner) : Option Scanner :=
  if !s.inFlow && !s.keyAllowed then none
  else
    (s.openBlock s.cur.column none .blockMappingStart).removeKey.map fun s =>
      { s with keyAllowed := !s.inFlow, cur := s.cur.skip }.emit .key

/-- A colon before a value.  What stands before it is a key if one may have started there. -/
def valueMark (s : Scanner) : Option Scanner :=
  match s.keyStart with
  | some k =>
    let s := { s with tokens := s.tokens.insertIdxIfInBounds k.position .key }
    let s := s.openBlock k.column (some k.position) .blockMappingStart
    some ({ s with keyStart := none, keyAllowed := false, cur := s.cur.skip }.emit .value)
  | none =>
    if s.inFlow then some ({ s with keyAllowed := false, cur := s.cur.skip }.emit .value)
    else if !s.keyAllowed then none
    else
      let s := s.openBlock s.cur.column none .blockMappingStart
      some ({ s with keyAllowed := true, cur := s.cur.skip }.emit .value)

/-- The name of an anchor or alias. -/
def anchorName (s : Scanner) (token : String → Token) : Option Scanner :=
  s.saveKey.bind fun s =>
    let (name, cur) := s.cur.skip.takeWhile isWord
    let ends := cur.atGap || (cur.peek? 0).any fun c => "?:,]\x7d%@`".toList.contains c
    if name.isEmpty || !ends then none
    else some ({ s with keyAllowed := false, cur }.emit (token (String.ofList name)))

/-- The handle and the suffix of a tag. -/
def tagParts? (cur : Cursor) : Option (List Char × List Char × Cursor) :=
  if cur.sees '<' 1 then
    let cur := cur.skipMany 2
    match tagUri true cur.rest.length cur with
    | some (uri, cur) => if uri.isEmpty || !cur.sees '>' then none else some ([], uri, cur.skip)
    | none => none
  else
    match tagHandle? false cur with
    | none => none
    | some (handle, cur) =>
      let isHandle := 1 < handle.length && handle.getLast? == some '!'
      match tagUri false cur.rest.length cur with
      | none => none
      | some (more, cur) =>
        if isHandle then (if more.isEmpty then none else some (handle, more, cur))
        else
          let suffix := handle.tail ++ more
          if suffix.isEmpty then some ([], ['!'], cur) else some (['!'], suffix, cur)

/-- A tag. -/
def tagMark (s : Scanner) : Option Scanner :=
  s.saveKey.bind fun s =>
    match tagParts? s.cur with
    | none => none
    | some (handle, suffix, cur) =>
      if cur.atGap || (s.inFlow && cur.sees ',') then
        some ({ s with keyAllowed := false, cur }.emit
          (.tag (String.ofList handle) (String.ofList suffix)))
      else none

/-- What a line of a block scalar leaves to the next one: the text so far, the break at its end, the
    empty lines after that, and whether it started with a blank. -/
structure Folding where
  text : List Char := []
  leading : List Char := []
  trailing : List Char := []
  startsBlank : Bool := false

/-- The indentation and the empty lines before a line of a block scalar.  As long as the indentation
    is not known (`none`), `widest` is the widest one seen. -/
def blockBreaks (indent : Option Nat) (widest : Nat) (breaks : List Char) :
    (fuel : Nat) → Cursor → Option (Nat × List Char × Cursor)
  | 0, _ => none
  | fuel + 1, cur =>
    let room :=
      match indent with
      | some n => n - cur.column
      | none => cur.rest.length
    let spaces := ((cur.rest.take room).takeWhile (· == ' ')).length
    let cur := cur.skipMany spaces
    let widest := max widest cur.column
    let short := indent.all fun n => cur.column < n
    if short && cur.sees '\t' then none
    else if cur.atBreak then
      let (b, cur) := cur.readBreak
      blockBreaks indent widest (breaks ++ b) fuel cur
    else some (widest, breaks, cur)

/-- The lines of a block scalar with a known indentation. -/
def blockLines (literal : Bool) (indent : Nat) :
    (fuel : Nat) → Folding → Cursor → Option (Folding × Cursor)
  | 0, _, _ => none
  | fuel + 1, f, cur =>
    if cur.column == indent && !cur.atEnd then
      let blank := cur.atBlank
      let joint :=
        if !literal && f.leading.head? == some '\n' && !f.startsBlank && !blank then
          (if f.trailing.isEmpty then [' '] else [])
        else f.leading
      let (line, cur) := cur.takeWhile fun c => !isBreak c
      let (leading, cur) := cur.readBreak
      match blockBreaks (some indent) 0 [] (cur.rest.length + 1) cur with
      | some (_, trailing, cur) =>
        blockLines literal indent fuel
          { text := f.text ++ joint ++ f.trailing ++ line, leading, trailing, startsBlank := blank }
          cur
      | none => none
    else some (f, cur)

/-- The indicators behind `|` or `>`: how to chomp (`some true` keeps, `some false` strips) and the
    indentation. -/
def blockIndicators? (cur : Cursor) : Option (Option Bool × Nat × Cursor) :=
  let chomp? (cur : Cursor) : Option Bool × Cursor :=
    if cur.sees '+' then (some true, cur.skip)
    else if cur.sees '-' then (some false, cur.skip)
    else (none, cur)
  let digit (cur : Cursor) : Option (Nat × Cursor) :=
    match (cur.peek? 0).bind digit? with
    | some 0 => none
    | some n => some (n, cur.skip)
    | none => some (0, cur)
  match chomp? cur with
  | (some c, cur) => (digit cur).map fun (n, cur) => (some c, n, cur)
  | (none, cur) =>
    match digit cur with
    | none => none
    | some (0, cur) => some (none, 0, cur)
    | some (n, cur) =>
      let (c, cur) := chomp? cur
      some (c, n, cur)

/-- A block scalar. -/
def blockScalar (s : Scanner) (literal : Bool) : Option Scanner :=
  s.removeKey.bind fun s =>
    match blockIndicators? s.cur.skip with
    | none => none
    | some (chomp, increment, cur) =>
      let cur := cur.skipWhile isBlank
      let cur := if cur.sees '#' then cur.skipWhile fun c => !isBreak c else cur
      if !cur.atBreakOrEnd then none
      else
        let cur := cur.skipBreak
        let given := if increment == 0 then none else some ((max s.indent 0).toNat + increment)
        match blockBreaks given 0 [] (cur.rest.length + 1) cur with
        | none => none
        | some (widest, trailing, cur) =>
          let indent := given.getD (max (max widest (s.indent + 1).toNat) 1)
          match blockLines literal indent (cur.rest.length + 1) { trailing } cur with
          | none => none
          | some (f, cur) =>
            let tail :=
              match chomp with
              | some true => f.leading ++ f.trailing
              | none => f.leading
              | some false => []
            let text := String.ofList (f.text ++ tail)
            some ({ s with keyAllowed := true, cur }.emit (.scalar text false))

/-- The character that a one-letter escape in double quotes stands for. -/
def simpleEscape? (c : Char) : Option Char :=
  match c with
  | '0' => some (Char.ofNat 0)
  | 'a' => some (Char.ofNat 7)
  | 'b' => some (Char.ofNat 8)
  | 't' => some '\t'
  | '\t' => some '\t'
  | 'n' => some '\n'
  | 'v' => some (Char.ofNat 11)
  | 'f' => some (Char.ofNat 12)
  | 'r' => some '\r'
  | 'e' => some (Char.ofNat 27)
  | ' ' => some ' '
  | '"' => some '"'
  | '/' => some '/'
  | '\\' => some '\\'
  | 'N' => some (Char.ofNat 0x85)
  | '_' => some (Char.ofNat 0xA0)
  | 'L' => some (Char.ofNat 0x2028)
  | 'P' => some (Char.ofNat 0x2029)
  | _ => none

/-- How many hexadecimal digits follow an escape letter. -/
def escapeDigits (c : Char) : Nat :=
  if c == 'x' then 2 else if c == 'u' then 4 else if c == 'U' then 8 else 0

/-- The escape at a backslash in double quotes. -/
def escape? (cur : Cursor) : Option (Char × Cursor) :=
  match cur.peek? 1 with
  | none => none
  | some e =>
    match simpleEscape? e with
    | some c => some (c, cur.skipMany 2)
    | none =>
      let n := escapeDigits e
      let cur := cur.skipMany 2
      if n == 0 then none
      else
        match (List.range n).mapM fun i => (cur.peek? i).bind hexDigit? with
        | none => none
        | some ds =>
          let code := ds.foldl (fun v d => v * 16 + d) 0
          if (0xD800 ≤ code && code ≤ 0xDFFF) || 0x10FFFF < code then none
          else some (Char.ofNat code, cur.skipMany n)

/-- The characters of a quoted scalar up to a gap, a closing quote or an escaped line break, in
    reverse before `done`; the flag tells of the escaped break. -/
def quotedRun (single : Bool) (done : List Char) :
    (fuel : Nat) → Cursor → Option (List Char × Bool × Cursor)
  | 0, _ => none
  | fuel + 1, cur =>
    match cur.peek? 0 with
    | none => some (done, false, cur)
    | some c =>
      if isBlank c || isBreak c then some (done, false, cur)
      else if single && c == '\'' && cur.sees '\'' 1 then
        quotedRun single ('\'' :: done) fuel (cur.skipMany 2)
      else if c == (if single then '\'' else '"') then some (done, false, cur)
      else if !single && c == '\\' && cur.atBreak 1 then some (done, true, cur.skip.skipBreak)
      else if !single && c == '\\' then
        match escape? cur with
        | some (c, cur) => quotedRun single (c :: done) fuel cur
        | none => none
      else quotedRun single (c :: done) fuel cur.skip

/-- A gap inside a scalar: blanks of one line, or line breaks with blanks around them. -/
structure Gap where
  blanks : List Char := []
  leading : List Char := []
  trailing : List Char := []
  /-- A line was begun. -/
  broken : Bool := false

/-- Reads a gap.  In a plain scalar outside of brackets a tab must not stand before the column
    `tabLimit` of a later line. -/
def readGap (tabLimit : Int) : (fuel : Nat) → Gap → Cursor → Option (Gap × Cursor)
  | 0, _, _ => none
  | fuel + 1, g, cur =>
    match cur.peek? 0 with
    | none => some (g, cur)
    | some c =>
      if isBlank c then
        if g.broken && (cur.column : Int) < tabLimit && c == '\t' then none
        else if g.broken then readGap tabLimit fuel g cur.skip
        else readGap tabLimit fuel { g with blanks := g.blanks ++ [c] } cur.skip
      else if isBreak c then
        let (b, cur) := cur.readBreak
        if g.broken then readGap tabLimit fuel { g with trailing := g.trailing ++ b } cur
        else readGap tabLimit fuel { g with blanks := [], leading := b, broken := true } cur
      else some (g, cur)

/-- The text that a gap stands for: one line break is a space, more are one less. -/
def Gap.text (g : Gap) : List Char :=
  if g.broken then
    if g.leading.head? == some '\n' then (if g.trailing.isEmpty then [' '] else g.trailing)
    else g.leading ++ g.trailing
  else g.blanks

/-- The text of a quoted scalar behind its opening quote, in reverse before `done`. -/
def quotedText (single : Bool) (done : List Char) :
    (fuel : Nat) → Cursor → Option (List Char × Cursor)
  | 0, _ => none
  | fuel + 1, cur =>
    if cur.atDocumentMarker || cur.atEnd then none
    else
      match quotedRun single done (cur.rest.length + 1) cur with
      | none => none
      | some (done, escapedBreak, cur) =>
        if cur.sees (if single then '\'' else '"') then some (done, cur.skip)
        else
          match readGap 0 (cur.rest.length + 1) { broken := escapedBreak } cur with
          | none => none
          | some (g, cur) => quotedText single (g.text.reverse ++ done) fuel cur

/-- A quoted scalar. -/
def quotedScalar (s : Scanner) (single : Bool) : Option Scanner :=
  s.saveKey.bind fun s =>
    (quotedText single [] (s.cur.rest.length + 1) s.cur.skip).map fun (text, cur) =>
      { s with keyAllowed := false, cur }.emit (.scalar (String.ofList text.reverse) false)

/-- Whether a plain scalar ends here: a colon before a gap, and inside brackets their signs. -/
def plainEnds (inFlow : Bool) (cur : Cursor) : Bool :=
  (cur.sees ':' && cur.atGap 1) ||
    (inFlow && (cur.peek? 0).any fun c => ",[]\x7b\x7d".toList.contains c)

/-- The characters of a plain scalar up to a gap or its end, in reverse before `done`.  Inside
    brackets a colon must not stand before one of their signs. -/
def plainRun (inFlow : Bool) (done : List Char) :
    (fuel : Nat) → Cursor → Option (List Char × Cursor)
  | 0, _ => none
  | fuel + 1, cur =>
    if cur.atGap then some (done, cur)
    else if inFlow && cur.sees ':' && (cur.peek? 1).any (",?[]\x7b\x7d".toList.contains ·) then none
    else if plainEnds inFlow cur then some (done, cur)
    else
      match cur.peek? 0 with
      | some c => plainRun inFlow (c :: done) fuel cur.skip
      | none => some (done, cur)

/-- The text of a plain scalar, in reverse before `done`, and the gap before the place where it goes
    on. -/
def plainText (inFlow : Bool) (indent : Int) (done : List Char) (gap : Gap) :
    (fuel : Nat) → Cursor → Option (List Char × Gap × Cursor)
  | 0, _ => none
  | fuel + 1, cur =>
    if cur.atDocumentMarker || cur.sees '#' then some (done, gap, cur)
    else
      let start := if cur.atGap || plainEnds inFlow cur then done else gap.text.reverse ++ done
      match plainRun inFlow start (cur.rest.length + 1) cur with
      | none => none
      | some (run, after) =>
        let gap := if after.index == cur.index then gap else {}
        if after.atBlank || after.atBreak then
          match readGap indent (after.rest.length + 1) gap after with
          | none => none
          | some (gap, cur) =>
            if !inFlow && (cur.column : Int) < indent then some (run, gap, cur)
            else plainText inFlow indent run gap fuel cur
        else some (run, gap, after)

/-- A plain scalar.  Behind one that ended with a line break a key may start. -/
def plainScalar (s : Scanner) : Option Scanner :=
  s.saveKey.bind fun s =>
    (plainText s.inFlow (s.indent + 1) [] {} (s.cur.rest.length + 1) s.cur).map
      fun (text, gap, cur) =>
        { s with keyAllowed := gap.broken, cur }.emit (.scalar (String.ofList text.reverse) true)

/-- The end of the text. -/
def finish (s : Scanner) : Option (Array Token) :=
  ((s.closeBlocks (-1)).removeKey).map fun s => (s.emit .streamEnd).tokens

/-- Whether a plain scalar starts here. -/
def plainStarts (s : Scanner) : Bool :=
  match s.cur.peek? 0 with
  | none => false
  | some c =>
    (!(isBlank c || isBreak c) && !"-?:,[]\x7b\x7d#&*!|>'\"%@`".toList.contains c) ||
      (c == '-' && !s.cur.atBlank 1) ||
      (!s.inFlow && (c == '?' || c == ':') && !s.cur.atGap 1)

/-- The next token at a place that is not the end. -/
def next (s : Scanner) : Option Scanner :=
  let cur := s.cur
  if cur.column == 0 && cur.sees '%' then s.directive
  else if cur.atMarker '-' then s.documentMarker .documentStart
  else if cur.atMarker '.' then s.documentMarker .documentEnd
  else if cur.sees '[' then s.openFlow .flowSequenceStart
  else if cur.sees '\x7b' then s.openFlow .flowMappingStart
  else if cur.sees ']' then s.closeFlow .flowSequenceEnd
  else if cur.sees '\x7d' then s.closeFlow .flowMappingEnd
  else if cur.sees ',' then s.flowEntry
  else if cur.sees '-' && cur.atGap 1 then s.blockEntry
  else if cur.sees '?' && (s.inFlow || cur.atGap 1) then s.keyMark
  else if cur.sees ':' && (s.inFlow || cur.atGap 1) then s.valueMark
  else if cur.sees '*' then s.anchorName .alias
  else if cur.sees '&' then s.anchorName .anchor
  else if cur.sees '!' then s.tagMark
  else if cur.sees '|' && !s.inFlow then s.blockScalar true
  else if cur.sees '>' && !s.inFlow then s.blockScalar false
  else if cur.sees '\'' then s.quotedScalar true
  else if cur.sees '"' then s.quotedScalar false
  else if s.plainStarts then s.plainScalar
  else none

/-- All tokens up to the end of the text.  Every step takes at least one character. -/
def run : (fuel : Nat) → Scanner → Option (Array Token)
  | 0, _ => none
  | fuel + 1, s =>
    match (s.toNextToken (s.cur.rest.length + 1)).dropStaleKeys with
    | none => none
    | some s =>
      let s := s.closeBlocks s.cur.column
      if s.cur.atEnd then s.finish
      else
        match s.next with
        | some s => run fuel s
        | none => none

end Scanner

/-- The tokens of a text, if it has no lexical fault.  A byte order mark at the start is no part of
    it. -/
def Token.scan (text : String) : Option (List Token) :=
  let chars :=
    match text.toList with
    | c :: rest => if c.toNat == 0xFEFF then rest else c :: rest
    | [] => []
  if chars.all isPrintable then
    (Scanner.run (chars.length + 2) { cur := { rest := chars } }).map Array.toList
  else none

end Stocktake.Yaml
