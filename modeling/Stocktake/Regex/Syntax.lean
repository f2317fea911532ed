import Stocktake.Regex.CharSet

/-!
# Regular expressions as they are written

The syntax tree of a regular expression and its parser.  The syntax is that of a finite automaton's
expressions: no look-around but for line, text and word boundaries, and no back-references.  In
extended mode blanks and comments between the parts do not count.
-/

namespace Stocktake.Regex

/-- A flag that changes how what follows is read or matched. -/
inductive Flag
  /-- `i`: letters match their case variants. -/
  | ignoreCase
  /-- `m`: the line anchors match at lines. -/
  | multiLine
  /-- `s`: the dot matches a line feed. -/
  | dotAll
  /-- `U`: repetitions are lazy. -/
  | swapGreed
  /-- `u`: classes are those of all scripts. -/
  | allScripts
  /-- `R`: lines may end in a carriage return. -/
  | carriageReturn
  /-- `x`: blanks and comments do not count. -/
  | extended
  deriving DecidableEq, Repr

/-- The flags of a group with the value each is given. -/
abbrev FlagChanges := List (Flag × Bool)

/-- A boundary of two characters, or of a character and an end of the text. -/
inductive Anchor
  | lineStart
  | lineEnd
  | textStart
  | textEnd
  | wordBoundary
  | noWordBoundary
  | wordStart
  | wordEnd
  | wordStartHalf
  | wordEndHalf
  deriving DecidableEq, Repr

/-- The classes `\d`, `\s` and `\w`. -/
inductive ShortClass
  | digit
  | space
  | word
  deriving DecidableEq, Repr

/-- What a property class in braces says. -/
inductive PropertyQuery
  | named (name : List Char)
  | valued (property value : List Char) (differs : Bool)
  deriving DecidableEq, Repr

/-- How two sets in brackets are combined. -/
inductive SetOperation
  | intersection
  | difference
  | symmetricDifference
  deriving DecidableEq, Repr

/-- What stands in brackets. -/
inductive SetSyntax
  /-- A character; `octet` tells that it was written by two hexadecimal digits. -/
  | literal (c : Char) (octet : Bool)
  | range (first : Char) (firstOctet : Bool) (last : Char) (lastOctet : Bool)
  | posix (name : String) (negated : Bool)
  | short (kind : ShortClass) (negated : Bool)
  | property (query : PropertyQuery) (negated : Bool)
  | union (items : List SetSyntax)
  | bracketed (negated : Bool) (inner : SetSyntax)
  | operation (op : SetOperation) (left right : SetSyntax)
  deriving Repr, Inhabited

/-- A regular expression as it is written. -/
inductive Syntax
  | empty
  | flags (changes : FlagChanges)
  | literal (c : Char) (octet : Bool)
  | dot
  | anchor (a : Anchor)
  | set (s : SetSyntax)
  | repetition (min : Nat) (max : Option Nat) (inner : Syntax)
  | group (changes : FlagChanges) (captures : Bool) (inner : Syntax)
  | alternation (branches : List Syntax)
  | concat (parts : List Syntax)
  deriving Repr, Inhabited

/-- What a backslash or a single character stands for. -/
inductive Primitive
  | literal (c : Char) (octet : Bool)
  | anchor (a : Anchor)
  | short (kind : ShortClass) (negated : Bool)
  | property (query : PropertyQuery) (negated : Bool)
  | dot

namespace Syntax

/-- The text after blanks and comments, in extended mode. -/
def skipSpace (extended : Bool) : List Char → List Char
  | [] => []
  | c :: s =>
    if !extended then c :: s
    else if Text.isBlank c then skipSpace extended s
    else if c = '#' then comment s
    else c :: s
where
  /-- The text after a comment. -/
  comment : List Char → List Char
  | [] => []
  | c :: s => if c = '\n' then skipSpace true s else comment s

/-- A character that means something by itself. -/
def isMeta (c : Char) : Bool := "\\.+*?()|[]\x7b\x7d^$#&-~".toList.contains c

/-- A character that stands for itself behind a backslash. -/
def isEscapable (c : Char) : Bool :=
  isMeta c || (c.toNat < 128 && !c.isAlphanum && c != '<' && c != '>')

/-- The value of a hexadecimal digit. -/
def hexDigit? (c : Char) : Option Nat := (base36? c.toLower).filter (· < 16)

/-- The character with a code point, if there is one. -/
def charOf? (n : Nat) : Option Char := if n.isValidChar then some (Char.ofNat n) else none

/-- Hexadecimal digits, a given number of them, blanks between them in extended mode. -/
def hexDigits (x : Bool) (value : Nat) : (count : Nat) → List Char → Option (Nat × List Char)
  | 0, s => some (value, s)
  | _ + 1, [] => none
  | n + 1, c :: s =>
    match hexDigit? c with
    | none => none
    | some d => hexDigits x (value * 16 + d) n (skipSpace x s)

/-- Hexadecimal digits up to a closing brace. -/
def hexBraces (x : Bool) (digits : List Nat) : (fuel : Nat) → List Char → Option (Nat × List Char)
  | 0, _ => none
  | _ + 1, [] => none
  | fuel + 1, c :: s =>
    if c = '\x7d' then
      if digits.isEmpty then none
      else some (digits.reverse.foldl (fun v d => v * 16 + d) 0, s)
    else
      match hexDigit? c with
      | none => none
      | some d => hexBraces x (d :: digits) fuel (skipSpace x s)

/-- The character after `\x`, `\u` or `\U`. -/
def hexEscape (x : Bool) (count : Nat) (s : List Char) : Option (Primitive × List Char) :=
  match skipSpace x s with
  | '\x7b' :: s =>
    match hexBraces x [] (s.length + 1) (skipSpace x s) with
    | some (n, s) => (charOf? n).map fun c => (.literal c false, skipSpace x s)
    | none => none
  | s =>
    match hexDigits x 0 count s with
    | some (n, s) => (charOf? n).map fun c => (.literal c (count = 2), s)
    | none => none

/-- The name in a property class, up to its closing brace. -/
def propertyName (x : Bool) (done : List Char) :
    (fuel : Nat) → List Char → Option (List Char × List Char)
  | 0, _ => none
  | _ + 1, [] => none
  | fuel + 1, c :: s =>
    if c = '\x7d' then some (done.reverse, s)
    else propertyName x (c :: done) fuel (skipSpace x s)

/-- Cuts a text at the first character that is `c`. -/
def cutAt (c : Char) (s : List Char) : Option (List Char × List Char) :=
  match s.dropWhile (· != c) with
  | _ :: rest => some (s.takeWhile (· != c), rest)
  | [] => none

/-- Cuts a text at the first `!=`. -/
def cutAtDiffers : List Char → Option (List Char × List Char)
  | [] => none
  | '!' :: '=' :: s => some ([], s)
  | c :: s => (cutAtDiffers s).map fun (a, b) => (c :: a, b)

/-- What the braces of a property class say. -/
def propertyQuery (name : List Char) : PropertyQuery :=
  match cutAtDiffers name with
  | some (p, v) => .valued p v true
  | none =>
    match cutAt ':' name with
    | some (p, v) => .valued p v false
    | none =>
      match cutAt '=' name with
      | some (p, v) => .valued p v false
      | none => .named name

/-- A property class behind `\p` or `\P`. -/
def propertyEscape (x negated : Bool) (s : List Char) : Option (Primitive × List Char) :=
  match skipSpace x s with
  | [] => none
  | '\x7b' :: s =>
    (propertyName x [] (s.length + 1) (skipSpace x s)).map fun (name, s) =>
      (.property (propertyQuery name) negated, s)
  | c :: s => if c = '\\' then none else some (.property (.named [c]) negated, skipSpace x s)

/-- A letter or dash, of which the names of word boundaries are made. -/
def isBoundaryChar (c : Char) : Bool := c.isAlpha || c = '-'

/-- The name of a word boundary, and what follows it. -/
def boundaryName (x : Bool) (done : List Char) :
    (fuel : Nat) → List Char → List Char × List Char
  | 0, s => (done.reverse, s)
  | _ + 1, [] => (done.reverse, [])
  | fuel + 1, c :: s =>
    if isBoundaryChar c then boundaryName x (c :: done) fuel (skipSpace x s)
    else (done.reverse, c :: s)

/-- What follows `\b`: braces with the name of a special boundary, or something else. -/
def boundaryEscape (x : Bool) (s : List Char) : Option (Anchor × List Char) :=
  match s with
  | '\x7b' :: r =>
    match skipSpace x r with
    | [] => none
    | c :: r =>
      if !isBoundaryChar c then some (.wordBoundary, s)
      else
        match boundaryName x [] (r.length + 2) (c :: r) with
        | (name, '\x7d' :: r) =>
          match String.ofList name with
          | "start" => some (.wordStart, r)
          | "end" => some (.wordEnd, r)
          | "start-half" => some (.wordStartHalf, r)
          | "end-half" => some (.wordEndHalf, r)
          | _ => none
        | _ => none
  | _ => some (.wordBoundary, s)

/-- What stands behind a backslash. -/
def escape (x : Bool) : List Char → Option (Primitive × List Char)
  | [] => none
  | c :: s =>
    if c.isDigit then none
    else if c = 'x' then hexEscape x 2 s
    else if c = 'u' then hexEscape x 4 s
    else if c = 'U' then hexEscape x 8 s
    else if c = 'p' || c = 'P' then propertyEscape x (c = 'P') s
    else if c = 'd' || c = 'D' then some (.short .digit (c = 'D'), s)
    else if c = 's' || c = 'S' then some (.short .space (c = 'S'), s)
    else if c = 'w' || c = 'W' then some (.short .word (c = 'W'), s)
    else if isEscapable c then some (.literal c false, s)
    else
      match c with
      | 'a' => some (.literal (Char.ofNat 7) false, s)
      | 'f' => some (.literal (Char.ofNat 12) false, s)
      | 't' => some (.literal '\t' false, s)
      | 'n' => some (.literal '\n' false, s)
      | 'r' => some (.literal '\r' false, s)
      | 'v' => some (.literal (Char.ofNat 11) false, s)
      | 'A' => some (.anchor .textStart, s)
      | 'z' => some (.anchor .textEnd, s)
      | 'b' => (boundaryEscape x s).map fun (a, s) => (.anchor a, s)
      | 'B' => some (.anchor .noWordBoundary, s)
      | '<' => some (.anchor .wordStart, s)
      | '>' => some (.anchor .wordEnd, s)
      | _ => none

/-- The part of a set that a primitive is. -/
def setItem? : Primitive → Option SetSyntax
  | .literal c octet => some (.literal c octet)
  | .short kind negated => some (.short kind negated)
  | .property query negated => some (.property query negated)
  | .anchor _ => none
  | .dot => none

/-- One character or escape in brackets. -/
def setPrimitive (x : Bool) : List Char → Option (Primitive × List Char)
  | [] => none
  | '\\' :: s => escape x s
  | c :: s => some (.literal c false, s)

/-- One item in brackets: a character, a class or a range. -/
def setRange (x : Bool) (s : List Char) : Option (SetSyntax × List Char) :=
  match setPrimitive x s with
  | none => none
  | some (p, s) =>
    match skipSpace x s with
    | [] => none
    | '-' :: r =>
      match skipSpace x r with
      | ']' :: _ => (setItem? p).map (·, '-' :: r)
      | '-' :: _ => (setItem? p).map (·, '-' :: r)
      | [] => none
      | r =>
        match p, setPrimitive x r with
        | .literal a oa, some (.literal b ob, s) =>
          if a ≤ b then some (.range a oa b ob, s) else none
        | _, _ => none
    | s => (setItem? p).map (·, s)

/-- A class `[:name:]`, behind its opening bracket, if it is one. -/
def posixClass? (s : List Char) : Option (SetSyntax × List Char) :=
  match s with
  | ':' :: s =>
    let (negated, s) :=
      match s with
      | '^' :: r => (true, r)
      | _ => (false, s)
    let name := String.ofList (s.takeWhile (· != ':'))
    match s.dropWhile (· != ':') with
    | ':' :: ']' :: rest =>
      if (posixRanges? name).isSome then some (.posix name negated, rest) else none
    | _ => none
  | _ => none

/-- The start of a set behind its opening bracket: whether it is negated, and the dashes or the
    closing bracket that stand for themselves there. -/
def setStart (x : Bool) (s : List Char) : Option (Bool × List SetSyntax × List Char) :=
  let (negated, s) :=
    match skipSpace x s with
    | '^' :: r => (true, skipSpace x r)
    | s => (false, s)
  let (dashes, s) := dashesAt s.length [] s
  match dashes, s with
  | _, [] => none
  | [], ']' :: r =>
    match skipSpace x r with
    | [] => none
    | r => some (negated, [.literal ']' false], r)
  | ds, s => some (negated, ds, s)
where
  /-- The dashes at the start of a text. -/
  dashesAt : (fuel : Nat) → List SetSyntax → List Char → List SetSyntax × List Char
  | fuel + 1, ds, '-' :: s => dashesAt fuel (.literal '-' false :: ds) (skipSpace x s)
  | _, ds, s => (ds, s)

/-- The set that items make; they stand in reverse. -/
def unionOf : List SetSyntax → SetSyntax
  | [a] => a
  | items => .union items.reverse

/-- The set after an operation whose left side was read before. -/
def applyOperation : Option (SetOperation × SetSyntax) → SetSyntax → SetSyntax
  | some (op, left), right => .operation op left right
  | none, right => right

/-- What stands in brackets up to the closing one: `pending` is an operation with its left side,
    `items` are the items since then in reverse. -/
def setBody (x : Bool) (pending : Option (SetOperation × SetSyntax)) (items : List SetSyntax) :
    (fuel : Nat) → List Char → Option (SetSyntax × List Char)
  | 0, _ => none
  | fuel + 1, s =>
    let operation (op : SetOperation) (s : List Char) :=
      setBody x (some (op, applyOperation pending (unionOf items))) [] fuel s
    match skipSpace x s with
    | [] => none
    | '[' :: r =>
      match posixClass? r with
      | some (item, r) => setBody x pending (item :: items) fuel r
      | none =>
        match setStart x r with
        | none => none
        | some (negated, start, r) =>
          match setBody x none start fuel r with
          | none => none
          | some (inner, r) => setBody x pending (.bracketed negated inner :: items) fuel r
    | ']' :: r => some (applyOperation pending (unionOf items), r)
    | '&' :: '&' :: r => operation .intersection r
    | '-' :: '-' :: r => operation .difference r
    | '~' :: '~' :: r => operation .symmetricDifference r
    | s =>
      match setRange x s with
      | none => none
      | some (item, s) => setBody x pending (item :: items) fuel s

/-- A set behind its opening bracket. -/
def setAt (x : Bool) (s : List Char) : Option (SetSyntax × List Char) :=
  match setStart x s with
  | none => none
  | some (negated, start, s) =>
    (setBody x none start (2 * s.length + 2) s).map fun (inner, s) => (.bracketed negated inner, s)

/-- Decimal digits with blanks around them, and in extended mode between them. -/
def decimal (x : Bool) (s : List Char) : Option Nat × List Char :=
  let s := s.dropWhile Text.isBlank
  let (ds, s) := digits s.length [] s
  (if ds.isEmpty then none else some (ds.foldr (fun d v => v * 10 + d) 0), s.dropWhile Text.isBlank)
where
  /-- The digits at the start of a text, in reverse. -/
  digits : (fuel : Nat) → List Nat → List Char → List Nat × List Char
  | fuel + 1, ds, c :: s =>
    if c.isDigit then digits fuel ((c.toNat - '0'.toNat) :: ds) (skipSpace x s) else (ds, c :: s)
  | _, ds, s => (ds, s)

/-- The numbers between braces behind their opening one.  A number has 32 bits. -/
def countRange (x : Bool) (s : List Char) : Option (Nat × Option Nat × List Char) :=
  let small (n : Nat) : Option Nat := if n < 1 <<< 32 then some n else none
  match decimal x (skipSpace x s) with
  | (first, s) =>
    match first.bind small with
    | none => none
    | some min =>
      match skipSpace x s with
      | '\x7d' :: s => some (min, some min, s)
      | ',' :: s =>
        match skipSpace x s with
        | '\x7d' :: s => some (min, none, s)
        | s =>
          match decimal x s with
          | (second, s) =>
            match second.bind small, skipSpace x s with
            | some max, '\x7d' :: s => if min ≤ max then some (min, some max, s) else none
            | _, _ => none
      | _ => none

/-- A repetition of the last part; there must be one that is no flag. -/
def repeatLast (min : Nat) (max : Option Nat) : List Syntax → Option (List Syntax)
  | [] => none
  | .empty :: _ => none
  | .flags _ :: _ => none
  | last :: parts => some (.repetition min max last :: parts)

/-- The flag with a letter. -/
def flag? (c : Char) : Option Flag :=
  match c with
  | 'i' => some .ignoreCase
  | 'm' => some .multiLine
  | 's' => some .dotAll
  | 'U' => some .swapGreed
  | 'u' => some .allScripts
  | 'R' => some .carriageReturn
  | 'x' => some .extended
  | _ => none

/-- Flags up to a colon or a closing parenthesis.  None stands twice; a minus stands once and before
    a flag. -/
def flagList (done : FlagChanges) (negated dangling : Bool) :
    List Char → Option (FlagChanges × Bool × List Char)
  | [] => none
  | c :: s =>
    if c = ':' || c = ')' then
      if dangling then none else some (done.reverse, negated || !done.isEmpty, c :: s)
    else if c = '-' then if negated then none else flagList done true true s
    else
      match flag? c with
      | none => none
      | some f =>
        if done.any fun x => x.1 = f then none else flagList ((f, !negated) :: done) negated false s

/-- The value that changes give a flag. -/
def flagValue? (changes : FlagChanges) (f : Flag) : Option Bool := changes.lookup f

/-- A character of the name of a group. -/
def isNameChar (c : Char) (first : Bool) : Bool :=
  if first then c = '_' || isAlphabetic c
  else c = '_' || c = '.' || c = '[' || c = ']' || isAlphanumeric c

/-- The name of a group up to its closing angle. -/
def groupName (s : List Char) : Option (List Char × List Char) :=
  match cutAt '>' s with
  | some (c :: name, rest) =>
    if isNameChar c true && name.all (isNameChar · false) then some (c :: name, rest) else none
  | _ => none

/-- Some alternatives, of which the last one stands first. -/
def alternativesOf : List Syntax → Syntax
  | [a] => a
  | branches => .alternation branches.reverse

/-- Some parts one after the other, of which the last one stands first. -/
def concatOf : List Syntax → Syntax
  | [] => .empty
  | [a] => a
  | parts => .concat parts.reverse

/-- Where the parser is: the rest of the text, the names of groups, and whether the mode is
    extended. -/
structure Reading where
  rest : List Char
  names : List (List Char) := []
  extended : Bool := false

/-- What may start a group, behind its opening parenthesis. -/
inductive Opening
  | setFlags (changes : FlagChanges)
  | group (changes : FlagChanges) (captures : Bool) (name : Option (List Char))

/-- Reads the start of a group behind its opening parenthesis. -/
def opening (x : Bool) (s : List Char) : Option (Opening × List Char) :=
  let named (s : List Char) : Option (Opening × List Char) :=
    (groupName s).map fun (name, s) => (.group [] true (some name), s)
  match skipSpace x s with
  | '?' :: '=' :: _ => none
  | '?' :: '!' :: _ => none
  | '?' :: '<' :: '=' :: _ => none
  | '?' :: '<' :: '!' :: _ => none
  | '?' :: 'P' :: '<' :: s => named s
  | '?' :: '<' :: s => named s
  | '?' :: s =>
    match flagList [] false false s with
    | some (changes, some?, ')' :: s) => if some? then some (.setFlags changes, s) else none
    | some (changes, _, ':' :: s) => some (.group changes false none, s)
    | _ => none
  | s => some (.group [] true none, s)

/-- A lazy mark behind a repetition, if there is one. -/
def skipLazy : List Char → List Char
  | '?' :: s => s
  | s => s

/-- Alternatives up to a closing parenthesis or the end: `parts` are those of the current one and
    `branches` those before it, all in reverse. -/
def body (branches parts : List Syntax) : (fuel : Nat) → Reading → Option (Syntax × Reading)
  | 0, _ => none
  | fuel + 1, r =>
    let x := r.extended
    let go (parts : List Syntax) (s : List Char) := body branches parts fuel { r with rest := s }
    match skipSpace x r.rest with
    | [] => some (alternativesOf (concatOf parts :: branches), { r with rest := [] })
    | ')' :: s => some (alternativesOf (concatOf parts :: branches), { r with rest := ')' :: s })
    | '|' :: s => body (concatOf parts :: branches) [] fuel { r with rest := s }
    | '(' :: s =>
      match opening x s with
      | none => none
      | some (.setFlags changes, s) =>
        body branches (.flags changes :: parts) fuel
          { r with rest := s, extended := (flagValue? changes .extended).getD x }
      | some (.group changes captures name, s) =>
        if name.any r.names.contains then none
        else
          let inside : Reading := {
            rest := s, names := name.toList ++ r.names
            extended := (flagValue? changes .extended).getD x }
          match body [] [] fuel inside with
          | some (inner, { rest := ')' :: s, names, .. }) =>
            body branches (.group changes captures inner :: parts) fuel
              { rest := s, names, extended := x }
          | _ => none
    | '[' :: s =>
      match setAt x s with
      | some (a, s) => go (.set a :: parts) s
      | none => none
    | '?' :: s => (repeatLast 0 (some 1) parts).bind fun parts => go parts (skipLazy s)
    | '*' :: s => (repeatLast 0 none parts).bind fun parts => go parts (skipLazy s)
    | '+' :: s => (repeatLast 1 none parts).bind fun parts => go parts (skipLazy s)
    | '\x7b' :: s =>
      match countRange x s with
      | some (min, max, s) =>
        (repeatLast min max parts).bind fun parts => go parts (skipLazy (skipSpace x s))
      | none => none
    | '\\' :: s =>
      match escape x s with
      | some (.literal c octet, s) => go (.literal c octet :: parts) s
      | some (.anchor a, s) => go (.anchor a :: parts) s
      | some (.short kind negated, s) => go (.set (.short kind negated) :: parts) s
      | some (.property query negated, s) => go (.set (.property query negated) :: parts) s
      | some (.dot, s) => go (.dot :: parts) s
      | none => none
    | '.' :: s => go (.dot :: parts) s
    | '^' :: s => go (.anchor .lineStart :: parts) s
    | '$' :: s => go (.anchor .lineEnd :: parts) s
    | c :: s => go (.literal c false :: parts) s

/-- How deep the parts of a set are nested. -/
def setDepth : SetSyntax → Nat
  | .union items => 1 + depths items
  | .bracketed _ inner => 1 + setDepth inner
  | .operation _ left right => 1 + max (setDepth left) (setDepth right)
  | _ => 0
where
  /-- The greatest depth in a list of sets. -/
  depths : List SetSyntax → Nat
  | [] => 0
  | a :: rest => max (setDepth a) (depths rest)

/-- How deep the parts of an expression are nested. -/
def depth : Syntax → Nat
  | .set (.bracketed negated inner) => setDepth (.bracketed negated inner)
  | .repetition _ _ inner => 1 + depth inner
  | .group _ _ inner => 1 + depth inner
  | .alternation branches => 1 + depths branches
  | .concat parts => 1 + depths parts
  | _ => 0
where
  /-- The greatest depth in a list of expressions. -/
  depths : List Syntax → Nat
  | [] => 0
  | a :: rest => max (depth a) (depths rest)

/-- How deep an expression may be nested. -/
def depthLimit : Nat := 250

/-- The syntax tree of a text, if it is a regular expression. -/
def parse? (text : String) : Option Syntax :=
  let s := text.toList
  match body [] [] (2 * s.length + 2) { rest := s } with
  | some (e, { rest := [], .. }) => if depth e ≤ depthLimit then some e else none
  | _ => none

end Syntax

end Stocktake.Regex
