import Stocktake.Regex.Syntax

/-!
# What a regular expression means

Expressions without flags, and where they match.  The meaning of an expression in a text takes a set
of positions to the set of the positions at which a match that starts at one of them may end; sets of
positions are the bits of a natural number, so that a character moves all positions at once.
-/

namespace Stocktake.Regex

/-- What is asked of the two sides of a position. -/
inductive Look
  | textStart
  | textEnd
  | lineStart (carriageReturn : Bool)
  | lineEnd (carriageReturn : Bool)
  | wordBoundary (allScripts negated : Bool)
  | wordStart (allScripts : Bool)
  | wordEnd (allScripts : Bool)
  | wordStartHalf (allScripts : Bool)
  | wordEndHalf (allScripts : Bool)
  deriving DecidableEq, Repr

/-- A regular expression. -/
inductive Expr
  | empty
  | set (a : CharSet)
  | look (l : Look)
  | capture (inner : Expr)
  | concat (parts : List Expr)
  | choice (branches : List Expr)
  | repeated (min : Nat) (max : Option Nat) (inner : Expr)
  deriving Repr, Inhabited

/-- The flags in force. -/
structure Flags where
  ignoreCase : Bool := false
  multiLine : Bool := false
  dotAll : Bool := false
  allScripts : Bool := true
  carriageReturn : Bool := false

namespace Flags

/-- Gives one flag a value. -/
def set (fs : Flags) : Flag × Bool → Flags
  | (.ignoreCase, v) => { fs with ignoreCase := v }
  | (.multiLine, v) => { fs with multiLine := v }
  | (.dotAll, v) => { fs with dotAll := v }
  | (.allScripts, v) => { fs with allScripts := v }
  | (.carriageReturn, v) => { fs with carriageReturn := v }
  | (.swapGreed, _) => fs
  | (.extended, _) => fs

/-- The flags after some changes. -/
def change (fs : Flags) (changes : FlagChanges) : Flags := changes.foldl set fs

/-- A set with the case variants of its members if case does not count. -/
def fold (fs : Flags) (a : CharSet) : CharSet :=
  if fs.ignoreCase then .folded (!fs.allScripts) a else a

end Flags

namespace Expr

/-- A set that has no character outside of ASCII if only ASCII is known. -/
def checked (fs : Flags) (a : CharSet) : Option CharSet :=
  if fs.allScripts || a.isAscii then some a else none

/-- The set of a short class. -/
def shortSet (fs : Flags) (kind : ShortClass) (negated : Bool) : Option CharSet :=
  let a :=
    match kind, fs.allScripts with
    | .digit, true => digitSet
    | .space, true => spaceSet
    | .word, true => wordSet
    | .digit, false => .ranges asciiDigits
    | .space, false => .ranges asciiSpaces
    | .word, false => .ranges asciiWords
  checked fs (if negated then .compl a else a)

/-- The set of a property class; there is none if only ASCII is known. -/
def propertySet (fs : Flags) (query : PropertyQuery) (negated : Bool) : Option CharSet :=
  if !fs.allScripts then none
  else
    let (found, differs) :=
      match query with
      | .named name => (namedSet? name, false)
      | .valued property value differs => (valuedSet? property value, differs)
    found.map fun a => if negated != differs then .compl (fs.fold a) else fs.fold a

/-- Whether a character may stand in brackets: of the characters outside of ASCII none may if only
    ASCII is known. -/
def allowed (fs : Flags) (c : Char) : Bool := fs.allScripts || c.toNat < 128

mutual

/-- The set that stands in brackets. -/
def setOf (fs : Flags) : SetSyntax → Option CharSet
  | .literal c _ => if allowed fs c then some (.single c) else none
  | .range a _ b _ =>
    if allowed fs a && allowed fs b then some (.ranges [(a.toNat, b.toNat)]) else none
  | .posix name negated =>
    (posixRanges? name).map fun rs => if negated then .compl (.ranges rs) else .ranges rs
  | .short kind negated => shortSet fs kind negated
  | .property query negated => propertySet fs query negated
  | .union items => unionOf fs items
  | .bracketed negated inner =>
    (setOf fs inner).bind fun a =>
      checked fs (if negated then .compl (fs.fold a) else fs.fold a)
  | .operation op left right =>
    match setOf fs left, setOf fs right with
    | some a, some b =>
      some <|
        match op with
        | .intersection => .inter (fs.fold a) (fs.fold b)
        | .difference => .diff (fs.fold a) (fs.fold b)
        | .symmetricDifference => .symmDiff (fs.fold a) (fs.fold b)
    | _, _ => none

/-- The union of the sets of some items. -/
def unionOf (fs : Flags) : List SetSyntax → Option CharSet
  | [] => some .empty
  | a :: rest =>
    match setOf fs a, unionOf fs rest with
    | some a, some b => some (.union a b)
    | _, _ => none

end

/-- What an anchor asks. -/
def lookOf (fs : Flags) : Anchor → Look
  | .lineStart => if fs.multiLine then .lineStart fs.carriageReturn else .textStart
  | .lineEnd => if fs.multiLine then .lineEnd fs.carriageReturn else .textEnd
  | .textStart => .textStart
  | .textEnd => .textEnd
  | .wordBoundary => .wordBoundary fs.allScripts false
  | .noWordBoundary => .wordBoundary fs.allScripts true
  | .wordStart => .wordStart fs.allScripts
  | .wordEnd => .wordEnd fs.allScripts
  | .wordStartHalf => .wordStartHalf fs.allScripts
  | .wordEndHalf => .wordEndHalf fs.allScripts

/-- The characters of the dot; there are none if only ASCII is known. -/
def dotSet (fs : Flags) : Option CharSet :=
  if !fs.allScripts then none
  else if fs.dotAll then some .all
  else if fs.carriageReturn then some (.compl (.ranges [(10, 10), (13, 13)]))
  else some (.compl (.ranges [(10, 10)]))

/-- A literal character.  An octet outside of ASCII is no character. -/
def literal (fs : Flags) (c : Char) (octet : Bool) : Option Expr :=
  if !fs.allScripts && octet && 127 < c.toNat then none else some (.set (fs.fold (.single c)))

/-- The longest match in characters, `none` for no limit.  Of sets the longest match is one. -/
def maxLength : Expr → Option Nat
  | .empty => some 0
  | .set _ => some 1
  | .look _ => some 0
  | .capture inner => maxLength inner
  | .concat parts => sumLengths parts
  | .choice branches => maxLengths branches
  | .repeated _ max inner =>
    match maxLength inner, max with
    | some 0, _ => some 0
    | some n, some m => some (n * m)
    | _, _ => none
where
  /-- The sum of the longest matches. -/
  sumLengths : List Expr → Option Nat
  | [] => some 0
  | e :: rest =>
    match maxLength e, sumLengths rest with
    | some a, some b => some (a + b)
    | _, _ => none
  /-- The longest of the longest matches. -/
  maxLengths : List Expr → Option Nat
  | [] => some 0
  | e :: rest =>
    match maxLength e, maxLengths rest with
    | some a, some b => some (max a b)
    | _, _ => none

/-- A repetition.  What matches only the empty text is repeated at most once. -/
def repetition (min : Nat) (max : Option Nat) (inner : Expr) : Expr :=
  let (min, max) :=
    if inner.maxLength = some 0 then (Nat.min min 1, some (Nat.min (max.getD 1) 1)) else (min, max)
  if max = some 0 then .empty
  else if min = 1 && max = some 1 then inner
  else .repeated min max inner

mutual

/-- The expression that a syntax tree means under flags, and the flags in force behind it; fails for
    what is not allowed under them. -/
def ofSyntaxWith (fs : Flags) : Syntax → Option (Expr × Flags)
  | .empty => some (.empty, fs)
  | .flags changes => some (.empty, fs.change changes)
  | .literal c octet => (literal fs c octet).map (·, fs)
  | .dot => (dotSet fs).map fun a => (.set a, fs)
  | .anchor a => some (.look (lookOf fs a), fs)
  | .set a => (setOf fs a).map fun a => (.set a, fs)
  | .repetition min max inner =>
    (ofSyntaxWith fs inner).map fun (e, fs) => (repetition min max e, fs)
  | .group changes captures inner =>
    (ofSyntaxWith (fs.change changes) inner).map fun (e, _) =>
      (if captures then .capture e else e, fs)
  | .alternation branches => (ofSyntaxList fs branches).map fun (es, fs) => (.choice es, fs)
  | .concat parts => (ofSyntaxList fs parts).map fun (es, fs) => (.concat es, fs)

/-- The expressions of some syntax trees, the flags going from one to the next. -/
def ofSyntaxList (fs : Flags) : List Syntax → Option (List Expr × Flags)
  | [] => some ([], fs)
  | s :: rest =>
    match ofSyntaxWith fs s with
    | none => none
    | some (e, fs) => (ofSyntaxList fs rest).map fun (es, fs) => (e :: es, fs)

end

/-- The expression that a syntax tree means. -/
def ofSyntax? (s : Syntax) : Option Expr := (ofSyntaxWith {} s).map Prod.fst

end Expr

/-- A character of words. -/
def isWordChar (allScripts : Bool) (c : Char) : Bool :=
  if allScripts then
    c.isAlphanum || c == '_' || (127 < c.toNat && wordSet.mem c.toNat)
  else c.isAlphanum || c == '_'

namespace Look

/-- Whether a position has what is asked, between the characters on its two sides. -/
def holds (before after : Option Char) : Look → Bool
  | .textStart => before.isNone
  | .textEnd => after.isNone
  | .lineStart false => before.isNone || before == some '\n'
  | .lineEnd false => after.isNone || after == some '\n'
  | .lineStart true =>
    before.isNone || before == some '\n' || (before == some '\r' && after != some '\n')
  | .lineEnd true =>
    after.isNone || after == some '\r' || (after == some '\n' && before != some '\r')
  | .wordBoundary u negated => (before.any (isWordChar u) != after.any (isWordChar u)) != negated
  | .wordStart u => !before.any (isWordChar u) && after.any (isWordChar u)
  | .wordEnd u => before.any (isWordChar u) && !after.any (isWordChar u)
  | .wordStartHalf u => !before.any (isWordChar u)
  | .wordEndHalf u => !after.any (isWordChar u)

end Look

/-- An expression for one text: sets and looks are replaced by the positions that have them. -/
inductive Machine
  | skip
  /-- Moves over a character at the given positions. -/
  | step (positions : Nat)
  /-- Stays at the given positions. -/
  | stay (positions : Nat)
  | seq (parts : List Machine)
  | choice (branches : List Machine)
  | loop (min : Nat) (max : Option Nat) (inner : Machine)
  deriving Inhabited

/-- The positions of a text at which a test of the two sides holds: `before` is the character on the
    left, `bit` the place of the first position. -/
def lookPositions (l : Look) (before : Option Char) (bit : Nat) : List Char → Nat
  | [] => if l.holds before none then bit else 0
  | c :: s => (if l.holds before (some c) then bit else 0) ||| lookPositions l (some c) (bit * 2) s

/-- The positions of a text before characters of a set, where `word` holds those found since position
    `start` and `bit` is the place of the next one.  Positions are gathered in words of 32. -/
def setPositions (a : CharSet) (start word bit : Nat) : List Char → Nat
  | [] => word <<< start
  | c :: s =>
    let word := if a.mem c.toNat then word ||| bit else word
    if bit = 0x80000000 then word <<< start ||| setPositions a (start + 32) 0 1 s
    else setPositions a start word (bit * 2) s

namespace Machine

mutual

/-- The machine of an expression for a text. -/
def ofExpr (text : List Char) : Expr → Machine
  | .empty => .skip
  | .set a => .step (setPositions a 0 0 1 text)
  | .look l => .stay (lookPositions l none 1 text)
  | .capture inner => ofExpr text inner
  | .concat parts => .seq (ofExprs text parts)
  | .choice branches => .choice (ofExprs text branches)
  | .repeated min max inner => .loop min max (ofExpr text inner)

/-- The machines of some expressions for a text. -/
def ofExprs (text : List Char) : List Expr → List Machine
  | [] => []
  | e :: rest => ofExpr text e :: ofExprs text rest

end

/-- Applies a step a number of times, as long as it changes anything. -/
def iterate (f : Nat → Nat) : Nat → Nat → Nat
  | 0, s => s
  | n + 1, s =>
    let t := f s
    if t = s then s else iterate f n t

/-- Everything reached from `frontier` in at most so many steps, with what was reached before. -/
def reach (f : Nat → Nat) : (steps : Nat) → (reached frontier : Nat) → Nat
  | 0, reached, _ => reached
  | n + 1, reached, frontier =>
    let t := f frontier
    let fresh := t ^^^ (t &&& reached)
    if fresh = 0 then reached else reach f n (reached ||| fresh) fresh

mutual

/-- The positions at which a match from one of the given positions may end; the text has `size`
    characters. -/
def run (size : Nat) : Machine → Nat → Nat
  | .skip, s => s
  | .step ps, s => (s &&& ps) <<< 1
  | .stay ps, s => s &&& ps
  | .seq parts, s => runSeq size parts s
  | .choice branches, s => runChoice size branches s
  | .loop min max inner, s =>
    let start := iterate (run size inner) min s
    let more :=
      match max with
      | some max => Nat.min (max - min) (size + 1)
      | none => size + 1
    reach (run size inner) more start start

/-- One machine after the other. -/
def runSeq (size : Nat) : List Machine → Nat → Nat
  | [], s => s
  | m :: rest, s => runSeq size rest (run size m s)

/-- Any one of some machines. -/
def runChoice (size : Nat) : List Machine → Nat → Nat
  | [], _ => 0
  | m :: rest, s => run size m s ||| runChoice size rest s

end

end Machine

/-- Whether an expression matches somewhere in a text. -/
def Expr.occursIn (e : Expr) (text : List Char) : Bool :=
  (Machine.ofExpr text e).run text.length (1 <<< (text.length + 1) - 1) != 0

end Stocktake.Regex
