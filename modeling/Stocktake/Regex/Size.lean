import Stocktake.Regex.Expr

/-!
# How large an expression is

The memory that the byte automaton of an expression takes.  A counted repetition copies its inner
expression, and a set takes a path of states for every sequence of octet ranges of its UTF-8 forms,
common starts shared; so a short expression may be too large to be taken.
-/

namespace Stocktake.Regex

/-- The bounds at which membership in a set may change. -/
def CharSet.bounds : CharSet → List Nat
  | .ranges rs => rs.flatMap fun (a, b) => [a, b + 1]
  | .union a b => a.bounds ++ b.bounds
  | .inter a b => a.bounds ++ b.bounds
  | .diff a b => a.bounds ++ b.bounds
  | .symmDiff a b => a.bounds ++ b.bounds
  | .compl a => a.bounds
  | .folded _ a =>
    let singles := foldRuns.flatMap fun (first, last, step, distance) =>
      (List.range ((last - first) / step + 1)).flatMap fun i =>
        let n := first + i * step
        [n, n + 1, n - distance, n - distance + 1]
    a.bounds ++ (List.range 59).map (· + 0x41) ++ singles

/-- Cuts the code points at sorted bounds into the ranges that are in a set; `from?` is the start of
    the range that is open. -/
def rangesBetween (a : CharSet) (from? : Option Nat) : List Nat → List (Nat × Nat)
  | [] =>
    match from? with
    | some first => [(first, 0x10FFFF)]
    | none => []
  | b :: rest =>
    match from?, a.mem b with
    | some first, true => rangesBetween a (some first) rest
    | some first, false => (first, b - 1) :: rangesBetween a none rest
    | none, true => rangesBetween a (some b) rest
    | none, false => rangesBetween a none rest

/-- A set as ranges of code points without the surrogates. -/
def CharSet.toRanges (a : CharSet) : List (Nat × Nat) :=
  let chars := CharSet.diff a (.ranges [(0xD800, 0xDFFF)])
  let bounds := ((0 :: chars.bounds).filter (· ≤ 0x10FFFF)).mergeSort
  rangesBetween chars none bounds.eraseReps

/-- A sequence of octet ranges. -/
abbrev OctetRanges := List (Nat × Nat)

/-- The octets after the first one, six bits each, of a code point. -/
def tailOctets (n : Nat) : (count : Nat) → List Nat
  | 0 => []
  | k + 1 => (0x80 + (n >>> (6 * k)) % 64) :: tailOctets n k

/-- The octets of a code point with a given number of following ones. -/
def octetsOf (following n : Nat) : List Nat :=
  let lead :=
    match following with
    | 0 => 0
    | 1 => 0xC0
    | 2 => 0xE0
    | _ => 0xF0
  (lead + n >>> (6 * following)) :: tailOctets n following

/-- The sequences of octet ranges of a range of code points that all have the same number of octets:
    the range is cut where a following octet does not run over all its values. -/
def octetRanges (following : Nat) : (fuel : Nat) → (first last : Nat) → List OctetRanges
  | 0, _, _ => []
  | fuel + 1, first, last =>
    let cut := (List.range following).findSome? fun i =>
      let m := 1 <<< (6 * (i + 1))
      if first / m ≠ last / m then
        if first % m ≠ 0 then some ((first / m + 1) * m)
        else if (last + 1) % m ≠ 0 then some (last / m * m)
        else none
      else none
    match cut with
    | some c =>
      octetRanges following fuel first (c - 1) ++ octetRanges following fuel c last
    | none => [(octetsOf following first).zip (octetsOf following last)]

/-- The sequences of octet ranges of a range of code points. -/
def sequencesOf (r : Nat × Nat) : List OctetRanges :=
  let part (low high following : Nat) : List OctetRanges :=
    let first := max r.1 low
    let last := min r.2 high
    if first ≤ last then octetRanges following 64 first last else []
  part 0 0x7F 0 ++ part 0x80 0x7FF 1 ++ part 0x800 0xFFFF 2 ++ part 0x10000 0x10FFFF 3

/-- The length of the common start of two sequences. -/
def sharedLength : OctetRanges → OctetRanges → Nat
  | a :: as, b :: bs => if a = b then 1 + sharedLength as bs else 0
  | _, _ => 0

/-- What a state takes. -/
def stateSize : Nat := 32

/-- What the paths of some sequences take that come after the sequence `before`. -/
def pathsSize (before : OctetRanges) : List OctetRanges → Nat
  | [] => 0
  | s :: rest => 4 + stateSize * (s.length - sharedLength before s) + pathsSize s rest

/-- What the states of a set take. -/
def CharSet.size (a : CharSet) : Nat :=
  match a.toRanges with
  | [(x, y)] =>
    if x = y then stateSize * (sequencesOf (x, x)).foldl (fun n s => n + s.length) 0
    else if y < 128 then 2 * stateSize + 8
    else 2 * stateSize + pathsSize [] (sequencesOf (x, y))
  | rs =>
    if rs.all fun r => r.2 < 128 then 2 * stateSize + 8 * rs.length
    else 2 * stateSize + pathsSize [] (rs.flatMap sequencesOf)

namespace Expr

/-- What an expression takes. -/
def size : Expr → Nat
  | .empty => stateSize
  | .set a => a.size
  | .look _ => stateSize
  | .capture inner => 2 * stateSize + size inner
  | .concat parts => sizes parts
  | .choice branches => 2 * stateSize + sizes branches
  | .repeated min max inner =>
    let one := size inner
    match max with
    | none => Nat.max min 1 * one + stateSize + 8
    | some max => min * one + stateSize + (max - min) * (one + stateSize + 8)
where
  /-- What some expressions take together. -/
  sizes : List Expr → Nat
  | [] => 0
  | e :: rest => size e + sizes rest

/-- The largest size of an expression that is taken. -/
def sizeLimit : Nat := 10 <<< 20

end Expr

/-- A regular expression with its text. -/
structure Pattern where
  source : String
  expr : Expr
  deriving Repr, Inhabited

namespace Pattern

/-- The regular expression that a text is; `none` if it is none or is too large. -/
def parse? (source : String) : Option Pattern :=
  match (Syntax.parse? source).bind Expr.ofSyntax? with
  | some expr => if expr.size ≤ Expr.sizeLimit then some ⟨source, expr⟩ else none
  | none => none

/-- Whether the expression matches somewhere in a text. -/
def occursIn (p : Pattern) (text : String) : Bool := p.expr.occursIn text.toList

end Pattern

end Stocktake.Regex
