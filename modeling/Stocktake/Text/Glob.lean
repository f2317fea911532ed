/-!
# Wildcard patterns

A pattern is made of single characters, `?` for any character, `*` for any text, `**` for any number
of whole path segments, and sets in brackets, which an exclamation mark turns round.
-/

namespace Stocktake.Glob

/-- A part of a bracketed set. -/
inductive Range
  | single (c : Char)
  | between (low high : Char)
  deriving DecidableEq, Repr

/-- Whether a character is in the set. -/
def Range.has (c : Char) : Range → Bool
  | .single d => c == d
  | .between low high => low ≤ c && c ≤ high

/-- A part of a pattern. -/
inductive Token
  | char (c : Char)
  | anyChar
  | anyText
  | anySegments
  | within (set : List Range)
  | except (set : List Range)
  deriving DecidableEq, Repr

/-- The parts of a bracketed set. -/
def ranges : List Char → List Range
  | a :: '-' :: b :: rest => .between a b :: ranges rest
  | a :: rest => .single a :: ranges rest
  | [] => []

/-- Cuts after the first closing bracket that is not the first character. -/
def untilBracket : List Char → Option (List Char × List Char)
  | [] => none
  | first :: rest =>
    let body := rest.takeWhile (· != ']')
    match rest.dropWhile (· != ']') with
    | [] => none
    | _ :: after => some (first :: body, after)

/-- A bracketed set after its opening bracket. -/
def bracket? : List Char → Option (Token × List Char)
  | '!' :: rest => (untilBracket rest).map fun (body, after) => (.except (ranges body), after)
  | rest => (untilBracket rest).map fun (body, after) => (.within (ranges body), after)

/-- Adds a part; `**` right after another one, with something before, adds nothing. -/
def addToken (done : List Token) (t : Token) : List Token :=
  match t, done with
  | .anySegments, .anySegments :: _ :: _ => done
  | _, _ => t :: done

/-- The parts of a pattern, read with the parts before in reverse; `before` is the character before
    the rest.  A run of three or more asterisks is ill-formed, and one of two unless it stands for
    whole segments. -/
def tokens : (fuel : Nat) → (before : Option Char) → (done : List Token) → List Char →
    Option (List Token)
  | 0, _, done, _ => some done.reverse
  | _ + 1, _, done, [] => some done.reverse
  | fuel + 1, before, done, '*' :: '*' :: rest =>
    if before.isSome && before != some '/' then none
    else
      match rest with
      | [] => some (addToken done .anySegments).reverse
      | '/' :: rest => tokens fuel (some '/') (addToken done .anySegments) rest
      | _ => none
  | fuel + 1, _, done, '*' :: rest => tokens fuel (some '*') (addToken done .anyText) rest
  | fuel + 1, _, done, '?' :: rest => tokens fuel (some '?') (addToken done .anyChar) rest
  | fuel + 1, _, done, '[' :: rest =>
    (bracket? rest).bind fun (t, rest) => tokens fuel (some ']') (addToken done t) rest
  | fuel + 1, _, done, c :: rest => tokens fuel (some c) (addToken done (.char c)) rest

/-- The parts of a pattern, if it is well-formed. -/
def parse? (pattern : String) : Option (List Token) :=
  let cs := pattern.toList
  tokens (cs.length + 1) none [] cs

/-- Some end of the text after at least `first` goes on as `rest` does. -/
def anyEnd (rest : List Char → Bool) : List Char → Bool
  | [] => rest []
  | c :: cs => rest (c :: cs) || anyEnd rest cs

/-- Some end of the text that starts after a slash, or is empty, goes on as `rest` does. -/
def anySegmentEnd (rest : List Char → Bool) : List Char → Bool
  | [] => rest []
  | c :: cs => (c == '/' && rest cs) || anySegmentEnd rest cs

/-- Whether the parts match the whole text. -/
def accepts : List Token → List Char → Bool
  | [], cs => cs.isEmpty
  | .anyText :: ts, cs => anyEnd (accepts ts) cs
  | .anySegments :: ts, cs => accepts ts cs || anySegmentEnd (accepts ts) cs
  | _ :: _, [] => false
  | .char d :: ts, c :: cs => c == d && accepts ts cs
  | .anyChar :: ts, _ :: cs => accepts ts cs
  | .within set :: ts, c :: cs => (set.any (Range.has c)) && accepts ts cs
  | .except set :: ts, c :: cs => !(set.any (Range.has c)) && accepts ts cs

/-- Whether a pattern is well-formed and matches the text. -/
def matchesText (pattern text : String) : Bool :=
  match parse? pattern with
  | some ts => accepts ts text.toList
  | none => false

end Stocktake.Glob
