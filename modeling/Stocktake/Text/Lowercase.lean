import Stocktake.Text.CaseTable

/-!
# Lowercase

Full lowercasing of a text without regard to a language.  Every character is mapped by itself, but a
capital sigma becomes the final form at the end of a word: some cased letter stands before it and
none after it, case-ignorable characters between them not counting.
-/

namespace Stocktake.Text

/-- Whether a code point lies in one of the ranges. -/
def inRanges (ranges : List (Nat × Nat)) (n : Nat) : Bool :=
  ranges.any fun (first, last) => first ≤ n && n ≤ last

/-- A cased letter. -/
def isCased (c : Char) : Bool := inRanges casedRanges c.toNat

/-- A character that does not break a word for the final sigma. -/
def isCaseIgnorable (c : Char) : Bool := inRanges caseIgnorableRanges c.toNat

/-- The simple lowercase of a code point: the shift of the run that holds it. -/
def lowerCode (n : Nat) : List (Nat × Nat × Nat × Int) → Nat
  | [] => n
  | (first, last, step, shift) :: runs =>
    if first ≤ n && n ≤ last && (n - first) % step = 0 then (n + shift).toNat
    else lowerCode n runs

/-- The lowercase of one character outside any word.  Only the capital I with a dot above becomes
    two characters. -/
def lowerChar (c : Char) : List Char :=
  if c.toNat < 128 then [c.toLower]
  else if c.toNat = 0x130 then ['i', Char.ofNat 0x307]
  else [Char.ofNat (lowerCode c.toNat lowercaseRuns)]

/-- Whether the first character that is not case-ignorable is a cased letter. -/
def startsCased (s : List Char) : Bool :=
  match s.dropWhile isCaseIgnorable with
  | c :: _ => isCased c
  | [] => false

/-- Lowercases `s`, the characters before it standing in `before` from the nearest one on. -/
def lowerAfter (before : List Char) : List Char → List Char
  | [] => []
  | c :: s =>
    (if c = 'Σ' then [if startsCased before && !startsCased s then 'ς' else 'σ'] else lowerChar c) ++
      lowerAfter (c :: before) s

/-- The lowercase of a text. -/
def lowerChars (s : List Char) : List Char := lowerAfter [] s

/-- The lowercase of a text. -/
def lowercase (s : String) : String := String.ofList (lowerChars s.toList)

end Stocktake.Text
