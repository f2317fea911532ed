import Stocktake.Number.Binary64

/-!
# Numbers as people type them

Whole numbers of 64 bits and floating-point numbers, with an optional sign and nothing around them.
-/

namespace Stocktake.Numeral

/-- A decimal digit. -/
def isDigit (c : Char) : Bool := '0' ≤ c && c ≤ '9'

/-- The number that decimal digits spell. -/
def value (ds : List Char) : Nat := ds.foldl (fun n d => n * 10 + (d.toNat - '0'.toNat)) 0

/-- A sign, and whether it is a minus. -/
def sign : List Char → Bool × List Char
  | '+' :: s => (false, s)
  | '-' :: s => (true, s)
  | s => (false, s)

/-- Digits and nothing else. -/
def digits? (s : List Char) : Option Nat :=
  if s.isEmpty || !s.all isDigit then none else some (value s)

/-- A whole number that fits into 64 bits. -/
def integer? (s : List Char) : Option Int :=
  let (negative, s) := sign s
  (digits? s).bind fun n =>
    let x : Int := if negative then -n else n
    if -0x8000000000000000 ≤ x && x < 0x8000000000000000 then some x else none

/-- An ASCII letter in lower case. -/
def lowerAscii (c : Char) : Char :=
  if 'A' ≤ c && c ≤ 'Z' then Char.ofNat (c.toNat + 32) else c

/-- The exponent that ends a number. -/
def exponent? : List Char → Option Int
  | [] => some 0
  | e :: s =>
    if e = 'e' || e = 'E' then
      let (negative, s) := sign s
      (digits? s).map fun n => if negative then -(n : Int) else n
    else none

/-- A number with an optional point, which has a digit on one of its sides, and an optional
    exponent. -/
def decimal? (negative : Bool) (s : List Char) : Option Binary64 :=
  let whole := s.takeWhile isDigit
  let rest := s.dropWhile isDigit
  let (frac, rest) := match rest with
    | '.' :: r => (r.takeWhile isDigit, r.dropWhile isDigit)
    | r => ([], r)
  if whole.isEmpty && frac.isEmpty then none
  else
    (exponent? rest).map fun e =>
      Binary64.ofDecimal negative (value (whole ++ frac)) (e - frac.length)

/-- A floating-point number; infinity and NaN have names. -/
def float? (s : List Char) : Option Binary64 :=
  let (negative, s) := sign s
  let name := String.ofList (s.map lowerAscii)
  if name = "inf" ∨ name = "infinity" then some (.infinite negative)
  else if name = "nan" then some .nan
  else decimal? negative s

end Stocktake.Numeral
