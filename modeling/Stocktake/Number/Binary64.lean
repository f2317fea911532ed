/-!
# Double-precision numbers

Numbers in the binary64 format as exact dyadic values, so that every operation here is arithmetic
on natural numbers: rounding a quotient or a decimal to the nearest double, the fewest decimal digits
that read back, and a fixed number of decimals.
-/

namespace Stocktake

/-- A double-precision number.  The finite ones are `significand · 2 ^ exponent`, where `significand`
    is below `2 ^ 53` and the exponent at least `-1074`; of the ways to write a value so, the one
    with the smallest exponent that keeps the significand whole is used. -/
inductive Binary64
  | finite (negative : Bool) (significand : Nat) (exponent : Int)
  | infinite (negative : Bool)
  | nan
  deriving DecidableEq, Repr

namespace Binary64

/-- Zero. -/
def zero : Binary64 := .finite false 0 (-1074)

/-- One. -/
def one : Binary64 := .finite false (1 <<< 52) (-52)

/-- The quotient rounded to a whole number, ties to even. -/
def roundDiv (num den : Nat) : Nat :=
  let q := num / den
  let r := num % den
  if den < 2 * r then q + 1
  else if 2 * r = den then (if q % 2 = 0 then q else q + 1)
  else q

/-- The exponent `e` with `2 ^ e ≤ num / den < 2 ^ (e + 1)`, up to one too low. -/
def quotientLog (num den : Nat) : Int := (Nat.log2 num : Int) - (Nat.log2 den : Int) - 1

/-- `num / den · 2 ^ (- e)` rounded to a whole number. -/
def scaledRound (num den : Nat) (e : Int) : Nat :=
  if 0 ≤ e then roundDiv num (den <<< e.toNat) else roundDiv (num <<< (-e).toNat) den

/-- The double nearest to `num / den`, ties to even. -/
def ofQuotient (negative : Bool) (num den : Nat) : Binary64 :=
  if num = 0 || den = 0 then .finite negative 0 (-1074)
  else
    let low := max (quotientLog num den - 52) (-1074)
    -- One more bit than the estimate gives may be there.
    let e := if 1 <<< 53 ≤ scaledRound num den low then low + 1 else low
    let m := scaledRound num den e
    let (m, e) := if m = 1 <<< 53 then (1 <<< 52, e + 1) else (m, e)
    if 971 < e then .infinite negative else .finite negative m e

/-- The double nearest to `digits · 10 ^ exponent`.  A value of which the number of digits alone
    shows that it is out of range is not computed. -/
def ofDecimal (negative : Bool) (digits : Nat) (exponent : Int) : Binary64 :=
  let size : Int := (Nat.toDigits 10 digits).length
  if digits = 0 then .finite negative 0 (-1074)
  else if 310 < size + exponent then .infinite negative
  else if size + exponent < -326 then .finite negative 0 (-1074)
  else if 0 ≤ exponent then ofQuotient negative (digits * Nat.pow 10 exponent.toNat) 1
  else ofQuotient negative digits (Nat.pow 10 (-exponent).toNat)

/-- Neither infinite nor NaN. -/
def isFinite : Binary64 → Bool
  | .finite .. => true
  | _ => false

/-- Whether the number is zero of either sign. -/
def isZero : Binary64 → Bool
  | .finite _ m _ => m = 0
  | _ => false

/-- Equality of the values, every NaN counting as the same. -/
def sameValue (a b : Binary64) : Bool := (a.isZero && b.isZero) || a = b

/-- The number moved into the interval from zero to one; NaN becomes zero. -/
def clampUnit : Binary64 → Binary64
  | .nan => zero
  | .infinite true => zero
  | .infinite false => one
  | .finite true _ _ => zero
  | .finite false m e =>
    if 0 ≤ e then (if m = 0 then zero else one)
    else if 1 <<< (-e).toNat ≤ m then one else .finite false m e

/-- A fraction `num / den` of naturals, compared with another by cross multiplication. -/
structure Ratio where
  num : Nat
  den : Nat

/-- Whether one fraction is below another one. -/
def Ratio.lt (a b : Ratio) : Bool := a.num * b.den < b.num * a.den

/-- `m · 2 ^ e` as a fraction. -/
def dyadic (m : Nat) (e : Int) : Ratio :=
  if 0 ≤ e then ⟨m <<< e.toNat, 1⟩ else ⟨m, 1 <<< (-e).toNat⟩

/-- `d · 10 ^ k` as a fraction. -/
def decimal (d : Nat) (k : Int) : Ratio :=
  if 0 ≤ k then ⟨d * Nat.pow 10 k.toNat, 1⟩ else ⟨d, Nat.pow 10 (-k).toNat⟩

/-- The ends of the interval of reals that round to `m · 2 ^ e`. -/
def roundingInterval (m : Nat) (e : Int) : Ratio × Ratio :=
  let low := if m = 1 <<< 52 && -1074 < e then 4 * m - 1 else 4 * m - 2
  (dyadic low (e - 2), dyadic (4 * m + 2) (e - 2))

/-- Whether a fraction rounds to `m · 2 ^ e`; the ends do if `m` is even. -/
def roundsTo (m : Nat) (e : Int) (x : Ratio) : Bool :=
  let (low, high) := roundingInterval m e
  if m % 2 = 0 then !x.lt low && !high.lt x else low.lt x && x.lt high

/-- The number of decimal digits before the point of a fraction (nought or less below one), up to one
    too low. -/
def decimalSize (x : Ratio) : Int :=
  (Nat.toDigits 10 x.num).length - (Nat.toDigits 10 x.den).length

/-- The grid point of `10 ^ k` nearest to `m · 2 ^ e` among its two neighbours that round to it. -/
def gridPoint? (m : Nat) (e k : Int) : Option Nat :=
  let v := dyadic m e
  let d := if 0 ≤ k then v.num / (v.den * Nat.pow 10 k.toNat) else v.num * Nat.pow 10 (-k).toNat / v.den
  let lowFits := roundsTo m e (decimal d k) && d != 0
  let highFits := roundsTo m e (decimal (d + 1) k)
  match lowFits, highFits with
  | true, false => some d
  | false, true => some (d + 1)
  | false, false => none
  | true, true =>
    -- Twice the value against the sum of both neighbours.
    if (Ratio.mk (2 * v.num) v.den).lt (decimal (2 * d + 1) k) then some d else some (d + 1)

/-- The fewest digits `d` and the power `k` with `d · 10 ^ k` rounding to `m · 2 ^ e`, looking at the
    grids from `10 ^ k` down. -/
def shortestFrom (m : Nat) (e : Int) : (grids : Nat) → (k : Int) → Nat × Int
  | 0, k => (0, k)
  | grids + 1, k =>
    match gridPoint? m e k with
    | some d => (d, k)
    | none => shortestFrom m e grids (k - 1)

/-- The fewest digits that read back as `m · 2 ^ e`, and the power of ten that they count. -/
def shortest (m : Nat) (e : Int) : Nat × Int :=
  shortestFrom m e 20 (decimalSize (dyadic m e) + 1)

/-- Digits and a power of ten without exponent notation. -/
def positional (digits : Nat) (k : Int) : String :=
  let ds := Nat.toDigits 10 digits
  if 0 ≤ k then String.ofList (ds ++ List.replicate k.toNat '0')
  else
    let places := (-k).toNat
    if places < ds.length then
      String.ofList (ds.take (ds.length - places) ++ '.' :: ds.drop (ds.length - places))
    else String.ofList ('0' :: '.' :: List.replicate (places - ds.length) '0' ++ ds)

/-- The number in positional notation with the fewest digits that read back. -/
def text : Binary64 → String
  | .nan => "NaN"
  | .infinite negative => if negative then "-inf" else "inf"
  | .finite negative m e =>
    let body :=
      if m = 0 then "0"
      else
        let (d, k) := shortest m e
        positional d k
    if negative then "-" ++ body else body

/-- The text of the number, with `.0` behind a whole one. -/
def textWithPoint (x : Binary64) : String :=
  let s := x.text
  if x.isFinite && !s.toList.contains '.' then s ++ ".0" else s

/-- The number with exactly `places` decimals, ties to even.  A zero has no sign. -/
def fixed (places : Nat) : Binary64 → String
  | .nan => "NaN"
  | .infinite negative => if negative then "-inf" else "inf"
  | .finite negative m e =>
    let v := dyadic m e
    let scaled := roundDiv (v.num * Nat.pow 10 places) v.den
    let ds := Nat.toDigits 10 scaled
    let ds := List.replicate (places + 1 - ds.length) '0' ++ ds
    let body := String.ofList (ds.take (ds.length - places) ++ '.' :: ds.drop (ds.length - places))
    if negative && scaled != 0 then "-" ++ body else body

end Binary64

end Stocktake
