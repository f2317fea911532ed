import Stocktake.Number.Binary64

/-!
# What a plain YAML scalar stands for

The core schema: null, booleans, integers in four bases and floats; everything else is a string.  A
number that starts with a nought and goes on in digits is a string.  An integer that needs more than
64 bits but no more than 128 cannot be represented.
-/

namespace Stocktake.Yaml

/-- What an untagged plain scalar stands for. -/
inductive Scalar
  | null
  | bool (value : Bool)
  | integer (value : Int)
  | float (value : Binary64)
  | string (text : String)
  /-- An integer out of range. -/
  | unrepresentable
  deriving DecidableEq, Repr

namespace Scalar

/-- The value of a digit in a base up to 16. -/
def digitIn? (base : Nat) (c : Char) : Option Nat :=
  let v :=
    if '0' ≤ c && c ≤ '9' then some (c.toNat - '0'.toNat)
    else if 'a' ≤ c && c ≤ 'f' then some (c.toNat - 'a'.toNat + 10)
    else if 'A' ≤ c && c ≤ 'F' then some (c.toNat - 'A'.toNat + 10)
    else none
  v.filter (· < base)

/-- The number that one or more digits spell. -/
def digits? (base : Nat) (s : List Char) : Option Nat :=
  if s.isEmpty then none
  else s.foldl (fun n c => n.bind fun n => (digitIn? base c).map (n * base + ·)) (some 0)

/-- A nought and then digits, with or without a sign. -/
def isPaddedDigits (s : List Char) : Bool :=
  let s :=
    match s with
    | '-' :: r | '+' :: r => r
    | _ => s
  match s with
  | '0' :: r => !r.isEmpty && r.all fun c => '0' ≤ c && c ≤ '9'
  | _ => false

/-- An integer without sign or with a plus. -/
def unsigned? (s : List Char) : Option Nat :=
  let body :=
    match s with
    | '+' :: r => r
    | _ => s
  match body with
  | '0' :: 'x' :: r => digits? 16 r
  | '0' :: 'o' :: r => digits? 8 r
  | '0' :: 'b' :: r => digits? 2 r
  | _ => if isPaddedDigits s then none else digits? 10 body

/-- The size of a negative integer. -/
def negated? (s : List Char) : Option Nat :=
  match s with
  | '-' :: '0' :: 'x' :: r => digits? 16 r
  | '-' :: '0' :: 'o' :: r => digits? 8 r
  | '-' :: '0' :: 'b' :: r => digits? 2 r
  | '-' :: r => if isPaddedDigits s then none else digits? 10 r
  | _ => none

/-- The decimal places and exponent of a float: digits with a point and an exponent, of which at
    least one digit stands before the exponent. -/
def decimal? (negative : Bool) (s : List Char) : Option Binary64 :=
  let isDigit (c : Char) : Bool := '0' ≤ c && c ≤ '9'
  let value (ds : List Char) : Nat := ds.foldl (fun n d => n * 10 + (d.toNat - '0'.toNat)) 0
  let whole := s.takeWhile isDigit
  let s := s.dropWhile isDigit
  let (frac, s) :=
    match s with
    | '.' :: r => (r.takeWhile isDigit, r.dropWhile isDigit)
    | _ => ([], s)
  if whole.isEmpty && frac.isEmpty then none
  else
    let number (e : Int) := Binary64.ofDecimal negative (value (whole ++ frac)) (e - frac.length)
    match s with
    | [] => some (number 0)
    | e :: s =>
      if e = 'e' || e = 'E' then
        let (minus, s) :=
          match s with
          | '+' :: r => (false, r)
          | '-' :: r => (true, r)
          | _ => (false, s)
        if s.isEmpty || !s.all isDigit then none
        else some (number (if minus then -(value s : Int) else value s))
      else none

/-- A float that is in range, or one of the named ones. -/
def float? (s : List Char) : Option Binary64 :=
  let text := String.ofList s
  let body :=
    match s with
    | '+' :: r => r
    | _ => s
  let named := String.ofList body
  if named = ".inf" || named = ".Inf" || named = ".INF" then some (.infinite false)
  else if text = "-.inf" || text = "-.Inf" || text = "-.INF" then some (.infinite true)
  else if text = ".nan" || text = ".NaN" || text = ".NAN" then some .nan
  else
    let x :=
      match s with
      | '+' :: r => decimal? false r
      | '-' :: r => decimal? true r
      | r => decimal? false r
    x.filter Binary64.isFinite

/-- Whether a text is one of the spellings of null. -/
def isNull (s : String) : Bool := s = "null" || s = "Null" || s = "NULL" || s = "~"

/-- The boolean that a text spells. -/
def bool? (s : String) : Option Bool :=
  if s = "true" || s = "True" || s = "TRUE" then some true
  else if s = "false" || s = "False" || s = "FALSE" then some false
  else none

/-- The integer that a text spells, if it spells one in range or a little out of it. -/
def integer? (s : String) : Option Scalar :=
  match unsigned? s.toList, negated? s.toList with
  | some n, _ =>
    if n < 1 <<< 64 then some (.integer n)
    else if n < 1 <<< 128 then some .unrepresentable
    else none
  | none, some n =>
    if n ≤ 1 <<< 63 then some (.integer (-n))
    else if n ≤ 1 <<< 127 then some .unrepresentable
    else none
  | none, none => none

/-- What an untagged plain scalar stands for. -/
def resolve (s : String) : Scalar :=
  if s.isEmpty || isNull s then .null
  else
    match bool? s with
    | some b => .bool b
    | none =>
      match integer? s with
      | some i => i
      | none =>
        match if isPaddedDigits s.toList then none else float? s.toList with
        | some x => .float x
        | none => .string s

end Scalar

end Stocktake.Yaml
