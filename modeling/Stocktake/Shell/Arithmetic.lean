/-!
# Arithmetic of scripts

Expressions over integers of 64 bits with the usual operators, from the weakest to the strongest:
`||`, `&&`, equality, order, sums, products, signs.
-/

namespace Stocktake.Shell.Arithmetic

/-- A token of an expression. -/
inductive Token
  | number (n : Int)
  | name (s : String)
  | operator (s : String)
  deriving DecidableEq, Repr

/-- The digits of a number in a base, and the rest. -/
def digits (base : Nat) (s : List Char) : Nat × List Char :=
  let value := fun (c : Char) =>
    if c.isDigit then c.toNat - '0'.toNat
    else if 'a' ≤ c && c ≤ 'f' then c.toNat - 'a'.toNat + 10
    else if 'A' ≤ c && c ≤ 'F' then c.toNat - 'A'.toNat + 10
    else base
  let ds := s.takeWhile fun c => value c < base
  (ds.foldl (fun n c => n * base + value c) 0, s.drop ds.length)

/-- The value of the number at the start: hexadecimal after `0x`, octal after `0`. -/
def numberToken (s : List Char) : Nat × List Char :=
  match s with
  | '0' :: 'x' :: s => digits 16 s
  | '0' :: 'X' :: s => digits 16 s
  | '0' :: s => digits 8 s
  | s => digits 10 s

/-- The operators of two characters. -/
def longOperators : List String := ["||", "&&", "==", "!=", "<=", ">="]

/-- The tokens of an expression. -/
def tokens : (fuel : Nat) → List Char → Option (List Token)
  | 0, _ => none
  | _ + 1, [] => some []
  | fuel + 1, c :: s =>
    if c = ' ' || c = '\t' || c = '\n' then tokens fuel s
    else if c = '$' then tokens fuel s
    else if c.isDigit then
      let (n, rest) := numberToken (c :: s)
      (tokens fuel rest).map (.number n :: ·)
    else if c.isAlpha || c = '_' then
      let name := (c :: s).takeWhile fun c => c.isAlphanum || c = '_'
      (tokens fuel ((c :: s).drop name.length)).map (.name (String.ofList name) :: ·)
    else
      let pair := String.ofList ((c :: s).take 2)
      if longOperators.contains pair then (tokens fuel (s.drop 1)).map (.operator pair :: ·)
      else if ['+', '-', '*', '/', '%', '(', ')', '<', '>', '!'].contains c then
        (tokens fuel s).map (.operator (String.ofList [c]) :: ·)
      else none

/-- The operators of every strength, the weakest first. -/
def levels : List (List String) :=
  [["||"], ["&&"], ["==", "!="], ["<", "<=", ">", ">="], ["+", "-"], ["*", "/", "%"]]

/-- An integer as a word of 64 bits. -/
def wrap (n : Int) : Int := n.bmod (1 <<< 64)

/-- The truth of a comparison as a number. -/
def truth (b : Bool) : Int := if b then 1 else 0

/-- Why an expression has no value. -/
inductive Fault
  | divisionByZero
  | malformed
  deriving DecidableEq, Repr

/-- The text of a fault. -/
def Fault.message : Fault → String
  | .divisionByZero => "division by zero"
  | .malformed => "expecting primary"

/-- The result of an operator. -/
def apply (operator : String) (a b : Int) : Except Fault Int :=
  match operator with
  | "||" => .ok (truth (a != 0 || b != 0))
  | "&&" => .ok (truth (a != 0 && b != 0))
  | "==" => .ok (truth (a == b))
  | "!=" => .ok (truth (a != b))
  | "<" => .ok (truth (a < b))
  | "<=" => .ok (truth (a ≤ b))
  | ">" => .ok (truth (a > b))
  | ">=" => .ok (truth (a ≥ b))
  | "+" => .ok (wrap (a + b))
  | "-" => .ok (wrap (a - b))
  | "*" => .ok (wrap (a * b))
  | "/" => if b = 0 then .error .divisionByZero else .ok (wrap (Int.tdiv a b))
  | "%" => if b = 0 then .error .divisionByZero else .ok (Int.tmod a b)
  | _ => .error .malformed

mutual

/-- The value of the operands at the start that operators of the levels join. -/
def expression (values : String → Int) :
    (fuel : Nat) → List (List String) → List Token → Except Fault (Int × List Token)
  | 0, _, _ => .error .malformed
  | fuel + 1, [], ts => operand values fuel ts
  | fuel + 1, level :: stronger, ts =>
    (expression values fuel stronger ts).bind fun (a, ts) => operations values fuel level stronger a ts

/-- The value after more operations of a level. -/
def operations (values : String → Int) :
    (fuel : Nat) → List String → List (List String) → Int → List Token → Except Fault (Int × List Token)
  | 0, _, _, _, _ => .error .malformed
  | fuel + 1, level, stronger, a, ts =>
    match ts with
    | .operator o :: rest =>
      if level.contains o then
        (expression values fuel stronger rest).bind fun (b, rest) =>
          (apply o a b).bind fun c => operations values fuel level stronger c rest
      else .ok (a, ts)
    | ts => .ok (a, ts)

/-- The value of one operand. -/
def operand (values : String → Int) : (fuel : Nat) → List Token → Except Fault (Int × List Token)
  | 0, _ => .error .malformed
  | fuel + 1, ts =>
    match ts with
    | .number n :: ts => .ok (wrap n, ts)
    | .name s :: ts => .ok (values s, ts)
    | .operator "-" :: ts => (operand values fuel ts).map fun (a, ts) => (wrap (-a), ts)
    | .operator "+" :: ts => operand values fuel ts
    | .operator "!" :: ts => (operand values fuel ts).map fun (a, ts) => (truth (a == 0), ts)
    | .operator "(" :: ts =>
      match expression values fuel levels ts with
      | .ok (a, .operator ")" :: ts) => .ok (a, ts)
      | .ok _ => .error .malformed
      | .error e => .error e
    | _ => .error .malformed

end

/-- The value of an expression under the values of names. -/
def evaluate (values : String → Int) (text : String) : Except Fault Int :=
  match tokens (text.length + 1) text.toList with
  | none => .error .malformed
  | some [] => .ok 0
  | some ts =>
    match expression values (16 * ts.length + 16) levels ts with
    | .ok (a, []) => .ok a
    | .ok _ => .error .malformed
    | .error e => .error e

end Stocktake.Shell.Arithmetic
