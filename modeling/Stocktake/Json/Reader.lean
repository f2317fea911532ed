import Stocktake.Json.Basic
import Stocktake.Number.Binary64

/-!
# Reading JSON

A recursive reader for JSON texts.  It takes what the standard allows and nothing else; a value may
be nested at most 127 deep, a number must be in the range of a double, and a surrogate must be one of
a pair.  `Json.readStart` reads one value from the start of a text and leaves the rest, `Json.read`
wants nothing but blanks after it.
-/

namespace Stocktake.Json

/-- The blanks between JSON tokens. -/
def isSpace (c : Char) : Bool := c = ' ' || c = '\n' || c = '\t' || c = '\r'

/-- The text after the blanks at its start. -/
def skipSpace (s : List Char) : List Char := s.dropWhile isSpace

/-- How deep arrays and objects may be nested. -/
def depthLimit : Nat := 127

/-- The value of a hexadecimal digit. -/
def hexDigit? (c : Char) : Option Nat :=
  if '0' ≤ c && c ≤ '9' then some (c.toNat - '0'.toNat)
  else if 'a' ≤ c && c ≤ 'f' then some (c.toNat - 'a'.toNat + 10)
  else if 'A' ≤ c && c ≤ 'F' then some (c.toNat - 'A'.toNat + 10)
  else none

/-- Four hexadecimal digits. -/
def hexQuad? : List Char → Option (Nat × List Char)
  | a :: b :: c :: d :: rest =>
    match hexDigit? a, hexDigit? b, hexDigit? c, hexDigit? d with
    | some a, some b, some c, some d => some (((a * 16 + b) * 16 + c) * 16 + d, rest)
    | _, _, _, _ => none
  | _ => none

/-- The character that an escape `\u` and four digits stand for, with the second half of a pair. -/
def unicodeEscape? (s : List Char) : Option (Char × List Char) :=
  match hexQuad? s with
  | none => none
  | some (high, rest) =>
    if 0xDC00 ≤ high && high ≤ 0xDFFF then none
    else if 0xD800 ≤ high && high ≤ 0xDBFF then
      match rest with
      | '\\' :: 'u' :: rest =>
        match hexQuad? rest with
        | some (low, rest) =>
          if 0xDC00 ≤ low && low ≤ 0xDFFF then
            some (Char.ofNat (0x10000 + (high - 0xD800) * 0x400 + (low - 0xDC00)), rest)
          else none
        | none => none
      | _ => none
    else some (Char.ofNat high, rest)

/-- The character after a backslash that stands for one character. -/
def simpleEscape? (c : Char) : Option Char :=
  match c with
  | '"' => some '"'
  | '\\' => some '\\'
  | '/' => some '/'
  | 'b' => some (Char.ofNat 8)
  | 'f' => some (Char.ofNat 12)
  | 'n' => some '\n'
  | 'r' => some '\r'
  | 't' => some '\t'
  | _ => none

/-- The rest of a string whose opening quote was read, in reverse before `done`. -/
def stringBody : (fuel : Nat) → (done : List Char) → List Char → Option (String × List Char)
  | 0, _, _ => none
  | _ + 1, _, [] => none
  | fuel + 1, done, c :: s =>
    if c = '"' then some (String.ofList done.reverse, s)
    else if c = '\\' then
      match s with
      | 'u' :: s =>
        match unicodeEscape? s with
        | some (c, s) => stringBody fuel (c :: done) s
        | none => none
      | e :: s =>
        match simpleEscape? e with
        | some c => stringBody fuel (c :: done) s
        | none => none
      | [] => none
    else if c.toNat < 0x20 then none
    else stringBody fuel (c :: done) s

/-- A decimal digit. -/
def isDigit (c : Char) : Bool := '0' ≤ c && c ≤ '9'

/-- The number that digits spell. -/
def digitsValue (ds : List Char) : Nat := ds.foldl (fun n d => n * 10 + (d.toNat - '0'.toNat)) 0

/-- The exponent part of a number, if there is one: its value, its text and the rest. -/
def exponent? (s : List Char) : Option (Int × List Char × List Char) :=
  match s with
  | e :: s =>
    if e = 'e' || e = 'E' then
      let (sign, negative, s) : List Char × Bool × List Char :=
        match s with
        | '+' :: s => (['+'], false, s)
        | '-' :: s => (['-'], true, s)
        | s => ([], false, s)
      let ds := s.takeWhile isDigit
      if ds.isEmpty then none
      else
        let v : Int := digitsValue ds
        some (if negative then -v else v, e :: sign ++ ds, s.dropWhile isDigit)
    else some (0, [], e :: s)
  | [] => some (0, [], [])

/-- The fraction part of a number, if there is one: its digits and the rest. -/
def fraction? (s : List Char) : Option (List Char × List Char) :=
  match s with
  | '.' :: s =>
    let ds := s.takeWhile isDigit
    if ds.isEmpty then none else some (ds, s.dropWhile isDigit)
  | s => some ([], s)

/-- A number without its sign.  A nought is not followed by more digits. -/
def unsigned? (negative : Bool) (s : List Char) : Option (Json × List Char) :=
  let whole := s.takeWhile isDigit
  if whole.isEmpty || (whole.head? = some '0' && 1 < whole.length) then none
  else
    match fraction? (s.dropWhile isDigit) with
    | none => none
    | some (frac, s) =>
      match exponent? s with
      | none => none
      | some (e, expText, s) =>
        let x := Binary64.ofDecimal negative (digitsValue (whole ++ frac)) (e - frac.length)
        if x.isFinite then
          let point := if frac.isEmpty then [] else '.' :: frac
          let sign := if negative then ['-'] else []
          some (.number (String.ofList (sign ++ whole ++ point ++ expText)), s)
        else none

mutual

/-- One value.  The fuel bounds the number of steps and is as large as the text. -/
def value? : (fuel depth : Nat) → List Char → Option (Json × List Char)
  | 0, _, _ => none
  | fuel + 1, depth, s =>
    match skipSpace s with
    | [] => none
    | 'n' :: 'u' :: 'l' :: 'l' :: s => some (.null, s)
    | 't' :: 'r' :: 'u' :: 'e' :: s => some (.bool true, s)
    | 'f' :: 'a' :: 'l' :: 's' :: 'e' :: s => some (.bool false, s)
    | '"' :: s => (stringBody (s.length + 1) [] s).map fun (t, s) => (.string t, s)
    | '-' :: s => unsigned? true s
    | '[' :: s =>
      match depth with
      | 0 => none
      | depth + 1 =>
        match skipSpace s with
        | ']' :: s => some (.array [], s)
        | s => (items? fuel depth s).map fun (xs, s) => (.array xs, s)
    | '\x7b' :: s =>
      match depth with
      | 0 => none
      | depth + 1 =>
        match skipSpace s with
        | '\x7d' :: s => some (.object [], s)
        | s => (members? fuel depth s).map fun (ms, s) => (.object ms, s)
    | s => unsigned? false s

/-- The items of an array up to its closing bracket. -/
def items? : (fuel depth : Nat) → List Char → Option (List Json × List Char)
  | 0, _, _ => none
  | fuel + 1, depth, s =>
    match value? fuel depth s with
    | none => none
    | some (x, s) =>
      match skipSpace s with
      | ',' :: s => (items? fuel depth s).map fun (xs, s) => (x :: xs, s)
      | ']' :: s => some ([x], s)
      | _ => none

/-- The members of an object up to its closing brace. -/
def members? : (fuel depth : Nat) → List Char → Option (List (String × Json) × List Char)
  | 0, _, _ => none
  | fuel + 1, depth, s =>
    match skipSpace s with
    | '"' :: s =>
      match stringBody (s.length + 1) [] s with
      | none => none
      | some (k, s) =>
        match skipSpace s with
        | ':' :: s =>
          match value? fuel depth s with
          | none => none
          | some (v, s) =>
            match skipSpace s with
            | ',' :: s => (members? fuel depth s).map fun (ms, s) => ((k, v) :: ms, s)
            | '\x7d' :: s => some ([(k, v)], s)
            | _ => none
        | _ => none
    | _ => none

end

/-- The value at the start of a text and what follows it. -/
def readStart (s : List Char) : Except JsonError (Json × List Char) :=
  match value? (2 * s.length + 2) depthLimit s with
  | some r => .ok r
  | none => .error .syntactic

/-- A text that holds one value of the form that `decode` takes.  A value of another form is reported
    before anything that stands after it. -/
def readAs {α : Type} (decode : Json → Option α) (text : String) : Except JsonError α :=
  match readStart text.toList with
  | .error e => .error e
  | .ok (j, rest) =>
    match decode j with
    | none => .error .data
    | some x => if (skipSpace rest).isEmpty then .ok x else .error .syntactic

end Stocktake.Json
