import Stocktake.Text.Split
import Stocktake.Toml.Value

/-!
# The smallest parts of a TOML text

Blanks, comments, strings, keys, numbers and dates.  Every function takes a part off the start of the
characters and returns it with the rest, or `none` where it is not there or ill-formed.
-/

namespace Stocktake.Toml

/-- A blank inside a line. -/
def isSpace (c : Char) : Bool := c = ' ' || c = '\t'

/-- Drops blanks. -/
def skipSpace (s : List Char) : List Char := s.dropWhile isSpace

/-- A character that may stand in a comment. -/
def isCommentChar (c : Char) : Bool := c = '\t' || (0x20 ≤ c.toNat && c.toNat ≠ 0x7F)

/-- Drops a comment, if there is one. -/
def skipComment : List Char → List Char
  | '#' :: s => s.dropWhile isCommentChar
  | s => s

/-- Takes off a line feed, which may follow a carriage return. -/
def newline? : List Char → Option (List Char)
  | '\n' :: s => some s
  | '\r' :: '\n' :: s => some s
  | _ => none

/-- Drops blanks, comments and line ends. -/
def skipLines : (fuel : Nat) → List Char → List Char
  | 0, s => s
  | fuel + 1, s =>
    let s := skipComment (skipSpace s)
    match newline? s with
    | some s => skipLines fuel s
    | none => s

/-- The end of a line: blanks and a comment, then the line end or the end of the text. -/
def lineEnd? (s : List Char) : Option (List Char) :=
  match skipComment (skipSpace s) with
  | [] => some []
  | s => newline? s

/-- The value of a hexadecimal digit. -/
def hexDigit? (c : Char) : Option Nat :=
  if '0' ≤ c && c ≤ '9' then some (c.toNat - '0'.toNat)
  else if 'a' ≤ c && c ≤ 'f' then some (c.toNat - 'a'.toNat + 10)
  else if 'A' ≤ c && c ≤ 'F' then some (c.toNat - 'A'.toNat + 10)
  else none

/-- The number of exactly `count` hexadecimal digits. -/
def hexNumber? : (count : Nat) → (done : Nat) → List Char → Option (Nat × List Char)
  | 0, n, s => some (n, s)
  | _ + 1, _, [] => none
  | count + 1, n, c :: s => (hexDigit? c).bind fun d => hexNumber? count (n * 16 + d) s

/-- The character with a number. -/
def scalar? (n : Nat) : Option Char := if Nat.isValidChar n then some (Char.ofNat n) else none

/-- The character of an escape, after its backslash. -/
def escape? (version : TomlVersion) : List Char → Option (Char × List Char)
  | 'b' :: s => some (Char.ofNat 8, s)
  | 't' :: s => some ('\t', s)
  | 'n' :: s => some ('\n', s)
  | 'f' :: s => some (Char.ofNat 12, s)
  | 'r' :: s => some ('\r', s)
  | '"' :: s => some ('"', s)
  | '\\' :: s => some ('\\', s)
  | 'e' :: s => if version = .v11 then some (Char.ofNat 27, s) else none
  | 'x' :: s =>
    if version = .v11 then
      (hexNumber? 2 0 s).bind fun (n, s) => (scalar? n).map fun c => (c, s)
    else none
  | 'u' :: s => (hexNumber? 4 0 s).bind fun (n, s) => (scalar? n).map fun c => (c, s)
  | 'U' :: s => (hexNumber? 8 0 s).bind fun (n, s) => (scalar? n).map fun c => (c, s)
  | _ => none

/-- A character that may stand in a string as it is. -/
def isPlain (c : Char) : Bool := c = '\t' || (0x20 ≤ c.toNat && c.toNat ≠ 0x7F)

/-- The rest of a string in double quotes on one line. -/
def basicBody (version : TomlVersion) : (fuel : Nat) → (done : List Char) → List Char →
    Option (String × List Char)
  | 0, _, _ => none
  | _ + 1, _, [] => none
  | _ + 1, done, '"' :: s => some (String.ofList done.reverse, s)
  | fuel + 1, done, '\\' :: s =>
    (escape? version s).bind fun (c, s) => basicBody version fuel (c :: done) s
  | fuel + 1, done, c :: s => if isPlain c then basicBody version fuel (c :: done) s else none

/-- The rest of a string in single quotes on one line. -/
def literalBody : (done : List Char) → List Char → Option (String × List Char)
  | _, [] => none
  | done, '\'' :: s => some (String.ofList done.reverse, s)
  | done, c :: s => if isPlain c then literalBody (c :: done) s else none

/-- The end of a string in triple quotes: three quotes after up to two more, which belong to it.  The
    result is what belongs to the string, in reverse, and the rest. -/
def tripleEnd? (quote : Char) (done : List Char) (s : List Char) :
    Option (List Char × List Char) :=
  match (s.takeWhile (· == quote)).length with
  | 0 | 1 | 2 => none
  | n => let extra := min (n - 3) 2; some (List.replicate extra quote ++ done, s.drop (extra + 3))

/-- Drops the line ends and blanks that a backslash at the end of a line takes away. -/
def skipBlankLines : (fuel : Nat) → List Char → List Char
  | 0, s => s
  | fuel + 1, s =>
    let s' := skipSpace s
    match newline? s' with
    | some s => skipBlankLines fuel s
    | none => s'

/-- The rest of a string in triple double quotes. -/
def multilineBasicBody (version : TomlVersion) : (fuel : Nat) → (done : List Char) → List Char →
    Option (String × List Char)
  | 0, _, _ => none
  | _ + 1, _, [] => none
  | fuel + 1, done, c :: s =>
    if c = '"' then
      match tripleEnd? '"' done (c :: s) with
      | some (done, s) => some (String.ofList done.reverse, s)
      | none => multilineBasicBody version fuel (c :: done) s
    else if c = '\\' then
      match newline? (skipSpace s) with
      | some s => multilineBasicBody version fuel done (skipBlankLines s.length s)
      | none =>
        (escape? version s).bind fun (c, s) => multilineBasicBody version fuel (c :: done) s
    else
      match newline? (c :: s) with
      | some s => multilineBasicBody version fuel ('\n' :: done) s
      | none => if isPlain c then multilineBasicBody version fuel (c :: done) s else none

/-- The rest of a string in triple single quotes. -/
def multilineLiteralBody : (fuel : Nat) → (done : List Char) → List Char →
    Option (String × List Char)
  | 0, _, _ => none
  | _ + 1, _, [] => none
  | fuel + 1, done, c :: s =>
    if c = '\'' then
      match tripleEnd? '\'' done (c :: s) with
      | some (done, s) => some (String.ofList done.reverse, s)
      | none => multilineLiteralBody fuel (c :: done) s
    else
      match newline? (c :: s) with
      | some s => multilineLiteralBody fuel ('\n' :: done) s
      | none => if isPlain c then multilineLiteralBody fuel (c :: done) s else none

/-- Drops the line end right after the quotes that open a string. -/
def skipFirstNewline (s : List Char) : List Char := (newline? s).getD s

/-- A string on one line. -/
def lineString? (version : TomlVersion) : List Char → Option (String × List Char)
  | '"' :: s => basicBody version (s.length + 1) [] s
  | '\'' :: s => literalBody [] s
  | _ => none

/-- A string of any form. -/
def anyString? (version : TomlVersion) : List Char → Option (String × List Char)
  | '"' :: '"' :: '"' :: s =>
    let s := skipFirstNewline s
    multilineBasicBody version (s.length + 1) [] s
  | '\'' :: '\'' :: '\'' :: s =>
    let s := skipFirstNewline s
    multilineLiteralBody (s.length + 1) [] s
  | s => lineString? version s

/-- A character of a bare key. -/
def isKeyChar (c : Char) : Bool :=
  ('A' ≤ c && c ≤ 'Z') || ('a' ≤ c && c ≤ 'z') || ('0' ≤ c && c ≤ '9') || c = '-' || c = '_'

/-- One part of a key. -/
def simpleKey? (version : TomlVersion) (s : List Char) : Option (String × List Char) :=
  match s with
  | '"' :: _ | '\'' :: _ => lineString? version s
  | _ =>
    match s.takeWhile isKeyChar with
    | [] => none
    | name => some (String.ofList name, s.dropWhile isKeyChar)

/-- A key: parts between dots, with blanks around the dots.  The blanks after it are dropped. -/
def key? (version : TomlVersion) : (fuel : Nat) → List Char → Option (List String × List Char)
  | 0, _ => none
  | fuel + 1, s =>
    (simpleKey? version (skipSpace s)).bind fun (part, s) =>
      match skipSpace s with
      | '.' :: s => (key? version fuel s).map fun (parts, s) => (part :: parts, s)
      | s => some ([part], s)

/-- A decimal digit. -/
def isDigit (c : Char) : Bool := '0' ≤ c && c ≤ '9'

/-- Whether every underscore stands between two other characters. -/
def separatesWell : List Char → Bool
  | [] => false
  | [c] => c != '_'
  | '_' :: _ => false
  | _ :: '_' :: '_' :: _ => false
  | _ :: '_' :: s => separatesWell s
  | _ :: s => separatesWell s

/-- Digits, between which single underscores may stand.  The result is the digits alone. -/
def digits? (isDigit : Char → Bool) (s : List Char) : Option (List Char × List Char) :=
  let run := s.takeWhile fun c => isDigit c || c == '_'
  if separatesWell run then
    some (run.filter (· != '_'), s.dropWhile fun c => isDigit c || c == '_')
  else none

/-- The number that digits spell in a base. -/
def digitsValue (base : Nat) (ds : List Char) : Nat :=
  ds.foldl (fun n d => n * base + (hexDigit? d).getD 0) 0

/-- An integer that fits into 64 bits. -/
def integerInRange? (n : Int) : Option Int :=
  if -0x8000000000000000 ≤ n && n < 0x8000000000000000 then some n else none

/-- The sign of a number. -/
def sign : List Char → Bool × List Char
  | '+' :: s => (false, s)
  | '-' :: s => (true, s)
  | s => (false, s)

/-- Digits of a number that has no nought before other digits. -/
def wholeDigits? (s : List Char) : Option (List Char × List Char) :=
  match digits? isDigit s with
  | some ('0' :: _ :: _, _) => none
  | r => r

/-- An integer with a prefix that tells its base. -/
def basedInteger? : List Char → Option (Toml × List Char)
  | '0' :: 'x' :: s => value 16 (fun c => (hexDigit? c).isSome) s
  | '0' :: 'o' :: s => value 8 (fun c => '0' ≤ c && c ≤ '7') s
  | '0' :: 'b' :: s => value 2 (fun c => c = '0' || c = '1') s
  | _ => none
where
  /-- The integer of the digits of a base. -/
  value (base : Nat) (isDigit : Char → Bool) (s : List Char) : Option (Toml × List Char) :=
    (digits? isDigit s).bind fun (ds, s) =>
      (integerInRange? (digitsValue base ds)).map fun n => (.integer n, s)

/-- The exponent of a number, zero if there is none. -/
def exponent? : List Char → Option (Option Int × List Char)
  | e :: s =>
    if e = 'e' || e = 'E' then
      let (negative, s) := sign s
      (digits? isDigit s).map fun (ds, s) =>
        let n : Int := digitsValue 10 ds
        (some (if negative then -n else n), s)
    else some (none, e :: s)
  | [] => some (none, [])

/-- The digits after the point, none if there is no point. -/
def fraction? : List Char → Option (Option (List Char) × List Char)
  | '.' :: s => (digits? isDigit s).map fun (ds, s) => (some ds, s)
  | s => some (none, s)

/-- A floating-point number, unless it is too large. -/
def float? (x : Binary64) : Option Toml :=
  if x = .infinite false then none else some (.float x)

/-- A decimal number, its sign having been read: an integer, or with a point or an exponent a
    floating-point number. -/
def decimal? (negative : Bool) (s : List Char) : Option (Toml × List Char) := do
  let (whole, s) ← wholeDigits? s
  let (frac, s) ← fraction? s
  let (e, s) ← exponent? s
  match frac, e with
  | none, none =>
    let n : Int := digitsValue 10 whole
    let n ← integerInRange? (if negative then -n else n)
    pure (.integer n, s)
  | frac, e =>
    let frac := frac.getD []
    let x := Binary64.ofDecimal negative (digitsValue 10 (whole ++ frac)) (e.getD 0 - frac.length)
    let v ← float? x
    pure (v, s)

/-- A number of any form. -/
def number? (s : List Char) : Option (Toml × List Char) :=
  match basedInteger? s with
  | some r => some r
  | none =>
    let (negative, rest) := sign s
    match rest with
    | 'i' :: 'n' :: 'f' :: rest => some (.float (.infinite negative), rest)
    | 'n' :: 'a' :: 'n' :: rest => some (.float .nan, rest)
    | _ =>
      match s with
      | '0' :: 'x' :: _ | '0' :: 'o' :: _ | '0' :: 'b' :: _ => none
      | _ => decimal? negative rest

/-- The number of exactly `count` decimal digits, if it is between two bounds. -/
def fixedDigits? (count low high : Nat) (s : List Char) : Option (List Char × List Char) :=
  let ds := s.take count
  if ds.length = count && ds.all isDigit && low ≤ digitsValue 10 ds && digitsValue 10 ds ≤ high then
    some (ds, s.drop count)
  else none

/-- The number of days of a month. -/
def daysIn (year month : Nat) : Nat :=
  if month = 2 then
    if (year % 4 = 0 && year % 100 ≠ 0) || year % 400 = 0 then 29 else 28
  else if month = 4 || month = 6 || month = 9 || month = 11 then 30
  else 31

/-- A date. -/
def date? (s : List Char) : Option (List Char × List Char) := do
  let (year, s) ← fixedDigits? 4 0 9999 s
  let '-' :: s := s | none
  let (month, s) ← fixedDigits? 2 1 12 s
  let '-' :: s := s | none
  let (day, s) ← fixedDigits? 2 1 (daysIn (digitsValue 10 year) (digitsValue 10 month)) s
  pure (year ++ '-' :: month ++ '-' :: day, s)

/-- Fractional digits of a second as they are shown: at most nine, without noughts at the end. -/
def shownFraction (ds : List Char) : List Char :=
  match ((ds.take 9).reverse.dropWhile (· == '0')).reverse with
  | [] => []
  | ds => '.' :: ds

/-- A time of day. -/
def time? (version : TomlVersion) (s : List Char) : Option (List Char × List Char) := do
  let (hour, s) ← fixedDigits? 2 0 23 s
  let ':' :: s := s | none
  let (minute, s) ← fixedDigits? 2 0 59 s
  let start := hour ++ ':' :: minute
  match s with
  | ':' :: s =>
    let (second, s) ← fixedDigits? 2 0 60 s
    let start := start ++ ':' :: second
    match s with
    | '.' :: s =>
      let ds := s.takeWhile isDigit
      if ds.isEmpty then none else pure (start ++ shownFraction ds, s.dropWhile isDigit)
    | s => pure (start, s)
  | s => if version = .v11 then pure (start, s) else none

/-- The distance from universal time.  Nothing is none. -/
def offset? (s : List Char) : Option (List Char × List Char) :=
  match s with
  | 'Z' :: s | 'z' :: s => some (['Z'], s)
  | c :: rest =>
    if c = '+' || c = '-' then do
      let (hour, s) ← fixedDigits? 2 0 23 rest
      let ':' :: s := s | none
      let (minute, s) ← fixedDigits? 2 0 59 s
      let shownSign := if digitsValue 10 (hour ++ minute) = 0 then '+' else c
      pure (shownSign :: hour ++ ':' :: minute, s)
    else some ([], s)
  | [] => some ([], [])

/-- A date and possibly a time after it. -/
def dateTime? (version : TomlVersion) (s : List Char) : Option (Toml × List Char) := do
  let (date, s) ← date? s
  let dateOnly := (Toml.datetime (String.ofList date), s)
  match s with
  | c :: rest =>
    if c = 'T' || c = 't' || c = ' ' then
      match time? version rest with
      | some (time, s) =>
        let (offset, s) ← offset? s
        pure (.datetime (String.ofList (date ++ 'T' :: time ++ offset)), s)
      | none => if c = ' ' then pure dateOnly else none
    else pure dateOnly
  | [] => pure dateOnly

/-- Whether four digits and a dash come next. -/
def startsDate (s : List Char) : Bool :=
  (s.take 4).length = 4 && (s.take 4).all isDigit && (s.drop 4).head? = some '-'

/-- Whether two digits and a colon come next. -/
def startsTime (s : List Char) : Bool :=
  (s.take 2).length = 2 && (s.take 2).all isDigit && (s.drop 2).head? = some ':'

/-- A number, a date or a time. -/
def numberOrDate? (version : TomlVersion) (s : List Char) : Option (Toml × List Char) :=
  if startsDate s then dateTime? version s
  else if startsTime s then
    (time? version s).map fun (t, s) => (.datetime (String.ofList t), s)
  else number? s

end Stocktake.Toml
