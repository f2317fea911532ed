/-!
# A place in a YAML text

The character classes of YAML 1.1 and a cursor that counts lines and columns.  Line breaks are the
line feed, the carriage return, both together, and the three Unicode breaks; a line feed stands for
all of them in a scalar but for the two Unicode separators, which are kept.
-/

namespace Stocktake.Yaml

/-- A character that may stand in a YAML text. -/
def isPrintable (c : Char) : Bool :=
  let n := c.toNat
  n == 0x09 || n == 0x0A || n == 0x0D || (0x20 ≤ n && n ≤ 0x7E) || n == 0x85 ||
    (0xA0 ≤ n && n ≤ 0xD7FF) || (0xE000 ≤ n && n ≤ 0xFFFD) || 0x10000 ≤ n

/-- A character that starts a line break. -/
def isBreak (c : Char) : Bool :=
  c == '\n' || c == '\r' || c.toNat == 0x85 || c.toNat == 0x2028 || c.toNat == 0x2029

/-- A space or a tab. -/
def isBlank (c : Char) : Bool := c == ' ' || c == '\t'

/-- A letter, digit, underscore or dash of ASCII. -/
def isWord (c : Char) : Bool := c.isAlphanum || c == '_' || c == '-'

/-- The value of a decimal digit. -/
def digit? (c : Char) : Option Nat := if c.isDigit then some (c.toNat - '0'.toNat) else none

/-- The value of a hexadecimal digit. -/
def hexDigit? (c : Char) : Option Nat :=
  if c.isDigit then some (c.toNat - '0'.toNat)
  else if 'a' ≤ c && c ≤ 'f' then some (c.toNat - 'a'.toNat + 10)
  else if 'A' ≤ c && c ≤ 'F' then some (c.toNat - 'A'.toNat + 10)
  else none

/-- A place in a text: what is left of it, and where it is. -/
structure Cursor where
  rest : List Char
  index : Nat := 0
  line : Nat := 0
  column : Nat := 0

namespace Cursor

/-- The character `n` places on. -/
def peek? (cur : Cursor) (n : Nat) : Option Char := cur.rest[n]?

/-- Whether the character `n` places on is `c`. -/
def sees (cur : Cursor) (c : Char) (n : Nat := 0) : Bool := cur.peek? n == some c

/-- Whether nothing is left `n` places on. -/
def atEnd (cur : Cursor) (n : Nat := 0) : Bool := (cur.peek? n).isNone

/-- Whether a line break is `n` places on. -/
def atBreak (cur : Cursor) (n : Nat := 0) : Bool := (cur.peek? n).any isBreak

/-- Whether a space or tab is `n` places on. -/
def atBlank (cur : Cursor) (n : Nat := 0) : Bool := (cur.peek? n).any isBlank

/-- Whether a line break or the end is `n` places on. -/
def atBreakOrEnd (cur : Cursor) (n : Nat := 0) : Bool := cur.atEnd n || cur.atBreak n

/-- Whether a blank, a line break or the end is `n` places on. -/
def atGap (cur : Cursor) (n : Nat := 0) : Bool := cur.atBlank n || cur.atBreakOrEnd n

/-- One character on, within a line. -/
def skip (cur : Cursor) : Cursor :=
  match cur.rest with
  | [] => cur
  | _ :: rest => { cur with rest, index := cur.index + 1, column := cur.column + 1 }

/-- Some characters on, within a line. -/
def skipMany (cur : Cursor) : Nat → Cursor
  | 0 => cur
  | n + 1 => cur.skip.skipMany n

/-- Over a line break, with the text it stands for. -/
def readBreak (cur : Cursor) : List Char × Cursor :=
  match cur.rest with
  | '\r' :: '\n' :: rest =>
    (['\n'], { rest, index := cur.index + 2, line := cur.line + 1, column := 0 })
  | c :: rest =>
    if isBreak c then
      (if c.toNat == 0x2028 || c.toNat == 0x2029 then [c] else ['\n'],
        { rest, index := cur.index + 1, line := cur.line + 1, column := 0 })
    else ([], cur)
  | [] => ([], cur)

/-- Over a line break. -/
def skipBreak (cur : Cursor) : Cursor := cur.readBreak.2

/-- The characters up to the first one that is not `p`, and the place behind them; for classes
    without line breaks. -/
def takeWhile (p : Char → Bool) (cur : Cursor) : List Char × Cursor :=
  let taken := cur.rest.takeWhile p
  (taken, cur.skipMany taken.length)

/-- The place behind the characters that are `p`; for classes without line breaks. -/
def skipWhile (p : Char → Bool) (cur : Cursor) : Cursor := (cur.takeWhile p).2

/-- Whether three times `c` and then a gap stand at the start of this line. -/
def atMarker (cur : Cursor) (c : Char) : Bool :=
  cur.column == 0 && cur.sees c 0 && cur.sees c 1 && cur.sees c 2 && cur.atGap 3

/-- Whether a document marker stands here. -/
def atDocumentMarker (cur : Cursor) : Bool := cur.atMarker '-' || cur.atMarker '.'

end Cursor

end Stocktake.Yaml
