import Stocktake.Text.EscapedTable
import Stocktake.Text.Lowercase

/-!
# Quoted texts

A text between double quotes that shows every character: a backslash stands before a quote and
before itself, the common controls have names, and every other character without a shape of its own
is written by its hexadecimal number.
-/

namespace Stocktake.Text

/-- A character that quoting writes by number. -/
def isShapeless (c : Char) : Bool := inRanges shapelessRanges c.toNat

/-- The lowercase hexadecimal digits of a number. -/
def hexDigits (n : Nat) : List Char := Nat.toDigits 16 n

/-- How a character is written between double quotes. -/
def quoteChar (c : Char) : List Char :=
  if c = Char.ofNat 0 then ['\\', '0']
  else if c = '\t' then ['\\', 't']
  else if c = '\n' then ['\\', 'n']
  else if c = '\r' then ['\\', 'r']
  else if c = '"' then ['\\', '"']
  else if c = '\\' then ['\\', '\\']
  else if isShapeless c then ['\\', 'u', '\x7b'] ++ hexDigits c.toNat ++ ['\x7d']
  else [c]

/-- The text in double quotes. -/
def quoted (s : String) : String :=
  String.ofList ('"' :: s.toList.flatMap quoteChar ++ ['"'])

end Stocktake.Text
