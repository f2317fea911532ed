import Stocktake.Text.Split

/-!
# Colors of a terminal

A painted text stands between the code of its style and the code that ends all styles.  A text
that ends styles itself takes up the style again after that.
-/

namespace Stocktake

/-- How a text is painted. -/
inductive Style
  | bold
  | dimmed
  | green
  | cyan
  deriving DecidableEq, Repr

namespace Style

/-- The control sequence with the given number. -/
def sequence (n : Nat) : String := "\x1b[" ++ toString n ++ "m"

/-- What starts the style. -/
def start : Style → String
  | .bold => sequence 1
  | .dimmed => sequence 2
  | .green => sequence 32
  | .cyan => sequence 36

/-- What ends all styles. -/
def reset : String := sequence 0

end Style

/-- The text padded with blanks to a number of characters. -/
def padRight (width : Nat) (text : String) : String :=
  text ++ String.ofList (List.replicate (width - text.length) ' ')

/-- The text in a style, if colors are on, padded inside it. -/
def paintPadded (colors : Bool) (style : Style) (width : Nat) (text : String) : String :=
  if colors then
    let inner := Text.replace text Style.reset (Style.reset ++ style.start)
    style.start ++ padRight width inner ++ Style.reset
  else padRight width text

/-- The text in a style, if colors are on. -/
def paint (colors : Bool) (style : Style) (text : String) : String :=
  paintPadded colors style 0 text

end Stocktake
