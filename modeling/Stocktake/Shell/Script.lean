/-!
# Shell scripts

The scripts that a local data source runs, as trees: words are made of parts that are expanded, and
simple commands are joined by pipes, lists, conditions and loops.
-/

namespace Stocktake.Shell

mutual

/-- A part of a word.  What a quoted part is expanded to is not split. -/
inductive Part
  | text (quoted : Bool) (text : String)
  /-- The value of a variable, or of the other word if the variable has none. -/
  | value (quoted : Bool) (name : String) (otherwise : List Part)
  /-- The value of an arithmetic expression. -/
  | number (quoted : Bool) (expression : String)
  /-- The output of a script. -/
  | output (quoted : Bool) (script : Script)

/-- Where a command reads from or writes to. -/
inductive Redirection
  | into (descriptor : Nat) (append : Bool) (target : List Part)
  | source (target : List Part)
  | copy (descriptor : Nat) (target : List Part)

/-- A script. -/
inductive Script
  | nothing
  | simple (words : List (List Part)) (redirections : List Redirection)
  | pipe (left right : Script)
  | both (left right : Script)
  | either (left right : Script)
  | sequence (left right : Script)
  | negated (body : Script)
  | subshell (body : Script)
  | redirected (body : Script) (redirections : List Redirection)
  | choice (condition yes no : Script)
  | loop (whileStatus : Bool) (condition body : Script)
  | each (name : String) (words : List (List Part)) (body : Script)

end

instance : Inhabited Script := ⟨.nothing⟩

/-- A word. -/
abbrev Word := List Part

/-- A letter or an underscore. -/
def isNameStart (c : Char) : Bool := c.isAlpha || c = '_'

/-- A character of a name of a variable. -/
def isNameChar (c : Char) : Bool := c.isAlphanum || c = '_'

/-- Whether a text names a variable. -/
def isName (s : List Char) : Bool :=
  match s with
  | [] => false
  | c :: rest => isNameStart c && rest.all isNameChar

end Stocktake.Shell
