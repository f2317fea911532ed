import Stocktake.Toml.Lexeme
import Stocktake.Toml.Table

/-!
# Reading TOML

A document is a sequence of lines: key-value pairs, headers of tables, comments and blank lines.
-/

namespace Stocktake.Toml

/-- How deep arrays and inline tables may be nested, less one. -/
def depthLimit : Nat := 80

/-- Drops what may stand between the parts of an inline table. -/
def skipInline (version : TomlVersion) (s : List Char) : List Char :=
  if version = .v11 then skipLines (s.length + 1) s else skipSpace s

mutual

/-- A value inside `depth` others. -/
def value? (version : TomlVersion) : (fuel depth : Nat) → List Char → Option (Toml × List Char)
  | 0, _, _ => none
  | fuel + 1, depth, s =>
    match s with
    | '"' :: _ | '\'' :: _ => (anyString? version s).map fun (t, s) => (.string t, s)
    | '[' :: s =>
      if depthLimit ≤ depth + 1 then none
      else (items? version fuel (depth + 1) s).map fun (xs, s) => (.array xs, s)
    | '\x7b' :: s =>
      if depthLimit ≤ depth + 1 then none
      else
        match skipInline version s with
        | '\x7d' :: s => some (.table [], s)
        | s =>
          (pairs? version fuel (depth + 1) {} s).map fun (n, s) => (.table (entriesToml n.entries), s)
    | 't' :: 'r' :: 'u' :: 'e' :: s => some (.boolean true, s)
    | 'f' :: 'a' :: 'l' :: 's' :: 'e' :: s => some (.boolean false, s)
    | s => numberOrDate? version s

/-- The items of an array after its opening bracket, up to the closing one. -/
def items? (version : TomlVersion) : (fuel depth : Nat) → List Char →
    Option (List Toml × List Char)
  | 0, _, _ => none
  | fuel + 1, depth, s =>
    match skipLines (s.length + 1) s with
    | ']' :: s => some ([], s)
    | s =>
      (value? version fuel depth s).bind fun (x, s) =>
        match skipLines (s.length + 1) s with
        | ',' :: s => (items? version fuel depth s).map fun (xs, s) => (x :: xs, s)
        | ']' :: s => some ([x], s)
        | _ => none

/-- The pairs of an inline table, of which there is at least one, up to the closing brace. -/
def pairs? (version : TomlVersion) : (fuel depth : Nat) → Node → List Char →
    Option (Node × List Char)
  | 0, _, _, _ => none
  | fuel + 1, depth, n, s =>
    (key? version (s.length + 1) s).bind fun (key, s) =>
      match s with
      | '=' :: s =>
        (value? version fuel depth (skipSpace s)).bind fun (v, s) =>
          (n.addPair key v).bind fun n =>
            match skipInline version s with
            | '\x7d' :: s => some (n, s)
            | ',' :: s =>
              match version, skipInline version s with
              | .v11, '\x7d' :: s => some (n, s)
              | _, s => pairs? version fuel depth n s
            | _ => none
      | _ => none

end

/-- A header between the given numbers of brackets, to the end of its line. -/
def header? (version : TomlVersion) (repeated : Bool) (s : List Char) :
    Option (List String × List Char) :=
  (key? version (s.length + 1) s).bind fun (key, s) =>
    if Node.pathLimit ≤ key.length then none
    else
      match repeated, s with
      | false, ']' :: s => (lineEnd? s).map fun s => (key, s)
      | true, ']' :: ']' :: s => (lineEnd? s).map fun s => (key, s)
      | _, _ => none

/-- Takes in one line. -/
def line? (version : TomlVersion) (b : Builder) (s : List Char) : Option (Builder × List Char) :=
  match skipSpace s with
  | '[' :: '[' :: s =>
    (header? version true s).bind fun (path, s) => (b.startRepeated? path).map (·, s)
  | '[' :: s =>
    (header? version false s).bind fun (path, s) => (b.startTable? path).map (·, s)
  | '#' :: s => (lineEnd? ('#' :: s)).map (b, ·)
  | s =>
    match newline? s with
    | some s => some (b, s)
    | none =>
      (key? version (s.length + 1) s).bind fun (key, s) =>
        match s with
        | '=' :: s =>
          (value? version (2 * s.length + 2) 0 (skipSpace s)).bind fun (v, s) =>
            (lineEnd? s).bind fun s => (b.addPair? key v).map (·, s)
        | _ => none

/-- Takes in all lines. -/
def lines? (version : TomlVersion) : (fuel : Nat) → Builder → List Char → Option Builder
  | 0, b, s => if (skipSpace s).isEmpty then some b else none
  | fuel + 1, b, s =>
    if (skipSpace s).isEmpty then some b
    else (line? version b s).bind fun (b, s) => lines? version fuel b s

/-- The characters without a byte order mark at the start. -/
def skipMark : List Char → List Char
  | c :: s => if c = Char.ofNat 0xFEFF then s else c :: s
  | [] => []

/-- The table that a document is. -/
def read (version : TomlVersion) (text : String) : Option (List (String × Toml)) :=
  let s := skipMark text.toList
  ((lines? version (s.length + 1) {} s).bind Builder.finish?).map fun n => entriesToml n.entries

end Stocktake.Toml
