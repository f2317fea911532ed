import Stocktake.Dict
import Stocktake.Shell.Format
import Stocktake.Text.Split

/-!
# Utilities

The programs that scripts can call: each makes an output and a status of its arguments and its input.
-/

namespace Stocktake.Shell

/-- What a utility did. -/
structure Effect where
  output : List UInt8 := []
  complaint : String := ""
  status : Nat := 0

namespace Utility

/-- A result without output. -/
def status (n : Nat) : Effect := { status := n }

/-- A failure with a complaint. -/
def complain (n : Nat) (text : String) : Effect := { complaint := text ++ "\n", status := n }

/-- The lines of octets, each without its end; what follows the last end counts if it is not empty. -/
def octetLines (input : List UInt8) : List (List UInt8) :=
  let step := fun (octet : UInt8) (acc : List UInt8 × List (List UInt8) × Bool) =>
    let (line, lines, seen) := acc
    if octet = 10 then ([], (if seen then line :: lines else lines), true)
    else (octet :: line, lines, true)
  let (line, lines, seen) := input.foldr step ([], [], false)
  if seen then line :: lines else lines

/-- Lines with their ends. -/
def unlines (lines : List (List UInt8)) : List UInt8 := lines.flatMap fun l => l ++ [10]

/-- The octets of files, where a dash is the input. -/
def concatenate (files : Dict (List UInt8)) (input : List UInt8) : List String → Effect
  | [] => {}
  | name :: rest =>
    let more := concatenate files input rest
    let content := if name = "-" then some input
      else if name = "/dev/null" then some [] else files.get? name
    match content with
    | some octets => { more with output := octets ++ more.output }
    | none =>
      { more with
        complaint := "cat: " ++ name ++ ": No such file or directory\n" ++ more.complaint
        status := 1 }

/-- Options of one letter with values, and the other arguments. -/
def options (withValue : List Char) : List String → List (Char × String) × List String
  | [] => ([], [])
  | word :: rest =>
    match word.toList with
    | ['-', '-'] => ([], rest)
    | '-' :: c :: value =>
      if withValue.contains c then
        match value, rest with
        | [], next :: rest =>
          let (os, words) := options withValue rest
          ((c, next) :: os, words)
        | value, rest =>
          let (os, words) := options withValue rest
          ((c, String.ofList value) :: os, words)
      else
        let (os, words) := options withValue rest
        ((c :: value).map (·, "") ++ os, words)
    | _ =>
      let (os, words) := options withValue rest
      (os, word :: words)

/-- The value of an option. -/
def option? (os : List (Char × String)) (c : Char) : Option String :=
  (os.find? fun o => o.1 == c).map Prod.snd

/-- Ranges of positions, counted from one, such as `1,3-5,7-`. -/
def inRanges (ranges : String) (n : Nat) : Bool :=
  (Text.pieces ranges ",").any fun range =>
    match Text.cut? range "-" with
    | none => range.toNat? = some n
    | some (low, high) => (low.toNat?.getD 1) ≤ n && (high = "" || n ≤ (high.toNat?.getD 0))

/-- The items whose positions are in ranges. -/
def pick {α : Type} (ranges : String) (items : List α) : List α :=
  ((items.zip (List.range items.length)).filter fun x => inRanges ranges (x.2 + 1)).map Prod.fst

/-- Octets in pieces around a separator. -/
def splitOctets (separator : UInt8) (line : List UInt8) : List (List UInt8) :=
  line.foldr (fun octet pieces =>
    if octet = separator then [] :: pieces
    else match pieces with
      | piece :: rest => (octet :: piece) :: rest
      | [] => [[octet]]) [[]]

/-- Pieces with a separator between them. -/
def joinOctets (separator : UInt8) : List (List UInt8) → List UInt8
  | [] => []
  | [piece] => piece
  | piece :: rest => piece ++ separator :: joinOctets separator rest

/-- Selects parts of every line. -/
def cut (arguments : List String) (input : List UInt8) : Effect :=
  let (os, _) := options ['d', 'f', 'c', 'b'] arguments
  let separator := (((option? os 'd').map Text.octets).bind List.head?).getD 9
  match option? os 'f', (option? os 'c').or (option? os 'b') with
  | some ranges, _ =>
    let line := fun l =>
      match splitOctets separator l with
      | [whole] => if (option? os 's').isSome then none else some whole
      | pieces => some (joinOctets separator (pick ranges pieces))
    { output := unlines ((octetLines input).filterMap line) }
  | none, some ranges => { output := unlines ((octetLines input).map (pick ranges)) }
  | none, none =>
    complain 1 "cut: you must specify a list of bytes, characters, or fields"

/-- How many lines are asked for: after `-n`, or as an option itself. -/
def lineCount (arguments : List String) : Nat :=
  let (os, _) := options ['n'] arguments
  match option? os 'n' with
  | some n => (n.toNat?).getD 10
  | none =>
    match arguments with
    | word :: _ => ((Text.after? word "-").bind String.toNat?).getD 10
    | [] => 10

/-- What is at the start: lines, or octets after `-c`. -/
def head (arguments : List String) (input : List UInt8) : Effect :=
  match (option? (options ['n', 'c'] arguments).1 'c').bind String.toNat? with
  | some n => { output := input.take n }
  | none =>
    -- A last line without its end stays so.
    { output := (unlines ((octetLines input).take (lineCount arguments))).take input.length }

/-- What is at the end: lines, or octets after `-c`. -/
def tail (arguments : List String) (input : List UInt8) : Effect :=
  let last := fun {α : Type} (n : Nat) (items : List α) => items.drop (items.length - n)
  match (option? (options ['n', 'c'] arguments).1 'c').bind String.toNat? with
  | some n => { output := last n input }
  | none =>
    let lines := unlines (last (lineCount arguments) (octetLines input))
    { output := if input.getLast? = some 10 then lines else lines.dropLast }

/-- Counts lines, words and octets. -/
def count (arguments : List String) (input : List UInt8) : Effect :=
  let lines := input.countP fun b => b = 10
  let isSpace := fun (b : UInt8) => b = 32 || (9 ≤ b && b ≤ 13)
  let words := (input.foldl (fun (acc : Nat × Bool) b =>
    if isSpace b then (acc.1, false) else (if acc.2 then acc.1 else acc.1 + 1, true)) (0, false)).1
  let (os, _) := options [] arguments
  let wanted := [('l', lines), ('w', words), ('c', input.length)].filter fun x =>
    (option? os x.1).isSome
  let right := fun (n : Nat) =>
    let ds := toString n
    String.ofList (List.replicate (7 - ds.length) ' ') ++ ds
  let text := match wanted with
    | [] => " ".intercalate ([lines, words, input.length].map right)
    | [x] => toString x.2
    | xs => " ".intercalate (xs.map fun x => right x.2)
  { output := Text.octets (text ++ "\n") }

/-- Whether one line comes before another, octet by octet. -/
def comesBefore : List UInt8 → List UInt8 → Bool
  | [], _ => true
  | _ :: _, [] => false
  | a :: as, b :: bs => if a = b then comesBefore as bs else a < b

/-- The number at the start of a line. -/
def leadingNumber (line : List UInt8) : Int :=
  let cs := (Text.decodeLossy line).toList.dropWhile fun c => c = ' '
  match cs with
  | '-' :: cs => -(Format.decimal (cs.takeWhile Char.isDigit) : Int)
  | cs => Format.decimal (cs.takeWhile Char.isDigit)

/-- Drops lines that are the same as the one before. -/
def dropRepeats : List (List UInt8) → List (List UInt8)
  | a :: b :: rest => if a = b then dropRepeats (b :: rest) else a :: dropRepeats (b :: rest)
  | lines => lines

/-- Sorts lines. -/
def sort (arguments : List String) (input : List UInt8) : Effect :=
  let (os, _) := options [] arguments
  let has := fun c => (option? os c).isSome
  let order := fun (a b : List UInt8) =>
    if has 'n' && leadingNumber a != leadingNumber b then decide (leadingNumber a < leadingNumber b)
    else comesBefore a b
  let lines := (octetLines input).mergeSort order
  let lines := if has 'u' then dropRepeats lines else lines
  { output := unlines (if has 'r' then lines.reverse else lines) }

/-- The characters of a set, where `a-z` is a range. -/
def characters : (fuel : Nat) → List Char → List Char
  | 0, _ => []
  | _ + 1, [] => []
  | fuel + 1, '\\' :: 'n' :: s => '\n' :: characters fuel s
  | fuel + 1, '\\' :: 't' :: s => '\t' :: characters fuel s
  | fuel + 1, '\\' :: '\\' :: s => '\\' :: characters fuel s
  | fuel + 1, a :: '-' :: b :: s =>
    (List.range (b.toNat + 1 - a.toNat)).map (fun i => Char.ofNat (a.toNat + i)) ++ characters fuel s
  | fuel + 1, c :: s => c :: characters fuel s

/-- The octets of a set of characters. -/
def octetSet (s : String) : List UInt8 :=
  Text.octets (String.ofList (characters (s.length + 1) s.toList))

/-- Replaces or deletes octets. -/
def exchange (arguments : List String) (input : List UInt8) : Effect :=
  match arguments with
  | ["-d", set] => { output := input.filter fun b => !(octetSet set).contains b }
  | [old, new] =>
    let old := octetSet old
    let new := octetSet new
    let last := new.getLast?.getD 0
    { output := input.map fun b => match old.findIdx? (· == b) with
        | some i => new.getD i last
        | none => b }
  | _ => complain 1 "tr: missing operand"

/-- Counts up from one number to another. -/
def sequence (arguments : List String) : Effect :=
  let (first, step, last) := match arguments.map String.toInt? with
    | [some last] => (1, 1, last)
    | [some first, some last] => (first, 1, last)
    | [some first, some step, some last] => (first, step, last)
    | _ => (1, 1, 0)
  let n := if step > 0 then (last - first) / step + 1
    else if step < 0 then (first - last) / (-step) + 1 else 0
  let numbers := (List.range n.toNat).map fun (i : Nat) => first + step * (i : Int)
  { output := Text.octets (String.join (numbers.map fun i => toString i ++ "\n")) }

/-- The directories that there are. -/
def directories : List String := ["/", ".", "/bin", "/dev", "/tmp", "/usr", "/usr/bin"]

/-- A test of texts, numbers and files. -/
def test (files : Dict (List UInt8)) : List String → Bool
  | [] => false
  | [a] => a != ""
  | "!" :: rest => !test files rest
  | ["-n", a] => a != ""
  | ["-z", a] => a = ""
  | ["-e", a] => files.has a || directories.contains a || a = "/dev/null"
  | ["-f", a] => files.has a
  | ["-d", a] => directories.contains a
  | [a, "=", b] => a = b
  | [a, "!=", b] => a != b
  | [a, operator, b] =>
    match a.toInt?, b.toInt? with
    | some a, some b =>
      match operator with
      | "-eq" => a == b
      | "-ne" => a != b
      | "-lt" => a < b
      | "-le" => a ≤ b
      | "-gt" => a > b
      | "-ge" => a ≥ b
      | _ => false
    | _, _ => false
  | _ => false

/-- What a program of some name does; nothing if there is none. -/
def run? (files : Dict (List UInt8)) (name : String) (arguments : List String)
    (input : List UInt8) : Option Effect :=
  let truth := fun (b : Bool) => status (if b then 0 else 1)
  match name with
  | ":" => some {}
  | "true" => some {}
  | "false" => some (status 1)
  | "sleep" => some {}
  | "echo" => some { output := Format.echo arguments }
  | "printf" =>
    some <| match arguments with
      | [] => complain 2 "sh: 1: printf: usage: printf format [arg ...]"
      | format :: arguments =>
        let (output, status, faults) := Format.print format arguments
        { output, status, complaint := String.join (faults.map ("sh: 1: printf: " ++ · ++ "\n")) }
  | "cat" => some (concatenate files input (if arguments.isEmpty then ["-"] else arguments))
  | "cut" => some (cut arguments input)
  | "head" => some (head arguments input)
  | "tail" => some (tail arguments input)
  | "wc" => some (count arguments input)
  | "sort" => some (sort arguments input)
  | "uniq" => some { output := unlines (dropRepeats (octetLines input)) }
  | "tr" => some (exchange arguments input)
  | "seq" => some (sequence arguments)
  | "test" => some (truth (test files arguments))
  | "[" =>
    some <| if arguments.getLast? = some "]" then truth (test files arguments.dropLast)
      else complain 2 "sh: 1: [: missing ]"
  | _ => none

end Utility

end Stocktake.Shell
