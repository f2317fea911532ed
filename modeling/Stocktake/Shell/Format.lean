import Stocktake.Shell.Arithmetic
import Stocktake.Text.Octets

/-!
# Formatted output

What `printf` and `echo` write: escapes stand for octets, and directives for arguments.  A format is
used again as long as it takes arguments and there are some left.
-/

namespace Stocktake.Shell.Format

/-- The octet of an octal number, of at most the given number of digits. -/
def octal (most : Nat) (s : List Char) : UInt8 × List Char :=
  let ds := (s.take most).takeWhile fun c => '0' ≤ c && c ≤ '7'
  (UInt8.ofNat (ds.foldl (fun n c => n * 8 + (c.toNat - '0'.toNat)) 0), s.drop ds.length)

/-- The octet that a letter after a backslash stands for. -/
def escapeOctet? (c : Char) : Option UInt8 :=
  match c with
  | 'a' => some 7
  | 'b' => some 8
  | 't' => some 9
  | 'n' => some 10
  | 'v' => some 11
  | 'f' => some 12
  | 'r' => some 13
  | '\\' => some 92
  | _ => none

/-- A text that was written. -/
structure Written where
  octets : List UInt8 := []
  /-- Nothing is to be written after it. -/
  stopped : Bool := false

/-- The octets of a text with escapes, octal ones starting with a nought; after `\c` nothing
    counts. -/
def unescape : (fuel : Nat) → (done : List UInt8) → List Char → Written
  | 0, done, _ => ⟨done.reverse, false⟩
  | _ + 1, done, [] => ⟨done.reverse, false⟩
  | _ + 1, done, '\\' :: 'c' :: _ => ⟨done.reverse, true⟩
  | fuel + 1, done, '\\' :: '0' :: s =>
    let (octet, s) := octal 3 s
    unescape fuel (octet :: done) s
  | fuel + 1, done, '\\' :: c :: s =>
    match escapeOctet? c with
    | some octet => unescape fuel (octet :: done) s
    | none => unescape fuel ((Text.octets (String.ofList ['\\', c])).reverse ++ done) s
  | fuel + 1, done, c :: s => unescape fuel ((Text.octets (String.ofList [c])).reverse ++ done) s

/-- The octets of a text with escapes. -/
def escaped (s : String) : Written := unescape (s.length + 1) [] s.toList

/-- A directive: its flags, width, precision and letter. -/
structure Directive where
  flags : List Char := []
  width : Nat := 0
  precision : Option Nat := none
  letter : Char
  deriving Repr

/-- The number that digits spell. -/
def decimal (ds : List Char) : Nat := ds.foldl (fun n c => n * 10 + (c.toNat - '0'.toNat)) 0

/-- The directive after a percent sign. -/
def directive? (s : List Char) : Option (Directive × List Char) :=
  let isFlag := fun (c : Char) => ['-', '+', ' ', '#', '0'].contains c
  let flags := s.takeWhile isFlag
  let s := s.dropWhile isFlag
  let width := s.takeWhile Char.isDigit
  let s := s.dropWhile Char.isDigit
  let (precision, s) := match s with
    | '.' :: s => (some (decimal (s.takeWhile Char.isDigit)), s.dropWhile Char.isDigit)
    | s => (none, s)
  match s with
  | [] => none
  | letter :: s => some (⟨flags, decimal width, precision, letter⟩, s)

/-- Octets in a field of some width. -/
def Directive.pad (d : Directive) (octets : List UInt8) : List UInt8 :=
  let blanks := List.replicate (d.width - octets.length) 32
  if d.flags.contains '-' then octets ++ blanks else blanks ++ octets

/-- A number in a field of some width. -/
def Directive.padNumber (d : Directive) (negative : Bool) (digits : List Char) : List UInt8 :=
  let digits := List.replicate (d.precision.getD 1 - digits.length) '0' ++ digits
  let sign := if negative then ['-'] else if d.flags.contains '+' then ['+']
    else if d.flags.contains ' ' then [' '] else []
  let noughts :=
    if d.flags.contains '0' && !d.flags.contains '-' && d.precision.isNone then
      List.replicate (d.width - sign.length - digits.length) '0'
    else []
  d.pad (Text.octets (String.ofList (sign ++ noughts ++ digits)))

/-- The number that an argument stands for, and what is wrong with it: after a quote it is a code
    point, else the number at the start. -/
def argumentNumber (s : String) : Int × Option String :=
  let signed := fun (sign : Int) (cs : List Char) =>
    let (n, rest) := Arithmetic.numberToken cs
    let fault := if rest = [] && cs != [] then none
      else if rest = cs then some (s ++ ": expected numeric value")
      else some (s ++ ": not completely converted")
    (sign * n, fault)
  match s.toList.dropWhile fun c => c = ' ' || c = '\t' || c = '\n' with
  | [] => (0, none)
  | '\'' :: c :: _ => (c.toNat, none)
  | '"' :: c :: _ => (c.toNat, none)
  | '-' :: cs => signed (-1) cs
  | '+' :: cs => signed 1 cs
  | cs => signed 1 cs

/-- What a directive writes of an argument, and what is wrong with the argument; nothing if there is
    no such directive. -/
def Directive.write? (d : Directive) (argument : String) : Option (Written × Option String) :=
  let cut := fun (octets : List UInt8) => match d.precision with
    | some n => octets.take n
    | none => octets
  let (number, fault) := argumentNumber argument
  let signed := some (⟨d.padNumber (number < 0) (Nat.toDigits 10 number.natAbs), false⟩, fault)
  let inBase := fun (base : Nat) (upper : Bool) =>
    let ds := Nat.toDigits base (number % 0x10000000000000000).toNat
    some (⟨d.padNumber false (if upper then ds.map Char.toUpper else ds), false⟩, fault)
  match d.letter with
  | 's' => some (⟨d.pad (cut (Text.octets argument)), false⟩, none)
  | 'b' =>
    let w := escaped argument
    some (⟨d.pad (cut w.octets), w.stopped⟩, none)
  | 'c' => some (⟨d.pad ((Text.octets argument).take 1), false⟩, none)
  | 'd' => signed
  | 'i' => signed
  | 'u' => inBase 10 false
  | 'o' => inBase 8 false
  | 'x' => inBase 16 false
  | 'X' => inBase 16 true
  | _ => none

/-- How far a format has been used. -/
structure Progress where
  /-- What was written, the last octet first. -/
  done : List UInt8 := []
  arguments : List String
  stopped : Bool := false
  /-- The status at the end. -/
  status : Nat := 0
  /-- What was wrong. -/
  faults : List String := []

/-- What is left of a format that cannot be used further. -/
def Progress.fail (p : Progress) (fault : String) : Progress :=
  { p with stopped := true, status := 2, faults := p.faults ++ [fault] }

/-- Uses a format once. -/
def pass : (fuel : Nat) → List Char → Progress → Progress
  | 0, _, p => p
  | _ + 1, [], p => p
  | fuel + 1, '\\' :: c :: s, p =>
    if '0' ≤ c && c ≤ '7' then
      let (octet, s) := octal 3 (c :: s)
      pass fuel s { p with done := octet :: p.done }
    else
      match escapeOctet? c with
      | some octet => pass fuel s { p with done := octet :: p.done }
      | none =>
        pass fuel s { p with done := (Text.octets (String.ofList ['\\', c])).reverse ++ p.done }
  | fuel + 1, '%' :: '%' :: s, p => pass fuel s { p with done := 37 :: p.done }
  | fuel + 1, '%' :: s, p =>
    match directive? s with
    | none => p.fail "missing format character"
    | some (d, rest) =>
      match d.write? (p.arguments.headD "") with
      | none =>
        p.fail (String.ofList ('%' :: s.take (s.length - rest.length)) ++ ": invalid directive")
      | some (w, fault) =>
        let s := rest
        let p :=
          { p with
            done := w.octets.reverse ++ p.done, arguments := p.arguments.drop 1
            status := if fault.isSome then 1 else p.status, faults := p.faults ++ fault.toList }
        if w.stopped then { p with stopped := true } else pass fuel s p
  | fuel + 1, c :: s, p =>
    pass fuel s { p with done := (Text.octets (String.ofList [c])).reverse ++ p.done }

/-- Uses a format until there are no arguments left. -/
def passes (format : List Char) : (fuel : Nat) → Progress → Progress
  | 0, p => p
  | fuel + 1, p =>
    let next := pass (format.length + 1) format p
    if next.stopped || next.arguments.isEmpty || next.arguments.length = p.arguments.length then next
    else passes format fuel next

/-- What a format writes of arguments, the status, and what was wrong. -/
def print (format : String) (arguments : List String) : List UInt8 × Nat × List String :=
  let p := passes format.toList (arguments.length + 1) { arguments }
  (p.done.reverse, p.status, p.faults)

/-- What `echo` writes: the arguments with their escapes and, unless the first is `-n`, the end of
    the line. -/
def echo (arguments : List String) : List UInt8 :=
  let (ending, arguments) : List UInt8 × List String := match arguments with
    | "-n" :: rest => ([], rest)
    | all => ([10], all)
  let w := escaped (" ".intercalate arguments)
  if w.stopped then w.octets else w.octets ++ ending

end Stocktake.Shell.Format
