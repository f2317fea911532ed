import Stocktake.Error
import Stocktake.Shell.Reader
import Stocktake.Shell.Utility
import Stocktake.Text.Blank

/-!
# Running scripts

The local shell as a source of data: the output of a script, if it ends with status zero.  Streams go
to buffers, so that a pipe is a buffer that the next command reads.
-/

namespace Stocktake.Shell

/-- Where a stream goes. -/
inductive Sink
  | nowhere
  | buffer (index : Nat)
  | file (path : String)
  deriving DecidableEq, Repr

/-- A shell at work. -/
structure State where
  bindings : Dict String := .empty
  /-- The variables that other programs get to see. -/
  exported : List String := []
  files : Dict (List UInt8) := .empty
  /-- What was written to the buffers: the output, the complaints, and one for every pipe. -/
  buffers : Array (List UInt8) := #[[], []]
  input : List UInt8 := []
  output : Sink := .buffer 0
  complaints : Sink := .buffer 1
  status : Nat := 0
  /-- How many loops are to be left. -/
  leaving : Nat := 0
  /-- The last of these loops goes on with its next round. -/
  resuming : Bool := false
  /-- The shell was told to end. -/
  ended : Bool := false
  /-- The shell was ended by a signal. -/
  killed : Bool := false

instance : Inhabited State := ⟨{}⟩

namespace State

/-- Writes octets. -/
def emit (s : State) (sink : Sink) (octets : List UInt8) : State :=
  match sink with
  | .nowhere => s
  | .buffer i => { s with buffers := s.buffers.modify i (· ++ octets) }
  | .file path => { s with files := s.files.insert path ((s.files.get? path).getD [] ++ octets) }

/-- Takes over what a utility did. -/
def take (s : State) (e : Effect) : State :=
  let s := (s.emit s.output e.output).emit s.complaints (Text.octets e.complaint)
  { s with status := e.status }

/-- The shell after a complaint that ends it. -/
def abort (s : State) (status : Nat) (complaint : String) : State :=
  let s := s.emit s.complaints (Text.octets ("sh: 1: " ++ complaint ++ "\n"))
  { s with status, ended := true }

/-- Whether nothing more is to be done. -/
def isOver (s : State) : Bool := s.ended || s.killed || s.leaving != 0

/-- The shell after a round of a loop, and whether the loop goes on. -/
def endRound (s : State) : State × Bool :=
  if s.leaving = 0 then (s, !s.isOver)
  else
    let s := { s with leaving := s.leaving - 1 }
    ({ s with resuming := s.resuming && s.leaving != 0 }, !s.isOver && s.resuming)

/-- The shell after another one that worked for it. -/
def afterSubshell (s inner : State) : State :=
  { s with
    files := inner.files, buffers := inner.buffers, status := inner.status
    killed := inner.killed }

/-- The process number of the shell. -/
def process : String := "1"

/-- The value of a variable. -/
def value (s : State) (name : String) : String :=
  match name with
  | "?" => toString s.status
  | "$" => process
  | "#" => "0"
  | "0" => "sh"
  | name => (s.bindings.get? name).getD ""

end State

/-- The words that a word is expanded to, the last of which may go on. -/
structure Expansion where
  done : List String := []
  current : Option String := none

namespace Expansion

/-- Adds a text that is not split. -/
def add (e : Expansion) (text : String) : Expansion :=
  { e with current := some (e.current.getD "" ++ text) }

/-- Ends the word at hand. -/
def close (e : Expansion) : Expansion :=
  match e.current with
  | none => e
  | some word => ⟨e.done ++ [word], none⟩

/-- Adds a text that is split at blanks. -/
def split : Expansion → List Char → Expansion
  | e, [] => e
  | e, c :: s =>
    if c = ' ' || c = '\t' || c = '\n' then split e.close s else split (e.add (String.ofList [c])) s

/-- All words. -/
def words (e : Expansion) : List String := e.close.done

end Expansion

/-- An assignment: a name, and the parts of the value. -/
def assignment? (w : Word) : Option (String × Word) :=
  let rec go (name : List Char) : Word → Option (String × Word)
    | .text false t :: rest =>
      match t.toList with
      | ['='] => if isName name then some (String.ofList name, rest) else none
      | [c] => go (name ++ [c]) rest
      | _ => none
    | _ => none
  go [] w

/-- The signals that `kill` knows by name. -/
def signalOf? (word : String) : Option Nat :=
  match word with
  | "-HUP" => some 1
  | "-INT" => some 2
  | "-KILL" => some 9
  | "-TERM" => some 15
  | "-SIGKILL" => some 9
  | "-SIGTERM" => some 15
  | word => (Text.after? word "-").bind String.toNat?

/-- Hands variables, with their values if these are given, to other programs. -/
def share (s : State) : List String → State
  | [] => { s with status := 0 }
  | word :: rest =>
    match Text.cut? word "=" with
    | some (name, value) =>
      share { s with bindings := s.bindings.insert name value, exported := name :: s.exported } rest
    | none => share { s with exported := word :: s.exported } rest

/-- How many loops an argument speaks of. -/
def loopCount (arguments : List String) : Nat :=
  (arguments.head?.bind String.toNat?).getD 1

/-- A program by its name, or by its path in one of the usual directories. -/
def program? (s : State) (name : String) (arguments : List String) : Option Effect :=
  let base := ((Text.after? name "/usr/bin/").or (Text.after? name "/bin/")).getD name
  Utility.run? s.files base arguments s.input

mutual

/-- Expands parts of a word. -/
def expand : (fuel : Nat) → State → Expansion → Word → State × Expansion
  | 0, s, e, _ => (s, e)
  | _ + 1, s, e, [] => (s, e)
  | fuel + 1, s, e, p :: rest =>
    let put := fun (e : Expansion) (quoted : Bool) (text : String) =>
      if quoted then e.add text else e.split text.toList
    let (s, e) : State × Expansion := match p with
      | .text _ text => (s, e.add text)
      | .value quoted name otherwise =>
        let text := s.value name
        if text = "" && !otherwise.isEmpty then expand fuel s e otherwise
        else (s, put e quoted text)
      | .number quoted text =>
        let values := fun name => ((s.value name).toInt?).getD 0
        match Arithmetic.evaluate values text with
        | .ok n => (s, put e quoted (toString n))
        | .error fault =>
          (s.abort 2 ("arithmetic expression: " ++ fault.message ++ ": \"" ++ text ++ "\""), e)
      | .output quoted script =>
        let i := s.buffers.size
        let inner := run fuel { s with buffers := s.buffers.push [], output := .buffer i } script
        let text := Text.decodeLossy (inner.buffers.getD i [])
        let text := String.ofList (text.toList.reverse.dropWhile fun c => c = '\n').reverse
        (s.afterSubshell inner, put e quoted text)
    expand fuel s e rest

/-- Expands words. -/
def expandAll : (fuel : Nat) → State → List Word → State × List String
  | 0, s, _ => (s, [])
  | _ + 1, s, [] => (s, [])
  | fuel + 1, s, w :: rest =>
    let (s, e) := expand fuel s {} w
    let (s, words) := expandAll fuel s rest
    (s, e.words ++ words)

/-- Redirects the streams of a shell; tells whether that was possible. -/
def redirect : (fuel : Nat) → State → List Redirection → State × Bool
  | 0, s, _ => (s, false)
  | _ + 1, s, [] => (s, true)
  | fuel + 1, s, r :: rest =>
    let direct := fun (s : State) (descriptor : Nat) (sink : Sink) =>
      match descriptor with
      | 1 => { s with output := sink }
      | 2 => { s with complaints := sink }
      | _ => s
    match r with
    | .into descriptor append target =>
      let (s, e) := expand fuel s {} target
      let path := " ".intercalate e.words
      if path = "/dev/null" then redirect fuel (direct s descriptor .nowhere) rest
      else if path = "/dev/stderr" then redirect fuel (direct s descriptor s.complaints) rest
      else if path = "/dev/stdout" then redirect fuel (direct s descriptor s.output) rest
      else
        let s := if append && s.files.has path then s
          else { s with files := s.files.insert path [] }
        redirect fuel (direct s descriptor (.file path)) rest
    | .source target =>
      let (s, e) := expand fuel s {} target
      let path := " ".intercalate e.words
      if path = "/dev/null" then redirect fuel { s with input := [] } rest
      else
        match s.files.get? path with
        | some octets => redirect fuel { s with input := octets } rest
        | none =>
          let complaint := "sh: 1: cannot open " ++ path ++ ": No such file\n"
          ({ s.emit s.complaints (Text.octets complaint) with status := 2 }, false)
    | .copy descriptor target =>
      let (s, e) := expand fuel s {} target
      let sink := match e.words with
        | ["1"] => s.output
        | ["2"] => s.complaints
        | _ => .nowhere
      redirect fuel (direct s descriptor sink) rest

/-- Sets variables. -/
def assign : (fuel : Nat) → State → List (String × Word) → State
  | 0, s, _ => s
  | _ + 1, s, [] => s
  | fuel + 1, s, (name, w) :: rest =>
    let (s, e) := expand fuel s {} (w.map fun p => match p with
      | .value _ name otherwise => .value true name otherwise
      | .number _ text => .number true text
      | .output _ script => .output true script
      | p => p)
    let s := { s with bindings := s.bindings.insert name (String.join e.words) }
    assign fuel s rest

/-- Calls a command with its arguments; the bindings in `own` are made for it alone. -/
def call : (fuel : Nat) → State → (own : List String) → String → List String → State
  | 0, s, _, _, _ => { s with ended := true }
  | fuel + 1, s, own, name, arguments =>
    match name with
    | "exit" =>
      match arguments with
      | [] => { s with ended := true }
      | n :: _ =>
        match n.toNat? with
        | some n => { s with status := n % 256, ended := true }
        | none => s.abort 2 ("exit: Illegal number: " ++ n)
    | "kill" =>
      let (signal, targets) := match arguments with
        | "-s" :: word :: rest => ((signalOf? ("-" ++ word)).getD 15, rest)
        | word :: rest =>
          match signalOf? word with
          | some n => (n, rest)
          | none => (15, arguments)
        | [] => (15, [])
      if targets.contains State.process then
        if signal = 0 then { s with status := 0 } else { s with killed := true }
      else s.take (Utility.complain 1 "sh: 1: kill: No such process")
    | "cd" =>
      match arguments with
      | path :: _ =>
        if Utility.directories.contains path then { s with status := 0 }
        else s.take (Utility.complain 2 ("sh: 1: cd: can't cd to " ++ path))
      | [] => { s with status := 0 }
    | "export" => share s arguments
    | "set" => { s with status := 0 }
    | "break" => { s with status := 0, leaving := loopCount arguments }
    | "continue" => { s with status := 0, leaving := loopCount arguments, resuming := true }
    | "exec" =>
      match arguments with
      | [] => { s with status := 0 }
      | name :: rest =>
        if name != "sh" && (program? s name rest).isNone then
          s.abort 127 ("exec: " ++ name ++ ": not found")
        else { call fuel s own name rest with ended := true }
    | "command" =>
      match arguments with
      | [] => { s with status := 0 }
      | name :: rest => call fuel s own name rest
    | "eval" => perform fuel s (" ".intercalate arguments)
    | "sh" =>
      match arguments with
      | "-c" :: text :: _ =>
        let seen := (own ++ s.exported).foldl (fun d name =>
          match s.bindings.get? name with
          | some value => d.insert name value
          | none => d) Dict.empty
        s.afterSubshell (perform fuel { s with bindings := seen } text)
      | _ => perform fuel s (Text.decodeLossy s.input)
    | "unset" =>
      { s with bindings := arguments.foldl (fun d n => d.erase n) s.bindings, status := 0 }
    | name =>
      match program? s name arguments with
      | some e => s.take e
      | none => s.take (Utility.complain 127 ("sh: 1: " ++ name ++ ": not found"))

/-- Performs the script of a text. -/
def perform : (fuel : Nat) → State → String → State
  | 0, s, _ => { s with ended := true }
  | fuel + 1, s, text =>
    match readScript text with
    | .ok script => run fuel s script
    | .error fault => s.abort 2 ("Syntax error: " ++ fault.message)

/-- Runs a body once for every word. -/
def runEach : (fuel : Nat) → State → String → List String → Script → State
  | 0, s, _, _, _ => { s with ended := true }
  | _ + 1, s, _, [], _ => s
  | fuel + 1, s, name, word :: rest, body =>
    let (s, more) := (run fuel { s with bindings := s.bindings.insert name word } body).endRound
    if more then runEach fuel s name rest body else s

/-- Runs a script. -/
def run : (fuel : Nat) → State → Script → State
  | 0, s, _ => { s with ended := true }
  | fuel + 1, s, script =>
    if s.isOver then s
    else
      match script with
      | .nothing => s
      | .simple words redirections =>
        let assignments := (words.map assignment?).takeWhile Option.isSome
        let (expanded, arguments) := expandAll fuel s (words.drop assignments.length)
        if expanded.isOver then expanded
        else
          let (inner, opened) := redirect fuel expanded redirections
          let back := fun (inner : State) =>
            { inner with input := s.input, output := s.output, complaints := s.complaints }
          if !opened then back inner
          else
            match arguments with
            | [] =>
              let status := if words.length = assignments.length then 0 else inner.status
              back (assign fuel { inner with status } (assignments.filterMap id))
            | name :: arguments =>
              let kept := inner.bindings
              let inner := assign fuel inner (assignments.filterMap id)
              let own := (assignments.filterMap id).map Prod.fst
              let inner := call fuel inner own name arguments
              back (if assignments.isEmpty then inner else { inner with bindings := kept })
      | .pipe left right =>
        let i := s.buffers.size
        let first := run fuel { s with buffers := s.buffers.push [], output := .buffer i } left
        let second := run fuel
          { s with buffers := first.buffers, files := first.files, input := first.buffers.getD i [] }
          right
        s.afterSubshell { second with killed := first.killed || second.killed }
      | .both left right =>
        let s := run fuel s left
        if s.isOver || s.status != 0 then s else run fuel s right
      | .either left right =>
        let s := run fuel s left
        if s.isOver || s.status = 0 then s else run fuel s right
      | .sequence left right => run fuel (run fuel s left) right
      | .negated body =>
        let s := run fuel s body
        if s.isOver then s else { s with status := if s.status = 0 then 1 else 0 }
      | .subshell body => s.afterSubshell (run fuel s body)
      | .redirected body redirections =>
        let (inner, opened) := redirect fuel s redirections
        let inner := if opened then run fuel inner body else inner
        { inner with input := s.input, output := s.output, complaints := s.complaints }
      | .choice condition yes no =>
        let s := run fuel s condition
        if s.isOver then s
        else if s.status = 0 then run fuel s yes
        else run fuel { s with status := 0 } no
      | .loop whileStatus condition body =>
        let s := run fuel s condition
        if s.isOver then s
        else if (s.status = 0) = whileStatus then
          let (s, more) := (run fuel s body).endRound
          if more then run fuel s (.loop whileStatus condition body) else s
        else { s with status := 0 }
      | .each name words body =>
        let (s, words) := expandAll fuel s words
        runEach fuel s name words body

end

/-- The most steps that may be nested in each other in one run. -/
def stepLimit : Nat := 100000

/-- The directories where the shell itself may be found. -/
def shellDirectories : List String := ["/bin", "/usr/bin"]

/-- Whether the shell is found along a search path. -/
def isFound (searchPath : Option String) : Bool :=
  match searchPath with
  | none => true
  | some path => (Text.pieces path ":").any fun d => shellDirectories.contains d

/-- The output of a command.  Complaints are told, without blanks at their ends, where the command
    fails. -/
def execute (searchPath : Option String) (command : String) : Except SourceError String :=
  if !isFound searchPath || command.toList.contains (Char.ofNat 0) then .error (.spawn command)
  else
    let start : State := match searchPath with
      | some path => { bindings := .ofList [("PATH", path)], exported := ["PATH"] }
      | none => {}
    let s := perform stepLimit start command
    let complaints := Text.trim (Text.decodeLossy (s.buffers.getD 1 []))
    if s.killed then .error (.failed command none complaints)
    else if s.status != 0 then .error (.failed command (some s.status) complaints)
    else
      match Text.decode? (s.buffers.getD 0 []) with
      | some output => .ok output
      | none => .error (.invalidOutput command)

end Stocktake.Shell
