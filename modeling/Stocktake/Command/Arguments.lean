import Stocktake.Command.Basic

/-!
# The command line

An invocation is read from the words of a command line: switches, the name of a command, and after it
more switches and the query.  `--long`, `--long=value`, `-s`, `-svalue` and `-s=value` are switches,
those without a value may stand together behind one dash, and after `--` nothing is a switch.  A value
that stands in a word of its own is looked at when the next switch or query comes, or at the end; so
of two faults the one in the earlier word does not always count.
-/

namespace Stocktake

/-- Why a command line is not carried out. -/
inductive UsageFault
  /-- Help is asked for. -/
  | help
  /-- The version is asked for. -/
  | version
  /-- There is nothing on the command line. -/
  | nothingGiven
  | missingCommand
  | unknownCommand
  | unknownArgument
  | missingArgument
  | invalidValue
  /-- A value for something that takes none. -/
  | superfluousValue
  /-- Something is given twice. -/
  | repeated
  deriving DecidableEq, Repr

/-- Whether the fault is a request that can be fulfilled. -/
def UsageFault.isRequest : UsageFault → Bool
  | .help => true
  | .version => true
  | _ => false

/-- What can be switched on, or given a value. -/
inductive Switch
  | quiet
  | verbose
  | pluginDir
  | help
  | version
  | noWrapper
  | input
  | shape
  deriving DecidableEq, Repr

namespace Switch

/-- The name after two dashes. -/
def long : Switch → String
  | .quiet => "quiet"
  | .verbose => "verbose"
  | .pluginDir => "plugin-dir"
  | .help => "help"
  | .version => "version"
  | .noWrapper => "no-wrapper"
  | .input => "input"
  | .shape => "shape"

/-- The letter after one dash. -/
def short? : Switch → Option Char
  | .quiet => some 'q'
  | .verbose => some 'v'
  | .help => some 'h'
  | .version => some 'V'
  | .input => some 'i'
  | .shape => some 's'
  | .pluginDir => none
  | .noWrapper => none

/-- Whether it takes a value. -/
def takesValue : Switch → Bool
  | .pluginDir => true
  | .input => true
  | .shape => true
  | _ => false

/-- Whether a value is one that it takes: paths are not empty, and shapes are known. -/
def accepts (s : Switch) (value : String) : Bool :=
  match s with
  | .pluginDir => value != ""
  | .input => value != ""
  | .shape => (Shape.ofText? value).isSome
  | _ => true

end Switch

/-- The names of commands. -/
inductive Verb
  | modules
  | filters
  | check
  | filter
  | help
  deriving DecidableEq, Repr

/-- The command of a name, which may be a short one. -/
def Verb.ofText? (word : String) : Option Verb :=
  if word = "modules" ∨ word = "m" then some .modules
  else if word = "filters" ∨ word = "f" then some .filters
  else if word = "check" ∨ word = "c" then some .check
  else if word = "filter" then some .filter
  else if word = "help" then some .help
  else none

/-- Where a word stands: before the name of a command, or after it. -/
inductive Place
  | start
  | after (verb : Verb)
  deriving DecidableEq, Repr

namespace Place

/-- The switches that are known at a place. -/
def switches : Place → List Switch
  | .start => [.quiet, .verbose, .pluginDir, .help, .version]
  | .after .check => [.noWrapper, .quiet, .verbose, .pluginDir, .help]
  | .after .filter => [.input, .shape, .noWrapper, .quiet, .verbose, .pluginDir, .help]
  | .after _ => [.quiet, .verbose, .pluginDir, .help]

/-- Whether a query is expected at a place. -/
def takesQuery : Place → Bool
  | .after .check => true
  | .after .filter => true
  | _ => false

end Place

/-- What has been read at one place. -/
structure Gathered where
  given : List (Switch × String) := []
  /-- A switch whose value is still to come, or to be looked at. -/
  pending : Option (Switch × Option String) := none
  query : Option String := none
  deriving Repr

namespace Gathered

/-- Whether a switch has been given. -/
def has (g : Gathered) (s : Switch) : Bool := g.given.any fun x => x.1 == s

/-- The value that a switch has been given. -/
def value? (g : Gathered) (s : Switch) : Option String :=
  (g.given.find? fun x => x.1 == s).map Prod.snd

/-- Whether the next word is the value of a switch. -/
def isWaiting (g : Gathered) : Bool :=
  match g.pending with
  | some (_, none) => true
  | _ => false

/-- Takes a switch with its value. -/
def enter (g : Gathered) (s : Switch) (value : String) : Except UsageFault Gathered :=
  if g.has s then .error .repeated
  else if s.accepts value then .ok { g with given := g.given ++ [(s, value)] }
  else .error .invalidValue

/-- Looks at the value that is pending. -/
def settle (g : Gathered) : Except UsageFault Gathered :=
  match g.pending with
  | none => .ok g
  | some (_, none) => .error .invalidValue
  | some (s, some value) => { g with pending := none }.enter s value

/-- Takes a switch without a value. -/
def turnOn (g : Gathered) (s : Switch) : Except UsageFault Gathered :=
  g.settle.bind fun g =>
    match s with
    | .help => .error .help
    | .version => .error .version
    | s => g.enter s ""

/-- Takes a switch whose value is in the same word, or in the next one. -/
def supply (g : Gathered) (s : Switch) (attached : Option String) : Except UsageFault Gathered :=
  g.settle.bind fun g =>
    match attached with
    | some value => g.enter s value
    | none => .ok { g with pending := some (s, none) }

/-- Takes a word that is no switch and no command. -/
def takeWord (g : Gathered) (place : Place) (word : String) : Except UsageFault Gathered :=
  if place.takesQuery && g.query.isNone then g.settle.map fun g => { g with query := some word }
  else .error .unknownArgument

/-- Reads what stands after two dashes. -/
def readLong (g : Gathered) (place : Place) (cs : List Char) : Except UsageFault Gathered :=
  let name := String.ofList (cs.takeWhile fun c => c != '=')
  let value := match cs.dropWhile fun c => c != '=' with
    | [] => none
    | _ :: rest => some (String.ofList rest)
  match place.switches.find? fun s => s.long == name with
  | none => .error .unknownArgument
  | some s =>
    if s.takesValue then g.supply s value
    else if value.isSome then .error .superfluousValue
    else g.turnOn s

/-- Reads what stands after one dash. -/
def readShort (place : Place) : Gathered → List Char → Except UsageFault Gathered
  | g, [] => .ok g
  | g, c :: rest =>
    match place.switches.find? fun s => s.short? == some c with
    | none => .error .unknownArgument
    | some s =>
      if s.takesValue then
        g.supply s <| match rest with
          | [] => none
          | '=' :: value => some (String.ofList value)
          | value => some (String.ofList value)
      else (g.turnOn s).bind fun g => readShort place g rest

end Gathered

/-- What a word looks like. -/
inductive WordForm
  /-- Two dashes: no later word is a switch. -/
  | closing
  | long (text : List Char)
  | short (letters : List Char)
  | plain
  deriving DecidableEq, Repr

/-- What a word looks like; a single dash is a plain word. -/
def WordForm.ofText (word : String) : WordForm :=
  match word.toList with
  | ['-', '-'] => .closing
  | '-' :: '-' :: text => .long text
  | '-' :: letter :: letters => .short (letter :: letters)
  | _ => .plain

/-- Reads the words after the name of a command. -/
def readWords (place : Place) :
    (closed : Bool) → Gathered → List String → Except UsageFault Gathered
  | _, g, [] => g.settle
  | true, g, word :: rest => (g.takeWord place word).bind fun g => readWords place true g rest
  | false, g, word :: rest =>
    match WordForm.ofText word with
    | .closing => readWords place true g rest
    | .long text => (g.readLong place text).bind fun g => readWords place false g rest
    | .short letters =>
      (Gathered.readShort place g letters).bind fun g => readWords place false g rest
    | .plain =>
      match g.pending with
      | some (s, none) => readWords place false { g with pending := some (s, some word) } rest
      | _ => (g.takeWord place word).bind fun g => readWords place false g rest

/-- What is wrong where a command has to be named, but no word may name one any more. -/
def closedStart (g : Gathered) : List String → UsageFault
  | [] =>
    match g.settle with
    | .error fault => fault
    | .ok g => if g.given.isEmpty then .nothingGiven else .missingCommand
  | word :: _ => if (Verb.ofText? word).isSome then .unknownArgument else .unknownCommand

/-- Reads the words up to the name of a command, and gives it with the words after it. -/
def readStart : Gathered → List String → Except UsageFault (Gathered × Verb × List String)
  | g, [] => .error (closedStart g [])
  | g, word :: rest =>
    match WordForm.ofText word with
    | .closing => .error (closedStart g rest)
    | .long text => (g.readLong .start text).bind fun g => readStart g rest
    | .short letters => (Gathered.readShort .start g letters).bind fun g => readStart g rest
    | .plain =>
      match g.pending, Verb.ofText? word with
      | some (s, none), _ => readStart { g with pending := some (s, some word) } rest
      | _, some verb => .ok (g, verb, rest)
      | _, none => .error .unknownCommand

/-- What becomes of a request for help on a command, whose name may follow. -/
def helpFault : List String → UsageFault
  | [] => .help
  | [word] => if (Verb.ofText? word).isSome then .help else .unknownCommand
  | _ => .unknownCommand

/-- The command of what has been read after its name. -/
def Gathered.command (g : Gathered) : Verb → Except UsageFault Command
  | .modules => .ok .modules
  | .filters => .ok .filters
  | .check =>
    match g.query with
    | none => .error .missingArgument
    | some query => .ok (.check query (g.has .noWrapper))
  | .filter =>
    match g.query, g.value? .input with
    | some query, some input =>
      let shape := ((g.value? .shape).bind Shape.ofText?).getD .list
      .ok (.filter query input shape (g.has .noWrapper))
    | _, _ => .error .missingArgument
  | .help => .error .help

/-- The invocation that the words of a command line make. -/
def Invocation.read (words : List String) : Except UsageFault Invocation :=
  match readStart {} words with
  | .error fault => .error fault
  | .ok (_, .help, rest) => .error (helpFault rest)
  | .ok (outer, verb, rest) =>
    (readWords (.after verb) false {} rest).bind fun inner =>
      (inner.command verb).bind fun command =>
        outer.settle.map fun outer =>
          { command
            quiet := outer.has .quiet || inner.has .quiet
            verbose := outer.has .verbose || inner.has .verbose
            pluginDir := (inner.value? .pluginDir).or (outer.value? .pluginDir) }

end Stocktake
