import Stocktake.Command.Arguments

/-!
# Usage

What is told of a command line that is not carried out.
-/

namespace Stocktake

/-- The name of the program. -/
def programName : String := "inventag"

/-- The version of the program. -/
def versionLine : String := programName ++ " 0.3.0"

/-- How the program is called. -/
def usageLines : List String := [
  "Browse and tag system-inventory facts through pluggable modules",
  "",
  "Usage: " ++ programName ++ " [OPTIONS] <COMMAND>",
  "",
  "Commands:",
  "  modules  List loaded modules, their submodules and filter factories [aliases: m]",
  "  filters  List decide and combine filter factories [aliases: f]",
  "  check    Compile a query and print the resulting filter tree [aliases: c]",
  "             check [--no-wrapper] <QUERY>",
  "  filter   Filter records read from a JSON file",
  "             filter -i <FILE> [-s list|table|tree] [--no-wrapper] <QUERY>",
  "  help     Print this message",
  "",
  "Options:",
  "  -q, --quiet             Suppress informational output (only print results)",
  "  -v, --verbose           Log debug output to stderr",
  "      --plugin-dir <DIR>  Directory scanned for plugin manifests (overrides config)",
  "  -h, --help              Print help",
  "  -V, --version           Print version"]

/-- What is printed where a command line asks for it. -/
def UsageFault.answer : UsageFault → List String
  | .help => usageLines
  | .version => [versionLine]
  | _ => []

/-- What is wrong with a command line. -/
def UsageFault.message : UsageFault → String
  | .help => "help is asked for"
  | .version => "the version is asked for"
  | .nothingGiven => "no command is given"
  | .missingCommand => "no command is given"
  | .unknownCommand => "there is no such command"
  | .unknownArgument => "there is an unexpected argument"
  | .missingArgument => "a required argument is missing"
  | .invalidValue => "an option has an invalid value"
  | .superfluousValue => "an option has a value that it does not take"
  | .repeated => "an option is given twice"

end Stocktake
