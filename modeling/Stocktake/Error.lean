import Stocktake.Container.Shape
import Stocktake.Filter.Error
import Stocktake.Json.Basic
import Stocktake.Store.Error

/-!
# Errors

The causes for which a data source, a submodule, a plugin or a command fails, and their texts.
-/

namespace Stocktake

/-- Why a command gave no output. -/
inductive SourceError
  | spawn (command : String)
  | failed (command : String) (status : Option Int) (stderr : String)
  | invalidOutput (command : String)
  deriving DecidableEq, Repr

/-- The text of an exit status, which a command ended by a signal does not have. -/
def statusText : Option Int → String
  | some n => "Some(" ++ toString n ++ ")"
  | none => "None"

/-- The text of an error. -/
def SourceError.message : SourceError → String
  | .spawn command => "Failed to run '" ++ command ++ "'"
  | .failed command status stderr =>
    "Command '" ++ command ++ "' failed (status " ++ statusText status ++ "): " ++ stderr
  | .invalidOutput command => "Command '" ++ command ++ "' produced invalid UTF-8"

/-- The kind of an error in a word. -/
def SourceError.kind : SourceError → String
  | .spawn _ => "Spawn"
  | .failed .. => "CommandFailed"
  | .invalidOutput _ => "InvalidOutput"

/-- Why a submodule or an action did not do its work. -/
inductive ModuleError
  | store (cause : StoreError)
  | source (cause : SourceError)
  | noSource
  | unsupportedShape (submodule : String) (shape : Shape)
  | invalidParameter (name reason : String)
  | missingParameter (name : String)
  | actionDisabled (name : String)
  | clipboard (reason : String)
  | io
  deriving DecidableEq, Repr

/-- The text of an error. -/
def ModuleError.message : ModuleError → String
  | .store cause => "Store error: " ++ cause.message
  | .source cause => "Data source error: " ++ cause.message
  | .noSource => "No data source is active"
  | .unsupportedShape submodule shape =>
    "Submodule '" ++ submodule ++ "' cannot produce " ++ shape.text ++ " data"
  | .invalidParameter name reason => "Invalid value for parameter '" ++ name ++ "': " ++ reason
  | .missingParameter name => "Parameter '" ++ name ++ "' is required"
  | .actionDisabled name => "Action '" ++ name ++ "' is not enabled for the current selection"
  | .clipboard reason => "Clipboard error: " ++ reason
  | .io => "IO error"

/-- The kind of an error in a word, after the part of the program that it comes from. -/
def ModuleError.kind : ModuleError → String
  | .store cause => "Store." ++ cause.kind
  | .source cause => "DataSource." ++ cause.kind
  | .noSource => "NoDataSource"
  | .unsupportedShape .. => "UnsupportedShape"
  | .invalidParameter .. => "InvalidParameter"
  | .missingParameter _ => "MissingParameter"
  | .actionDisabled _ => "ActionDisabled"
  | .clipboard _ => "Clipboard"
  | .io => "Io"

/-- Why a manifest gives no module. -/
inductive PluginError
  | read
  | parse
  | missingType
  | unknownType (kind : String)
  | invalidManifest (reason : String)
  | constructorPanicked (kind reason : String)
  deriving DecidableEq, Repr

/-- The text of an error. -/
def PluginError.message : PluginError → String
  | .read => "Failed to read the manifest"
  | .parse => "Failed to parse the manifest"
  | .missingType => "Manifest has no 'type' key"
  | .unknownType kind => "Plugin type '" ++ kind ++ "' is not registered"
  | .invalidManifest reason => "Invalid manifest: " ++ reason
  | .constructorPanicked kind reason =>
    "Constructor for plugin type '" ++ kind ++ "' panicked: " ++ reason

/-- The kind of an error in a word. -/
def PluginError.kind : PluginError → String
  | .read => "Read"
  | .parse => "Parse"
  | .missingType => "MissingType"
  | .unknownType _ => "UnknownType"
  | .invalidManifest _ => "InvalidManifest"
  | .constructorPanicked .. => "ConstructorPanicked"

/-- Why a command failed. -/
inductive Error
  | filter (cause : FilterError)
  | module (cause : ModuleError)
  | plugin (cause : PluginError)
  | store (cause : StoreError)
  | config
  | json (cause : JsonError)
  | io
  deriving DecidableEq, Repr

/-- The text of an error. -/
def Error.message : Error → String
  | .filter cause => "Filter error: " ++ cause.message
  | .module cause => "Module error: " ++ cause.message
  | .plugin cause => "Plugin error: " ++ cause.message
  | .store cause => "Store error: " ++ cause.message
  | .config => "Configuration error"
  | .json _ => "JSON error"
  | .io => "I/O error"

/-- The kind of an error in a word, after the part of the program that it comes from. -/
def Error.kind : Error → String
  | .filter cause => "Filter." ++ cause.kind
  | .module cause => "Module." ++ cause.kind
  | .plugin cause => "Plugin." ++ cause.kind
  | .store cause => "Store." ++ cause.kind
  | .config => "Config"
  | .json _ => "Json"
  | .io => "Io"

end Stocktake
