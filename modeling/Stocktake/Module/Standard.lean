import Stocktake.Module.Filesystem
import Stocktake.Module.General
import Stocktake.Module.Packages

/-!
# The modules that are always there
-/

namespace Stocktake

/-- The modules that need no manifest. -/
def standardModules (hiddenTag : String) : List Module :=
  [General.module hiddenTag, Filesystem.module hiddenTag, Packages.module hiddenTag]

/-- The catalog of these modules alone. -/
def Catalog.standard (hiddenTag : String) : Catalog := .ofModules (standardModules hiddenTag)

end Stocktake
