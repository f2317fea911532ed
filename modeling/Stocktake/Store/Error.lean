/-!
# Refusals of the store
-/

namespace Stocktake

/-- Why the store did not do what it was asked. -/
inductive StoreError
  | notFound (uri : String)
  | query (reason : String)
  /-- The store that a record refers to is gone. -/
  | detached
  | unsupported (operation : String)
  deriving DecidableEq, Repr

/-- The text of a refusal. -/
def StoreError.message : StoreError → String
  | .notFound uri => "Resource not found: " ++ uri
  | .query reason => "Query failed: " ++ reason
  | .detached => "Store is no longer attached"
  | .unsupported operation => "Unsupported store operation: " ++ operation

/-- The kind of an error in a word. -/
def StoreError.kind : StoreError → String
  | .notFound _ => "NotFound"
  | .query _ => "Query"
  | .detached => "Detached"
  | .unsupported _ => "Unsupported"

end Stocktake
