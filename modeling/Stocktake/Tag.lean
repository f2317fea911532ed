/-!
# Tags

A label on a subject of the store, with the reason why it is there.
-/

namespace Stocktake

/-- A label and its rationale. -/
structure Tag where
  name : String
  detail : String := ""
  deriving DecidableEq, Repr, Inhabited

/-- Some tag of the list has the name. -/
def Tag.anyNamed (name : String) (tags : List Tag) : Bool := tags.any fun t => t.name == name

theorem Tag.anyNamed_iff {name : String} {tags : List Tag} :
    Tag.anyNamed name tags = true ↔ ∃ t ∈ tags, t.name = name := by
  simp [Tag.anyNamed]

end Stocktake
