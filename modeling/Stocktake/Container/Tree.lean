/-!
# Trees with expansion flags

Every node holds something, may be expanded, and has children in order.  Pruning keeps the root and
every node that holds something wanted itself or above it; carrying expansion over copies the flags
of the nodes that the tree before had too, children being paired by what they hold.  Main statement:
`pruned_eq` says that a child stays exactly if something in its subtree is wanted.
-/

namespace Stocktake

/-- A finitely branching tree. -/
inductive Tree (α : Type) where
  | node (content : α) (expanded : Bool) (children : List (Tree α))
  deriving Repr

namespace Tree

variable {α β : Type}

instance [Inhabited α] : Inhabited (Tree α) := ⟨.node default false []⟩

/-- What the root holds. -/
def content : Tree α → α
  | .node c _ _ => c

/-- Whether the root is expanded. -/
def expanded : Tree α → Bool
  | .node _ e _ => e

/-- The subtrees below the root. -/
def children : Tree α → List (Tree α)
  | .node _ _ ts => ts

/-- A collapsed node. -/
def collapsed (c : α) (ts : List (Tree α)) : Tree α := .node c false ts

/-- A collapsed node without children. -/
def leaf (c : α) : Tree α := collapsed c []

mutual

/-- The number of nodes. -/
def size : Tree α → Nat
  | .node _ _ ts => 1 + sizes ts

/-- The number of nodes of several trees. -/
def sizes : List (Tree α) → Nat
  | [] => 0
  | t :: ts => size t + sizes ts

end

mutual

/-- Depth, content and flag of every node, depth first and the root at `depth`. -/
def walkFrom (depth : Nat) : Tree α → List (Nat × α × Bool)
  | .node c e ts => (depth, c, e) :: walksFrom (depth + 1) ts

/-- The walks through several trees. -/
def walksFrom (depth : Nat) : List (Tree α) → List (Nat × α × Bool)
  | [] => []
  | t :: ts => walkFrom depth t ++ walksFrom depth ts

end

/-- Depth, content and flag of every node, depth first, the root first. -/
def walk (t : Tree α) : List (Nat × α × Bool) := walkFrom 0 t

/-- What the nodes hold, depth first. -/
def contents (t : Tree α) : List α := t.walk.map fun x => x.2.1

mutual

/-- Every content sent through `f`. -/
def map (f : α → β) : Tree α → Tree β
  | .node c e ts => .node (f c) e (mapList f ts)

/-- Every content of several trees sent through `f`. -/
def mapList (f : α → β) : List (Tree α) → List (Tree β)
  | [] => []
  | t :: ts => map f t :: mapList f ts

end

mutual

/-- Some node of the tree holds something wanted. -/
def anyNode (wanted : α → Bool) : Tree α → Bool
  | .node c _ ts => wanted c || anyNodes wanted ts

/-- Some node of several trees holds something wanted. -/
def anyNodes (wanted : α → Bool) : List (Tree α) → Bool
  | [] => false
  | t :: ts => anyNode wanted t || anyNodes wanted ts

end

mutual

/-- The tree, collapsed, without the nodes that are neither wanted nor above a wanted one; the root
    stays. -/
def pruned (wanted : α → Bool) : Tree α → Tree α
  | .node c _ ts => collapsed c (prunedList wanted ts)

/-- The trees that stay, pruned. -/
def prunedList (wanted : α → Bool) : List (Tree α) → List (Tree α)
  | [] => []
  | t :: ts =>
    let kept := pruned wanted t
    if !kept.children.isEmpty || wanted kept.content then kept :: prunedList wanted ts
    else prunedList wanted ts

end

theorem content_pruned (wanted : α → Bool) (t : Tree α) :
    (t.pruned wanted).content = t.content := by
  cases t
  rw [pruned]
  rfl

mutual

theorem pruned_kept (wanted : α → Bool) (t : Tree α) :
    (!(t.pruned wanted).children.isEmpty || wanted t.content) = t.anyNode wanted := by
  match t with
  | .node c e ts =>
    rw [pruned, anyNode, Bool.or_comm]
    exact congrArg (wanted c || ·) (prunedList_isEmpty wanted ts)

theorem prunedList_isEmpty (wanted : α → Bool) (ts : List (Tree α)) :
    (!(prunedList wanted ts).isEmpty) = anyNodes wanted ts := by
  match ts with
  | [] => simp [prunedList, anyNodes]
  | t :: ts =>
    have ht := pruned_kept wanted t
    have hts := prunedList_isEmpty wanted ts
    rw [prunedList, anyNodes]
    simp only [content_pruned, ht]
    by_cases h : t.anyNode wanted = true
    · simp [h]
    · simp [h, hts]

end

/-- A child stays exactly if something in its subtree is wanted. -/
theorem prunedList_eq (wanted : α → Bool) (ts : List (Tree α)) :
    prunedList wanted ts = (ts.filter (anyNode wanted)).map (pruned wanted) := by
  induction ts with
  | nil => rw [prunedList, List.filter_nil, List.map_nil]
  | cons t ts ih =>
    have ht := pruned_kept wanted t
    rw [prunedList]
    simp only [content_pruned, ht, List.filter_cons]
    by_cases h : t.anyNode wanted = true
    · simp [h, ih]
    · simp [h, ih]

mutual

/-- The tree with the flags of the tree before, whose root it shares.  A child takes over those of
    the first child before that holds the same. -/
def restored (same : α → α → Bool) (before : Tree α) : Tree α → Tree α
  | .node c _ ts => .node c before.expanded (restoredList same before.children ts)

/-- Children with the flags of the children before. -/
def restoredList (same : α → α → Bool) (before : List (Tree α)) : List (Tree α) → List (Tree α)
  | [] => []
  | t :: ts =>
    (match before.find? fun old => same old.content t.content with
      | some old => restored same old t
      | none => t) :: restoredList same before ts

end

/-- The tree with the flags of the tree before, if that has the same root. -/
def carryOver (same : α → α → Bool) (before : Option (Tree α)) (t : Tree α) : Tree α :=
  match before with
  | some old => if same old.content t.content then restored same old t else t
  | none => t

/-- The position that an index falls on among `count` places. -/
def wrapIndex (index count : Nat) : Nat := index % count

/-- The node that a path of child indices leads to; indices wrap around, and a node without children
    ends the path. -/
def follow : (path : List Nat) → Tree α → Tree α
  | [], t => t
  | i :: path, t =>
    match t.children[wrapIndex i t.children.length]? with
    | some child => follow path child
    | none => t

/-- The tree with the node at the end of a path changed by `f`. -/
def updateAt (f : Tree α → Tree α) : (path : List Nat) → Tree α → Tree α
  | [], t => f t
  | i :: path, .node c e ts =>
    let k := wrapIndex i ts.length
    match ts[k]? with
    | some child => .node c e (ts.set k (updateAt f path child))
    | none => f (.node c e ts)

/-- The node with another flag. -/
def withExpanded (value : Bool) : Tree α → Tree α
  | .node c _ ts => .node c value ts

end Tree

end Stocktake
