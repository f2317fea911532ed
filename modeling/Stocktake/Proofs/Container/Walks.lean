import Stocktake.Proofs.Container.Addresses
import Stocktake.Proofs.Container.Freshness

/-!
# What a walk tells of a tree

A walk through a tree meets every node once, the root first, and tells how deep each one lies.  Where the
subtree of a node ends is told by the next node alone: it is the first one that lies no deeper.  So two trees
with the same walk are the same, whatever is met behind them.  Main statements: `length_walkFrom`,
`walkFrom_append_inj`, `walk_injective`.
-/

namespace Stocktake.Tree

variable {α β : Type}

mutual

theorem length_walkFrom (t : Tree α) (depth : Nat) : (t.walkFrom depth).length = t.size := by
  match t with
  | .node c e ts =>
    have hbelow := length_walksFrom ts (depth + 1)
    rw [walkFrom, size, List.length_cons, hbelow, Nat.add_comm]

theorem length_walksFrom (ts : List (Tree α)) (depth : Nat) :
    (walksFrom depth ts).length = sizes ts := by
  match ts with
  | [] => rfl
  | t :: ts =>
    have hfirst := length_walkFrom t depth
    have hrest := length_walksFrom ts depth
    rw [walksFrom, sizes, List.length_append, hfirst, hrest]

end

/-- The first node that is met, if any is, lies no deeper than `depth`. -/
def StartsWithin (depth : Nat) (walk : List (Nat × α × Bool)) : Prop :=
  ∀ x ∈ walk.head?, x.1 ≤ depth

section Reading

variable {depth : Nat} {rest rest' : List (Nat × α × Bool)}

theorem startsWithin_walkFrom (t : Tree α) : StartsWithin depth (t.walkFrom depth ++ rest) := by
  cases t with
  | node c e ts =>
    intro x hx
    cases hx
    exact Nat.le_refl depth

/-- Behind a tree comes another one of the same depth, or what comes behind all of them. -/
theorem startsWithin_walksFrom (hrest : StartsWithin depth rest) (ts : List (Tree α)) :
    StartsWithin (depth + 1) (walksFrom (depth + 1) ts ++ rest) := by
  cases ts with
  | nil =>
    intro x hx
    exact Nat.le_succ_of_le (hrest x hx)
  | cons t ts =>
    rw [walksFrom, List.append_assoc]
    exact startsWithin_walkFrom t

/-- What comes behind trees cannot be taken for one more of them. -/
theorem ne_walksFrom_cons (hrest : StartsWithin depth rest) (t : Tree α) (ts : List (Tree α)) :
    rest ≠ walksFrom (depth + 1) (t :: ts) ++ rest' := by
  rintro rfl
  cases t with
  | node c e below =>
    have hdeeper : depth + 1 ≤ depth := hrest (depth + 1, c, e) rfl
    omega

mutual

/-- A tree and what is met behind it, which lies no deeper than the root, are read back from the walk. -/
theorem walkFrom_append_inj {depth : Nat} {rest rest' : List (Nat × α × Bool)}
    (hrest : StartsWithin depth rest) (hrest' : StartsWithin depth rest') (t t' : Tree α)
    (h : t.walkFrom depth ++ rest = t'.walkFrom depth ++ rest') : t = t' ∧ rest = rest' := by
  match t, t' with
  | .node c e ts, .node c' e' ts' =>
    rw [walkFrom, walkFrom, List.cons_append, List.cons_append] at h
    obtain ⟨hroot, hbelow⟩ := List.cons.inj h
    obtain ⟨-, hcontent⟩ := Prod.mk.inj hroot
    obtain ⟨rfl, rfl⟩ := Prod.mk.inj hcontent
    obtain ⟨rfl, hbehind⟩ := walksFrom_append_inj hrest hrest' ts ts' hbelow
    exact ⟨rfl, hbehind⟩

theorem walksFrom_append_inj {depth : Nat} {rest rest' : List (Nat × α × Bool)}
    (hrest : StartsWithin depth rest) (hrest' : StartsWithin depth rest') (ts ts' : List (Tree α))
    (h : walksFrom (depth + 1) ts ++ rest = walksFrom (depth + 1) ts' ++ rest') :
    ts = ts' ∧ rest = rest' := by
  match ts, ts' with
  | [], [] => exact ⟨rfl, h⟩
  | [], t' :: ts' => exact absurd h (ne_walksFrom_cons hrest t' ts')
  | t :: ts, [] => exact absurd h.symm (ne_walksFrom_cons hrest' t ts)
  | t :: ts, t' :: ts' =>
    rw [walksFrom, walksFrom, List.append_assoc, List.append_assoc] at h
    obtain ⟨rfl, hbehind⟩ := walkFrom_append_inj (startsWithin_walksFrom hrest ts)
      (startsWithin_walksFrom hrest' ts') t t' h
    obtain ⟨rfl, hrests⟩ := walksFrom_append_inj hrest hrest' ts ts' hbehind
    exact ⟨rfl, hrests⟩

end

end Reading

theorem walk_injective : Function.Injective (walk : Tree α → List (Nat × α × Bool)) := by
  intro t t' h
  have hend : StartsWithin 0 ([] : List (Nat × α × Bool)) := by
    intro x hx
    cases hx
  refine (walkFrom_append_inj hend hend t t' ?_).1
  rw [List.append_nil, List.append_nil]
  exact h

section Changed

/-- A walk through a tree whose contents are sent through a function. -/
theorem walkFrom_map (f : α → β) (t : Tree α) (depth : Nat) :
    (t.map f).walkFrom depth = (t.walkFrom depth).map fun x => (x.1, f x.2.1, x.2.2) := by
  induction t using childInduction generalizing depth with
  | node c e ts ih =>
    rw [map, walkFrom, walkFrom, walksFrom_eq, walksFrom_eq, mapList_eq_map, List.flatMap_map,
      List.map_cons, List.map_flatMap]
    exact congrArg ((depth, f c, e) :: ·) (List.flatMap_congr fun child hchild => ih child hchild _)

/-- A walk through a tree whose nodes are all collapsed. -/
theorem walkFrom_allCollapsed (t : Tree α) (depth : Nat) :
    t.allCollapsed.walkFrom depth = (t.walkFrom depth).map fun x => (x.1, x.2.1, false) := by
  induction t using childInduction generalizing depth with
  | node c e ts ih =>
    rw [allCollapsed_node, walkFrom, walkFrom, walksFrom_eq, walksFrom_eq, List.flatMap_map,
      List.map_cons, List.map_flatMap]
    exact congrArg ((depth, c, false) :: ·) (List.flatMap_congr fun child hchild => ih child hchild _)

end Changed

end Stocktake.Tree
