import Stocktake.Proofs.Container.Places
import Stocktake.Session

/-!
# The view of a tree under a filter

Pruning works from the leaves up: a child stays if something below it has stayed or if it is wanted
itself.  Read from the root down it copies the nodes whose subtrees hold something wanted, as
`anyNode` finds it in the source.  Main statement: `filterTree_none`.
-/

namespace Stocktake

namespace Tree

variable {α : Type} (wanted : α → Bool)

/-- Whether something in the subtree at a place is wanted. -/
def anyAt (t : Tree α) (p : List Nat) : Bool := (t.subtreeAt p).any (anyNode wanted)

theorem anyNodes_eq (ts : List (Tree α)) : anyNodes wanted ts = ts.any (anyNode wanted) := by
  induction ts with
  | nil => rw [anyNodes, List.any_nil]
  | cons t ts ih => rw [anyNodes, ih, List.any_cons]

theorem anyNode_eq (t : Tree α) : t.anyNode wanted = t.contents.any wanted := by
  induction t using childInduction with
  | node c e ts ih =>
    rw [anyNode, anyNodes_eq, contents_node, List.any_cons, List.any_flatMap]
    refine congrArg (wanted c || ·) ?_
    rw [Bool.eq_iff_iff, List.any_eq_true, List.any_eq_true]
    refine exists_congr fun child => and_congr_right fun hchild => ?_
    rw [ih child hchild]

theorem anyNode_iff (t : Tree α) :
    t.anyNode wanted = true ↔ ∃ p s, t.subtreeAt p = some s ∧ wanted s.content = true := by
  rw [anyNode_eq, List.any_eq_true]
  constructor
  · rintro ⟨a, ha, hwanted⟩
    obtain ⟨p, s, hs, rfl⟩ := mem_contents.1 ha
    exact ⟨p, s, hs, hwanted⟩
  · rintro ⟨p, s, hs, hwanted⟩
    exact ⟨s.content, mem_contents.2 ⟨p, s, hs, rfl⟩, hwanted⟩

/-- Something in the subtree at a place is wanted exactly if it stands at a place beyond. -/
theorem anyAt_iff (t : Tree α) (p : List Nat) :
    t.anyAt wanted p = true ↔
      ∃ q s, t.subtreeAt (p ++ q) = some s ∧ wanted s.content = true := by
  rw [anyAt]
  cases hp : t.subtreeAt p with
  | none =>
    refine ⟨nofun, ?_⟩
    rintro ⟨q, s, hs, -⟩
    rw [subtreeAt_append, hp] at hs
    cases hs
  | some below =>
    rw [Option.any_some, anyNode_iff]
    simp only [subtreeAt_append, hp, Option.bind_some]

theorem anyAt_of_append {t : Tree α} (p q : List Nat) (h : t.anyAt wanted (p ++ q) = true) :
    t.anyAt wanted p = true := by
  obtain ⟨rest, s, hs, hwanted⟩ := (anyAt_iff wanted t (p ++ q)).1 h
  rw [List.append_assoc] at hs
  exact (anyAt_iff wanted t p).2 ⟨q ++ rest, s, hs, hwanted⟩

/-- What pruning leaves are the copies of the nodes whose subtrees hold something wanted. -/
theorem pruned_eq_copied (t : Tree α) :
    t.pruned wanted = t.copied (t.anyAt wanted) fun _ => false := by
  induction t using childInduction with
  | node c e ts ih =>
    have hchild : ∀ x ∈ ts.zipIdx,
        (if (node c e ts).anyAt wanted [x.2] then
          some (x.1.copied (fun p => (node c e ts).anyAt wanted (x.2 :: p)) fun _ => false)
        else none) = if x.1.anyNode wanted then some (x.1.pruned wanted) else none := by
      rintro ⟨child, i⟩ hx
      have hget : ts[i]? = some child := List.mk_mem_zipIdx_iff_getElem?.1 hx
      have hat : ∀ p, (node c e ts).anyAt wanted (i :: p) = child.anyAt wanted p := by
        intro p
        rw [anyAt, subtreeAt_cons, hget, Option.bind_some, anyAt]
      simp only [hat]
      rw [← ih child (List.mem_of_getElem? hget)]
      rfl
    rw [pruned, prunedList_eq, copied, copiedFrom_eq, List.filterMap_congr hchild, collapsed]
    congr 1
    calc (ts.filter (anyNode wanted)).map (pruned wanted)
      _ = ts.filterMap fun t => if t.anyNode wanted then some (t.pruned wanted) else none := by
        rw [← List.filterMap_eq_map, List.filterMap_filter]
        rfl
      _ = (ts.zipIdx.map Prod.fst).filterMap fun t =>
            if t.anyNode wanted then some (t.pruned wanted) else none := by
        rw [List.zipIdx_map_fst]
      _ = _ := List.filterMap_map

theorem contents_pruned (c : α) (e : Bool) (ts : List (Tree α)) :
    ((node c e ts).pruned wanted).contents =
      c :: (ts.filter (anyNode wanted)).flatMap fun t => (t.pruned wanted).contents := by
  rw [pruned, prunedList_eq, collapsed, contents_node, List.flatMap_map]

theorem contents_pruned_subset (t : Tree α) : (t.pruned wanted).contents ⊆ t.contents := by
  induction t using childInduction with
  | node c e ts ih =>
    intro a ha
    rw [contents_pruned, List.mem_cons, List.mem_flatMap] at ha
    rw [contents_node, List.mem_cons, List.mem_flatMap]
    rcases ha with rfl | ⟨child, hchild, ha⟩
    · exact .inl rfl
    · have hts := List.mem_of_mem_filter hchild
      exact .inr ⟨child, hts, ih child hts ha⟩

/-- In the trees that pruning drops nothing is wanted. -/
theorem flatMap_filter_anyNode (ts : List (Tree α)) :
    ((ts.filter (anyNode wanted)).flatMap fun t => t.contents.filter wanted) =
      ts.flatMap fun t => t.contents.filter wanted := by
  induction ts with
  | nil => rfl
  | cons t ts ih =>
    rw [List.filter_cons, List.flatMap_cons]
    by_cases hany : t.anyNode wanted = true
    · rw [if_pos hany, List.flatMap_cons, ih]
    · have hnone : t.contents.filter wanted = [] := by
        rw [anyNode_eq, List.any_eq_true] at hany
        exact List.filter_eq_nil_iff.2 fun a ha hwanted => hany ⟨a, ha, hwanted⟩
      rw [if_neg hany, ih, hnone, List.nil_append]

/-- Pruning loses nothing wanted, and keeps its order. -/
theorem filter_contents_pruned (t : Tree α) :
    (t.pruned wanted).contents.filter wanted = t.contents.filter wanted := by
  induction t using childInduction with
  | node c e ts ih =>
    have hbelow : ((ts.filter (anyNode wanted)).flatMap fun t => (t.pruned wanted).contents).filter
        wanted = (ts.flatMap contents).filter wanted := by
      calc ((ts.filter (anyNode wanted)).flatMap fun t => (t.pruned wanted).contents).filter wanted
        _ = (ts.filter (anyNode wanted)).flatMap fun t =>
              (t.pruned wanted).contents.filter wanted := List.filter_flatMap
        _ = (ts.filter (anyNode wanted)).flatMap fun t => t.contents.filter wanted :=
          List.flatMap_congr fun t ht => ih t (List.mem_of_mem_filter ht)
        _ = ts.flatMap fun t => t.contents.filter wanted := flatMap_filter_anyNode wanted ts
        _ = (ts.flatMap contents).filter wanted := List.filter_flatMap.symm
    rw [contents_pruned, contents_node, List.filter_cons, List.filter_cons, hbelow]

theorem anyNode_pruned (t : Tree α) : (t.pruned wanted).anyNode wanted = t.anyNode wanted := by
  have hany : ∀ l : List α, (l.filter wanted).any wanted = l.any wanted := by
    intro l
    simp only [List.any_filter, Bool.and_self]
  rw [anyNode_eq, anyNode_eq, ← hany, filter_contents_pruned, hany]

/-- Below the root of a pruned tree every node is wanted or stands above a wanted one. -/
theorem anyNode_of_subtreeAt_pruned {t s : Tree α} {p : List Nat} (hp : p ≠ [])
    (hs : (t.pruned wanted).subtreeAt p = some s) : s.anyNode wanted = true := by
  induction p generalizing t with
  | nil => exact absurd rfl hp
  | cons i p ih =>
    obtain ⟨c, e, ts⟩ := t
    rw [pruned, prunedList_eq, collapsed, subtreeAt_cons] at hs
    obtain ⟨child, hget, hs⟩ := Option.bind_eq_some_iff.1 hs
    obtain ⟨kept, hkept, rfl⟩ := List.mem_map.1 (List.mem_of_getElem? hget)
    cases p with
    | nil =>
      cases hs
      rw [anyNode_pruned]
      exact List.of_mem_filter hkept
    | cons j p => exact ih (List.cons_ne_nil j p) hs

/-- The copied places are the root's and those on the way to something wanted. -/
theorem isCopied_anyAt (t : Tree α) (p : List Nat) :
    isCopied (t.anyAt wanted) p = true ↔
      p = [] ∨ ∃ q s, t.subtreeAt (p ++ q) = some s ∧ wanted s.content = true := by
  rw [isCopied_of_closed (anyAt_of_append wanted), anyAt_iff]

end Tree

theorem filterTree_eq (store : Store) (f : Filter) (before : Option (Tree Record)) (cache : TagCache)
    (root : Tree Record) :
    filterTree store f before cache root =
      let looked := Record.refreshAll store cache root.contents
      ((root.copied (root.anyAt (f.keeps store looked)) fun _ => false).carryOver
        (sameReading looked) before, looked) := by
  rw [filterTree, Tree.pruned_eq_copied]

end Stocktake
