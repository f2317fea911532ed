import Mathlib.Data.List.Basic
import Stocktake.Container.Tree

/-!
# Places in trees

A place is the list of the child indices on the way from the root to a node.  Nodes that hold the same
are told apart by their places, so a view of a tree is known by the places whose nodes it copies and by
the flags of the copies: it is `copied kept flags`.  Main statements: `mem_places`, the places of a tree
are those that lead to a node, and `walkFrom_copied`, a walk through copies meets the copied places in
their old order.
-/

namespace Stocktake.Tree

variable {α : Type}

/-- Induction with the children of a node at hand. -/
@[elab_as_elim]
theorem childInduction {motive : Tree α → Prop}
    (node : ∀ c e ts, (∀ t ∈ ts, motive t) → motive (.node c e ts)) (t : Tree α) : motive t := by
  cases t with
  | node c e ts =>
    apply node
    intro t ht
    exact childInduction node t

/-- The subtree at a place. -/
def subtreeAt : Tree α → List Nat → Option (Tree α)
  | t, [] => some t
  | t, i :: p => t.children[i]?.bind fun child => child.subtreeAt p

mutual

/-- The places of a tree, depth first. -/
def places : Tree α → List (List Nat)
  | .node _ _ ts => [] :: placesFrom 0 ts

/-- The places in several trees, the first of which is the child with the index `i`. -/
def placesFrom (i : Nat) : List (Tree α) → List (List Nat)
  | [] => []
  | t :: ts => t.places.map (i :: ·) ++ placesFrom (i + 1) ts

end

mutual

/-- The copy of a tree that has the root, of the children those at places that are kept, and so on for
    their children; a copy has the flag for its place. -/
def copied (kept flags : List Nat → Bool) : Tree α → Tree α
  | .node c _ ts => .node c (flags []) (copiedFrom kept flags 0 ts)

/-- The copies of the kept children, the first one having the index `i`. -/
def copiedFrom (kept flags : List Nat → Bool) (i : Nat) : List (Tree α) → List (Tree α)
  | [] => []
  | t :: ts =>
    if kept [i] then
      t.copied (fun p => kept (i :: p)) (fun p => flags (i :: p)) :: copiedFrom kept flags (i + 1) ts
    else copiedFrom kept flags (i + 1) ts

end

/-- Whether the node at a place is copied: all places on the way to it are kept. -/
def isCopied (kept : List Nat → Bool) : List Nat → Bool
  | [] => true
  | i :: p => kept [i] && isCopied (fun q => kept (i :: q)) p

theorem subtreeAt_cons (c : α) (e : Bool) (ts : List (Tree α)) (i : Nat) (p : List Nat) :
    (node c e ts).subtreeAt (i :: p) = ts[i]?.bind fun child => child.subtreeAt p := rfl

theorem subtreeAt_append (t : Tree α) (p q : List Nat) :
    t.subtreeAt (p ++ q) = (t.subtreeAt p).bind fun s => s.subtreeAt q := by
  induction p generalizing t with
  | nil => rfl
  | cons i p ih =>
    cases t with
    | node c e ts =>
      rw [List.cons_append, subtreeAt_cons, subtreeAt_cons]
      cases ts[i]? with
      | none => rfl
      | some child => exact ih child

theorem placesFrom_eq (i : Nat) (ts : List (Tree α)) :
    placesFrom i ts = (ts.zipIdx i).flatMap fun x => x.1.places.map (x.2 :: ·) := by
  induction ts generalizing i with
  | nil => rfl
  | cons t ts ih => rw [placesFrom, ih, List.zipIdx_cons, List.flatMap_cons]

theorem copiedFrom_eq (kept flags : List Nat → Bool) (i : Nat) (ts : List (Tree α)) :
    copiedFrom kept flags i ts = (ts.zipIdx i).filterMap fun x =>
      if kept [x.2] then
        some (x.1.copied (fun p => kept (x.2 :: p)) (fun p => flags (x.2 :: p)))
      else none := by
  induction ts generalizing i with
  | nil => rfl
  | cons t ts ih =>
    rw [copiedFrom, ih, List.zipIdx_cons, List.filterMap_cons]
    by_cases h : kept [i] = true
    · simp only [h, if_true]
    · simp only [h, Bool.false_eq_true, if_false]

theorem copiedFrom_cons_of_kept {kept flags : List Nat → Bool} {i : Nat} {t : Tree α}
    {ts : List (Tree α)} (h : kept [i] = true) :
    copiedFrom kept flags i (t :: ts) =
      t.copied (fun p => kept (i :: p)) (fun p => flags (i :: p)) ::
        copiedFrom kept flags (i + 1) ts := by
  rw [copiedFrom, if_pos h]

theorem copiedFrom_cons_of_not_kept {kept flags : List Nat → Bool} {i : Nat} {t : Tree α}
    {ts : List (Tree α)} (h : kept [i] = false) :
    copiedFrom kept flags i (t :: ts) = copiedFrom kept flags (i + 1) ts := by
  rw [copiedFrom, h, if_neg Bool.false_ne_true]

theorem mem_copiedFrom {kept flags : List Nat → Bool} {i : Nat} {ts : List (Tree α)} {x : Tree α} :
    x ∈ copiedFrom kept flags i ts ↔ ∃ k t, ts[k]? = some t ∧ kept [i + k] = true ∧
      x = t.copied (fun p => kept ((i + k) :: p)) fun p => flags ((i + k) :: p) := by
  rw [copiedFrom_eq, List.mem_filterMap]
  constructor
  · rintro ⟨⟨t, j⟩, hmem, hx⟩
    obtain ⟨hle, hget⟩ := List.mk_mem_zipIdx_iff_le_and_getElem?_sub.1 hmem
    obtain ⟨k, rfl⟩ := Nat.exists_eq_add_of_le hle
    rw [Nat.add_sub_cancel_left] at hget
    obtain ⟨hk, hx⟩ := Option.ite_none_right_eq_some.1 hx
    exact ⟨k, t, hget, hk, (Option.some.inj hx).symm⟩
  · rintro ⟨k, t, hget, hk, rfl⟩
    exact ⟨(t, i + k), List.mk_add_mem_zipIdx_iff_getElem?.2 hget, if_pos hk⟩

theorem content_copied (kept flags : List Nat → Bool) (t : Tree α) :
    (t.copied kept flags).content = t.content := by
  cases t
  rw [copied]
  rfl

theorem expanded_copied (kept flags : List Nat → Bool) (t : Tree α) :
    (t.copied kept flags).expanded = flags [] := by
  cases t
  rw [copied]
  rfl

theorem walksFrom_eq (depth : Nat) (ts : List (Tree α)) :
    walksFrom depth ts = ts.flatMap (walkFrom depth) := by
  induction ts with
  | nil => rfl
  | cons t ts ih => rw [walksFrom, ih, List.flatMap_cons]

theorem map_walkFrom (t : Tree α) (depth : Nat) :
    (t.walkFrom depth).map (fun x => x.2.1) = t.contents := by
  -- The depth is told apart from the content, so it may start anywhere.
  have hfree : ∀ (t : Tree α) (d d' : Nat),
      (t.walkFrom d).map (fun x => x.2.1) = (t.walkFrom d').map fun x => x.2.1 := by
    intro t
    induction t using childInduction with
    | node c e ts ih =>
      intro d d'
      simp only [walkFrom, walksFrom_eq, List.map_cons, List.map_flatMap]
      exact congrArg (c :: ·) (List.flatMap_congr fun child hchild => ih child hchild _ _)
  exact hfree t depth 0

theorem contents_node (c : α) (e : Bool) (ts : List (Tree α)) :
    (node c e ts).contents = c :: ts.flatMap contents := by
  rw [contents, walk, walkFrom, walksFrom_eq, List.map_cons, List.map_flatMap]
  refine congrArg (c :: ·) (List.flatMap_congr fun child _ => ?_)
  exact map_walkFrom child _

/-- What a tree holds stands at the places of its nodes. -/
theorem mem_contents {t : Tree α} {a : α} :
    a ∈ t.contents ↔ ∃ p s, t.subtreeAt p = some s ∧ s.content = a := by
  induction t using childInduction with
  | node c e ts ih =>
    rw [contents_node, List.mem_cons, List.mem_flatMap]
    constructor
    · rintro (rfl | ⟨child, hchild, ha⟩)
      · exact ⟨[], _, rfl, rfl⟩
      · obtain ⟨i, hget⟩ := List.getElem?_of_mem hchild
        obtain ⟨p, s, hs, hcontent⟩ := (ih child hchild).1 ha
        refine ⟨i :: p, s, ?_, hcontent⟩
        rw [subtreeAt_cons, hget, Option.bind_some, hs]
    · rintro ⟨p, s, hs, hcontent⟩
      cases p with
      | nil =>
        cases hs
        exact .inl hcontent.symm
      | cons i p =>
        rw [subtreeAt_cons] at hs
        obtain ⟨child, hget, hs⟩ := Option.bind_eq_some_iff.1 hs
        have hchild := List.mem_of_getElem? hget
        exact .inr ⟨child, hchild, (ih child hchild).2 ⟨p, s, hs, hcontent⟩⟩

/-- The places of a tree are those that lead to a node. -/
theorem mem_places (t : Tree α) (p : List Nat) : p ∈ t.places ↔ (t.subtreeAt p).isSome = true := by
  induction t using childInduction generalizing p with
  | node c e ts ih =>
    rw [places, placesFrom_eq]
    cases p with
    | nil => exact ⟨fun _ => rfl, fun _ => List.mem_cons_self⟩
    | cons i p =>
      simp only [List.mem_cons, reduceCtorEq, false_or, List.mem_flatMap, List.mem_map,
        List.cons.injEq, subtreeAt_cons]
      constructor
      · rintro ⟨⟨child, j⟩, hchild, q, hq, rfl, rfl⟩
        have hget : ts[j]? = some child := List.mk_mem_zipIdx_iff_getElem?.1 hchild
        rw [hget]
        exact (ih child (List.mem_of_getElem? hget) q).1 hq
      · intro h
        cases hget : ts[i]? with
        | none => rw [hget] at h; cases h
        | some child =>
          rw [hget] at h
          have hq := (ih child (List.mem_of_getElem? hget) p).2 h
          exact ⟨(child, i), List.mk_mem_zipIdx_iff_getElem?.2 hget, p, hq, rfl, rfl⟩

theorem cons_mem_places {c : α} {e : Bool} {ts : List (Tree α)} {i : Nat} {child : Tree α}
    (hget : ts[i]? = some child) {p : List Nat} (hp : p ∈ child.places) :
    i :: p ∈ (node c e ts).places := by
  rw [mem_places, subtreeAt_cons, hget, Option.bind_some]
  exact (mem_places child p).1 hp

/-- Copies depend on what is kept in the tree and on the flags of what is copied. -/
theorem copied_congr {kept kept' flags flags' : List Nat → Bool} (t : Tree α)
    (hkept : ∀ p ∈ t.places, kept p = kept' p)
    (hflags : ∀ p ∈ t.places, isCopied kept p = true → flags p = flags' p) :
    t.copied kept flags = t.copied kept' flags' := by
  induction t using childInduction generalizing kept kept' flags flags' with
  | node c e ts ih =>
    have hnil : [] ∈ (node c e ts).places := (mem_places _ []).2 rfl
    rw [copied, copied, hflags [] hnil rfl, copiedFrom_eq, copiedFrom_eq]
    refine congrArg (node c (flags' [])) (List.filterMap_congr ?_)
    rintro ⟨child, i⟩ hx
    have hget : ts[i]? = some child := List.mk_mem_zipIdx_iff_getElem?.1 hx
    have hi : [i] ∈ (node c e ts).places := cons_mem_places hget ((mem_places child []).2 rfl)
    simp only [← hkept [i] hi]
    by_cases hk : kept [i] = true
    · rw [if_pos hk, if_pos hk]
      refine congrArg some (ih child (List.mem_of_getElem? hget) ?_ ?_)
      · intro p hp
        exact hkept (i :: p) (cons_mem_places hget hp)
      · intro p hp hcopied
        refine hflags (i :: p) (cons_mem_places hget hp) ?_
        rw [isCopied, hk, hcopied]
        rfl
    · rw [if_neg hk, if_neg hk]

/-- A place that is kept with all places on the way to it is copied, and no other one is. -/
theorem isCopied_iff (kept : List Nat → Bool) (p : List Nat) :
    isCopied kept p = true ↔ ∀ q, q ≠ [] → q <+: p → kept q = true := by
  induction p generalizing kept with
  | nil =>
    refine ⟨fun _ q hq hprefix => ?_, fun _ => rfl⟩
    exact absurd (List.prefix_nil.1 hprefix) hq
  | cons i p ih =>
    rw [isCopied, Bool.and_eq_true, ih]
    constructor
    · rintro ⟨hi, hrest⟩ q hq hprefix
      obtain ⟨j, q, rfl⟩ := List.exists_cons_of_ne_nil hq
      obtain ⟨rfl, htail⟩ := List.cons_prefix_cons.1 hprefix
      cases q with
      | nil => exact hi
      | cons k q => exact hrest (k :: q) (List.cons_ne_nil k q) htail
    · intro h
      refine ⟨h [i] (List.cons_ne_nil i []) (List.cons_prefix_cons.2 ⟨rfl, List.nil_prefix⟩), ?_⟩
      intro q _ hprefix
      exact h (i :: q) (List.cons_ne_nil i q) (List.cons_prefix_cons.2 ⟨rfl, hprefix⟩)

/-- Where every place on the way to a kept one is kept, the copied places are the root's and those that
    are kept. -/
theorem isCopied_of_closed {kept : List Nat → Bool}
    (h : ∀ p q, kept (p ++ q) = true → kept p = true) (p : List Nat) :
    isCopied kept p = true ↔ p = [] ∨ kept p = true := by
  rw [isCopied_iff]
  constructor
  · intro hall
    cases p with
    | nil => exact .inl rfl
    | cons i p => exact .inr (hall (i :: p) (List.cons_ne_nil i p) List.prefix_rfl)
  · rintro (rfl | hp) q hq hprefix
    · exact absurd (List.prefix_nil.1 hprefix) hq
    · obtain ⟨rest, rfl⟩ := hprefix
      exact h q rest hp

/-- A walk through copies meets the copied places in their old order, each with what the node there
    holds and the flag of the copy. -/
theorem walkFrom_copied (kept flags : List Nat → Bool) (t : Tree α) (depth : Nat) :
    (t.copied kept flags).walkFrom depth = (t.places.filter (isCopied kept)).filterMap fun p =>
      (t.subtreeAt p).map fun s => (depth + p.length, s.content, flags p) := by
  induction t using childInduction generalizing kept flags depth with
  | node c e ts ih =>
    have hroot : isCopied kept [] = true := rfl
    rw [copied, walkFrom, walksFrom_eq, copiedFrom_eq, places, placesFrom_eq,
      List.filter_cons_of_pos hroot, List.filterMap_cons, List.filterMap_eq_flatMap_toList,
      List.flatMap_assoc, List.filter_flatMap, List.filterMap_flatMap]
    refine congrArg ((depth, c, flags []) :: ·) (List.flatMap_congr ?_)
    rintro ⟨child, i⟩ hchild
    have hget : ts[i]? = some child := List.mk_mem_zipIdx_iff_getElem?.1 hchild
    rw [List.filter_map, List.filterMap_map]
    by_cases hk : kept [i] = true
    · have hcopied : isCopied kept ∘ (i :: ·) = isCopied fun p => kept (i :: p) := by
        funext p
        rw [Function.comp_apply, isCopied, hk, Bool.true_and]
      rw [if_pos hk, Option.toList_some, List.flatMap_singleton,
        ih child (List.mem_of_getElem? hget), hcopied]
      refine List.filterMap_congr fun p _ => ?_
      rw [Function.comp_apply, subtreeAt_cons, hget, Option.bind_some, List.length_cons]
      congr 1
      funext s
      rw [Nat.add_right_comm, Nat.add_assoc]
    · have hcopied : isCopied kept ∘ (i :: ·) = fun _ => false := by
        funext p
        rw [Function.comp_apply, isCopied, Bool.eq_false_iff.2 hk, Bool.false_and]
      rw [if_neg hk, hcopied, List.filter_false]
      rfl

end Stocktake.Tree
