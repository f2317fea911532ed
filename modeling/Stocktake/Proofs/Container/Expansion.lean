import Stocktake.Proofs.Container.Pruning
import Stocktake.Proofs.Record.Refresh

/-!
# Expansion flags of filtered trees

A tree that is filtered again takes over the flags of the view before.  Children are paired by what they
hold, and the first one that holds the same gives its flag: of two children that hold the same, the
second one shows the flag of the first.  So the flags of all views survive exactly where no node has two
such children.  Main statement: `filterTree_again`.
-/

namespace Stocktake

namespace Tree

variable {α : Type}

/-- The tree with other flags. -/
def withFlags (flags : List Nat → Bool) (t : Tree α) : Tree α := t.copied (fun _ => true) flags

/-- The tree with every node collapsed. -/
def allCollapsed (t : Tree α) : Tree α := t.withFlags fun _ => false

/-- No node has two children that hold the same. -/
def SiblingsDiffer (same : α → α → Bool) (t : Tree α) : Prop :=
  ∀ p s, t.subtreeAt p = some s → s.children.Pairwise fun a b => same a.content b.content = false

theorem siblingsDiffer_node (same : α → α → Bool) (c : α) (e : Bool) (ts : List (Tree α)) :
    SiblingsDiffer same (node c e ts) ↔
      (ts.Pairwise fun a b => same a.content b.content = false) ∧
        ∀ t ∈ ts, SiblingsDiffer same t := by
  constructor
  · intro h
    refine ⟨h [] _ rfl, ?_⟩
    intro t ht p s hs
    obtain ⟨i, hget⟩ := List.getElem?_of_mem ht
    refine h (i :: p) s ?_
    rw [subtreeAt_cons, hget, Option.bind_some, hs]
  · rintro ⟨hts, hall⟩ p s hs
    cases p with
    | nil =>
      cases hs
      exact hts
    | cons i p =>
      rw [subtreeAt_cons] at hs
      obtain ⟨t, hget, hs⟩ := Option.bind_eq_some_iff.1 hs
      exact hall t (List.mem_of_getElem? hget) p s hs

theorem copiedFrom_withFlags (ts : List (Tree α)) (i : Nat) :
    copiedFrom (fun _ => true) (fun _ => false) i ts = ts.map allCollapsed := by
  induction ts generalizing i with
  | nil => rfl
  | cons t ts ih =>
    rw [copiedFrom_cons_of_kept rfl, ih, List.map_cons]
    rfl

theorem allCollapsed_copied (kept flags : List Nat → Bool) (t : Tree α) :
    (t.copied kept flags).allCollapsed = t.copied kept fun _ => false := by
  induction t using childInduction generalizing kept flags with
  | node c e ts ih =>
    rw [copied, allCollapsed, withFlags, copied, copied, copiedFrom_withFlags, copiedFrom_eq,
      copiedFrom_eq, List.map_filterMap]
    refine congrArg (node c false) (List.filterMap_congr ?_)
    rintro ⟨child, i⟩ hx
    have hget : ts[i]? = some child := List.mk_mem_zipIdx_iff_getElem?.1 hx
    by_cases hk : kept [i] = true
    · rw [if_pos hk, if_pos hk, Option.map_some, ih child (List.mem_of_getElem? hget)]
    · rw [if_neg hk, if_neg hk, Option.map_none]

theorem copiedFrom_flags_congr {kept flags flags' : List Nat → Bool} {i : Nat} {ts : List (Tree α)}
    (h : ∀ j p, i ≤ j → flags (j :: p) = flags' (j :: p)) :
    copiedFrom kept flags i ts = copiedFrom kept flags' i ts := by
  induction ts generalizing i with
  | nil => rfl
  | cons t ts ih =>
    have hhead : (fun p => flags (i :: p)) = fun p => flags' (i :: p) := by
      funext p
      exact h i p (Nat.le_refl i)
    rw [copiedFrom, copiedFrom, hhead, ih fun j p hj => h j p (Nat.le_of_succ_le hj)]

theorem exists_flags_list {ts : List (Tree α)}
    (hall : ∀ t ∈ ts, ∀ (kept : List Nat → Bool) (v : Tree α),
      (v.allCollapsed = t.copied kept fun _ => false) → ∃ flags, v = t.copied kept flags)
    {kept : List Nat → Bool} {i : Nat} {vs : List (Tree α)}
    (h : vs.map allCollapsed = copiedFrom kept (fun _ => false) i ts) :
    ∃ flags, vs = copiedFrom kept flags i ts := by
  induction ts generalizing i vs with
  | nil => exact ⟨fun _ => false, List.map_eq_nil_iff.1 h⟩
  | cons t ts ih =>
    have hrest := @ih fun x hx => hall x (List.mem_cons_of_mem t hx)
    cases hk : kept [i] with
    | false =>
      rw [copiedFrom_cons_of_not_kept hk] at h
      obtain ⟨flags, rfl⟩ := hrest h
      exact ⟨flags, (copiedFrom_cons_of_not_kept hk).symm⟩
    | true =>
      rw [copiedFrom_cons_of_kept hk] at h
      obtain ⟨v, vs, rfl, hv, hvs⟩ := List.map_eq_cons_iff.1 h
      obtain ⟨here, rfl⟩ := hall t List.mem_cons_self _ v hv
      obtain ⟨later, rfl⟩ := hrest hvs
      -- The flags of the first child at its index, and those of the others beyond.
      refine ⟨fun p => if p.head? = some i then here p.tail else later p, ?_⟩
      rw [copiedFrom_cons_of_kept hk]
      congr 1
      · simp only [List.head?_cons, if_true, List.tail_cons]
      · refine copiedFrom_flags_congr fun j p hj => ?_
        have hne : (j :: p).head? ≠ some i := by
          rw [List.head?_cons]
          intro heq
          have := Option.some.inj heq
          omega
        rw [if_neg hne]

/-- Every tree that is like copies but for the flags has flags by places. -/
theorem exists_flags (t : Tree α) (kept : List Nat → Bool) (v : Tree α)
    (h : v.allCollapsed = t.copied kept fun _ => false) : ∃ flags, v = t.copied kept flags := by
  induction t using childInduction generalizing kept v with
  | node c e ts ih =>
    obtain ⟨c', e', vs⟩ := v
    rw [allCollapsed, withFlags, copied, copied, copiedFrom_withFlags] at h
    obtain ⟨rfl, -, hvs⟩ := node.inj h
    obtain ⟨flags, rfl⟩ := exists_flags_list ih hvs
    refine ⟨fun p => if p = [] then e' else flags p, ?_⟩
    rw [copied, if_pos rfl]
    refine congrArg (node c' e') (copiedFrom_flags_congr fun j p _ => ?_)
    rw [if_neg (List.cons_ne_nil j p)]

section Restored

variable {same : α → α → Bool}

/-- What holds something else is passed over. -/
theorem restoredList_cons_of_differ {old : Tree α} {before ts : List (Tree α)}
    (h : ∀ t ∈ ts, same old.content t.content = false) :
    restoredList same (old :: before) ts = restoredList same before ts := by
  induction ts with
  | nil => rfl
  | cons t ts ih =>
    rw [restoredList, restoredList, List.find?_cons, h t List.mem_cons_self,
      ih fun x hx => h x (List.mem_cons_of_mem t hx)]

theorem restoredList_cons_of_same {old t : Tree α} {before ts : List (Tree α)}
    (h : same old.content t.content = true) :
    restoredList same (old :: before) (t :: ts) =
      restored same old t :: restoredList same (old :: before) ts := by
  rw [restoredList, List.find?_cons, h]

theorem content_of_mem_copiedFrom {kept flags : List Nat → Bool} {i : Nat} {ts : List (Tree α)}
    {x : Tree α} (h : x ∈ copiedFrom kept flags i ts) : ∃ t ∈ ts, x.content = t.content := by
  obtain ⟨k, t, hget, -, rfl⟩ := mem_copiedFrom.1 h
  exact ⟨t, List.mem_of_getElem? hget, content_copied _ _ t⟩

/-- The copies `G` of a tree take over the flags of the copies `F`, and are collapsed where there is
    none. -/
def Restores (same : α → α → Bool) (t : Tree α) : Prop :=
  ∀ F G flags : List Nat → Bool,
    restored same (t.copied F flags) (t.copied G fun _ => false) =
      t.copied G fun p => isCopied F p && flags p

-- By induction on the children, of which those before the first one are passed over for the others;
-- `i` is the index of the first one.
theorem restoredList_copiedFrom (hrefl : ∀ a, same a a = true)
    (hsymm : ∀ a b, same a b = same b a) {ts : List (Tree α)}
    (hdiffer : ts.Pairwise fun a b => same a.content b.content = false)
    (hall : ∀ t ∈ ts, Restores same t) (F G flags : List Nat → Bool) (i : Nat) :
    restoredList same (copiedFrom F flags i ts) (copiedFrom G (fun _ => false) i ts) =
      copiedFrom G (fun p => isCopied F p && flags p) i ts := by
  induction ts generalizing i with
  | nil => rfl
  | cons t ts ih =>
    obtain ⟨ht, hts⟩ := List.pairwise_cons.1 hdiffer
    have hrest := ih hts (fun x hx => hall x (List.mem_cons_of_mem t hx)) (i + 1)
    have hothers : ∀ x ∈ copiedFrom G (fun _ => false) (i + 1) ts,
        same t.content x.content = false := by
      intro x hx
      obtain ⟨s, hs, hcontent⟩ := content_of_mem_copiedFrom hx
      rw [hcontent]
      exact ht s hs
    cases hF : F [i] with
    | true =>
      have hbelow : ∀ p, isCopied F (i :: p) = isCopied (fun q => F (i :: q)) p := by
        intro p
        rw [isCopied, hF, Bool.true_and]
      rw [copiedFrom_cons_of_kept hF]
      have hskip : restoredList same
          (t.copied (fun p => F (i :: p)) (fun p => flags (i :: p)) ::
            copiedFrom F flags (i + 1) ts) (copiedFrom G (fun _ => false) (i + 1) ts) =
          copiedFrom G (fun p => isCopied F p && flags p) (i + 1) ts := by
        rw [restoredList_cons_of_differ, hrest]
        rw [content_copied]
        exact hothers
      cases hG : G [i] with
      | true =>
        have hcontent : same (t.copied (fun p => F (i :: p)) fun p => flags (i :: p)).content
            (t.copied (fun p => G (i :: p)) fun _ => false).content = true := by
          rw [content_copied, content_copied]
          exact hrefl t.content
        rw [copiedFrom_cons_of_kept hG, copiedFrom_cons_of_kept hG,
          restoredList_cons_of_same hcontent, hskip, hall t List.mem_cons_self]
        simp only [hbelow]
      | false =>
        rw [copiedFrom_cons_of_not_kept hG, copiedFrom_cons_of_not_kept hG, hskip]
    | false =>
      rw [copiedFrom_cons_of_not_kept hF]
      cases hG : G [i] with
      | true =>
        have hnone : (copiedFrom F flags (i + 1) ts).find? (fun old =>
            same old.content (t.copied (fun p => G (i :: p)) fun _ => false).content) = none := by
          refine List.find?_eq_none.2 fun x hx => ?_
          obtain ⟨s, hs, hcontent⟩ := content_of_mem_copiedFrom hx
          rw [content_copied, hcontent, hsymm, ht s hs]
          exact Bool.false_ne_true
        rw [copiedFrom_cons_of_kept hG, copiedFrom_cons_of_kept hG, restoredList, hrest, hnone]
        simp only [isCopied, hF, Bool.false_and]
      | false =>
        rw [copiedFrom_cons_of_not_kept hG, copiedFrom_cons_of_not_kept hG, hrest]

/-- Where siblings differ, flags are taken over place by place. -/
theorem restores_of_siblingsDiffer (hrefl : ∀ a, same a a = true)
    (hsymm : ∀ a b, same a b = same b a) (t : Tree α) (h : SiblingsDiffer same t) :
    Restores same t := by
  induction t using childInduction with
  | node c e ts ih =>
    obtain ⟨hts, hbelow⟩ := (siblingsDiffer_node same c e ts).1 h
    intro F G flags
    have hall : ∀ t ∈ ts, Restores same t := fun t ht => ih t ht (hbelow t ht)
    rw [copied, copied, copied, restored]
    exact congrArg (node c (flags [])) (restoredList_copiedFrom hrefl hsymm hts hall F G flags 0)

theorem restoredList_eq (before ts : List (Tree α)) :
    restoredList same before ts = ts.map fun t =>
      match before.find? fun old => same old.content t.content with
      | some old => restored same old t
      | none => t := by
  induction ts with
  | nil => rfl
  | cons t ts ih => exact congrArg (List.cons _) ih

theorem expanded_restored (old t : Tree α) : (restored same old t).expanded = old.expanded := by
  cases t with
  | node c e ts => rfl

/-- A child that holds the same as the first one would show the flag of that. -/
theorem differ_of_restoredList (hrefl : ∀ a, same a a = true) {ts : List (Tree α)} {i : Nat}
    (h : ∀ flags, restoredList same (copiedFrom (fun _ => true) flags i ts)
      (copiedFrom (fun _ => true) (fun _ => false) i ts) = copiedFrom (fun _ => true) flags i ts) :
    (ts.Pairwise fun a b => same a.content b.content = false) ∧
      ∀ t ∈ ts, ∀ flags, restored same (t.withFlags flags) t.allCollapsed = t.withFlags flags := by
  induction ts generalizing i with
  | nil => exact ⟨.nil, nofun⟩
  | cons t ts ih =>
    have hsplit : ∀ flags : List Nat → Bool,
        restored same (t.withFlags fun p => flags (i :: p)) t.allCollapsed =
            (t.withFlags fun p => flags (i :: p)) ∧
          restoredList same
            ((t.withFlags fun p => flags (i :: p)) :: copiedFrom (fun _ => true) flags (i + 1) ts)
            (copiedFrom (fun _ => true) (fun _ => false) (i + 1) ts) =
          copiedFrom (fun _ => true) flags (i + 1) ts := by
      intro flags
      have hflags := h flags
      rw [copiedFrom_cons_of_kept rfl, copiedFrom_cons_of_kept rfl, restoredList_cons_of_same] at hflags
      · exact List.cons.inj hflags
      · rw [content_copied, content_copied]
        exact hrefl t.content
    have hdiffer : ∀ x ∈ ts, same t.content x.content = false := by
      intro x hx
      refine Bool.eq_false_iff.2 fun hsame => ?_
      -- Of all children only the first is collapsed, but `x` is paired with it.
      have htail := (hsplit fun p => p != [i]).2
      obtain ⟨k, hget⟩ := List.getElem?_of_mem hx
      have hx' : x.allCollapsed ∈ copiedFrom (fun _ => true) (fun _ => false) (i + 1) ts :=
        mem_copiedFrom.2 ⟨k, x, hget, rfl, rfl⟩
      rw [restoredList_eq] at htail
      have hout := htail ▸ List.mem_map_of_mem hx'
      rw [List.find?_cons_of_pos (by
        rw [withFlags, content_copied, allCollapsed, withFlags, content_copied]
        exact hsame)] at hout
      obtain ⟨m, s, -, -, heq⟩ := mem_copiedFrom.1 hout
      have hflag := congrArg expanded heq
      rw [expanded_restored, withFlags, expanded_copied, expanded_copied] at hflag
      have hne : [i + 1 + m] ≠ [i] := by
        intro hsingle
        have := List.head_eq_of_cons_eq hsingle
        omega
      rw [bne_self_eq_false, bne_iff_ne.2 hne] at hflag
      exact Bool.noConfusion hflag
    have hbelow := ih fun flags => by
      have hskip := (hsplit flags).2
      rw [restoredList_cons_of_differ] at hskip
      · exact hskip
      · intro x hx
        obtain ⟨s, hs, hcontent⟩ := content_of_mem_copiedFrom hx
        rw [withFlags, content_copied, hcontent]
        exact hdiffer s hs
    refine ⟨List.pairwise_cons.2 ⟨hdiffer, hbelow.1⟩, ?_⟩
    intro x hx flags
    rcases List.mem_cons.1 hx with rfl | hx
    · exact (hsplit fun p => flags p.tail).1
    · exact hbelow.2 x hx flags

/-- Where all flags survive, siblings differ. -/
theorem siblingsDiffer_of_restored (hrefl : ∀ a, same a a = true) (t : Tree α)
    (h : ∀ flags, restored same (t.withFlags flags) t.allCollapsed = t.withFlags flags) :
    SiblingsDiffer same t := by
  induction t using childInduction with
  | node c e ts ih =>
    have hlist : ∀ flags, restoredList same (copiedFrom (fun _ => true) flags 0 ts)
        (copiedFrom (fun _ => true) (fun _ => false) 0 ts) =
          copiedFrom (fun _ => true) flags 0 ts := by
      intro flags
      have hflags := h flags
      rw [withFlags, allCollapsed, withFlags, copied, copied, restored] at hflags
      exact (node.inj hflags).2.2
    obtain ⟨hts, hbelow⟩ := differ_of_restoredList hrefl hlist
    exact (siblingsDiffer_node same c e ts).2 ⟨hts, fun t ht => ih t ht (hbelow t ht)⟩

end Restored

end Tree

theorem sameReading_refl (cache : TagCache) (r : Record) : sameReading cache r r = true :=
  beq_self_eq_true (r.read cache)

theorem sameReading_comm (cache : TagCache) (r s : Record) :
    sameReading cache r s = sameReading cache s r := BEq.comm

theorem Filter.keeps_congr {cache cache' : TagCache} (h : ∀ id, cache.get id = cache'.get id)
    (store : Store) (f : Filter) : f.keeps store cache = f.keeps store cache' := by
  funext r
  rw [Filter.keeps, Filter.keeps, Record.read_congr h]

theorem sameReading_congr {cache cache' : TagCache} (h : ∀ id, cache.get id = cache'.get id) :
    sameReading cache = sameReading cache' := by
  funext r s
  rw [sameReading, sameReading, Record.read_congr h, Record.read_congr h]

/-- After a look at the tags, filtering again looks at the same tags, and takes over the flags of what
    stood at the root before. -/
theorem filterTree_some (store : Store) (cache : TagCache) (root : Tree Record) (f : Filter)
    {v : Tree Record} (hv : v.content = root.content) :
    let looked := Record.refreshAll store cache root.contents
    (filterTree store f (some v) looked root).1 = Tree.restored (sameReading looked) v
      (root.copied (root.anyAt (f.keeps store looked)) fun _ => false) := by
  intro looked
  have hgets := Record.get_refreshAll_refreshAll store cache root.contents
  have hkeeps : f.keeps store (Record.refreshAll store looked root.contents) = f.keeps store looked :=
    Filter.keeps_congr hgets store f
  have hsame : sameReading (Record.refreshAll store looked root.contents) = sameReading looked :=
    sameReading_congr hgets
  rw [filterTree_eq]
  simp only [hkeeps, hsame]
  refine if_pos ?_
  rw [hv, Tree.content_copied]
  exact sameReading_refl looked root.content

theorem copied_all (store : Store) (cache : TagCache) (root : Tree Record) (flags : List Nat → Bool) :
    root.copied (root.anyAt (Filter.all.keeps store cache)) flags = root.withFlags flags := by
  refine Tree.copied_congr root (fun p hp => ?_) (fun p _ _ => rfl)
  obtain ⟨s, hs⟩ := Option.isSome_iff_exists.1 ((Tree.mem_places root p).1 hp)
  refine (Tree.anyAt_iff _ root p).2 ⟨[], s, ?_, ?_⟩
  · rw [List.append_nil, hs]
  · rw [Filter.keeps, Filter.accepts]

theorem exists_flags_of_view {store : Store} {cache : TagCache} {root : Tree Record} {f : Filter}
    {v : Tree Record} (hv : v.allCollapsed = (filterTree store f none cache root).1) :
    ∃ flags, v =
      root.copied (root.anyAt (f.keeps store (Record.refreshAll store cache root.contents))) flags := by
  refine Tree.exists_flags root _ v ?_
  rw [hv, filterTree_eq]
  rfl

/-- Where the views of everything come back, siblings differ. -/
theorem siblingsDiffer_of_views {store : Store} {cache : TagCache} {root : Tree Record}
    (h : ∀ v, v.allCollapsed = (filterTree store .all none cache root).1 →
      (filterTree store .all (some v) (Record.refreshAll store cache root.contents) root).1 = v) :
    root.SiblingsDiffer (sameReading (Record.refreshAll store cache root.contents)) := by
  refine Tree.siblingsDiffer_of_restored (sameReading_refl _) root fun flags => ?_
  have hfirst : (filterTree store .all none cache root).1 = root.allCollapsed := by
    rw [filterTree_eq]
    exact copied_all store _ root _
  have hview : (root.withFlags flags).allCollapsed = (filterTree store .all none cache root).1 := by
    rw [hfirst]
    exact Tree.allCollapsed_copied _ _ root
  have hcontent : (root.withFlags flags).content = root.content := Tree.content_copied _ _ root
  have hback := h (root.withFlags flags) hview
  rw [filterTree_some store cache root .all hcontent, copied_all] at hback
  exact hback

/-- A view is the copies of what passes with flags by the places of the source, whatever the flags are.
    Filtering again gives every copy the flag of the copy before, and collapses a node that had none,
    for all filters and flags exactly if no node has two children with equal records; and so does the
    same filter give back the view. -/
theorem filterTree_again (store : Store) (cache : TagCache) (root : Tree Record) :
    let looked := Record.refreshAll store cache root.contents
    let kept := fun f : Filter => root.anyAt (f.keeps store looked)
    (∀ f v, v.allCollapsed = (filterTree store f none cache root).1 →
      ∃ flags, v = root.copied (kept f) flags) ∧
    ((∀ f g flags,
        (filterTree store g (some (root.copied (kept f) flags)) looked root).1 =
          root.copied (kept g) fun p => Tree.isCopied (kept f) p && flags p) ↔
      root.SiblingsDiffer (sameReading looked)) ∧
    ((∀ f v, v.allCollapsed = (filterTree store f none cache root).1 →
        (filterTree store f (some v) looked root).1 = v) ↔
      root.SiblingsDiffer (sameReading looked)) := by
  intro looked kept
  -- Differing siblings keep all flags; then views come back; and then siblings differ.
  have hlaw : root.SiblingsDiffer (sameReading looked) → ∀ f g flags,
      (filterTree store g (some (root.copied (kept f) flags)) looked root).1 =
        root.copied (kept g) fun p => Tree.isCopied (kept f) p && flags p := by
    intro hdiffer f g flags
    rw [filterTree_some store cache root g (Tree.content_copied _ _ root)]
    exact Tree.restores_of_siblingsDiffer (sameReading_refl looked) (sameReading_comm looked) root
      hdiffer (kept f) (kept g) flags
  have hback : (∀ f g flags,
      (filterTree store g (some (root.copied (kept f) flags)) looked root).1 =
        root.copied (kept g) fun p => Tree.isCopied (kept f) p && flags p) →
      ∀ f v, v.allCollapsed = (filterTree store f none cache root).1 →
        (filterTree store f (some v) looked root).1 = v := by
    intro h f v hv
    obtain ⟨flags, rfl⟩ := exists_flags_of_view hv
    rw [h]
    refine Tree.copied_congr root (fun _ _ => rfl) fun p _ hp => ?_
    rw [hp, Bool.true_and]
  have hdiffer : (∀ f v, v.allCollapsed = (filterTree store f none cache root).1 →
      (filterTree store f (some v) looked root).1 = v) →
      root.SiblingsDiffer (sameReading looked) := fun h => siblingsDiffer_of_views (h .all)
  refine ⟨fun f v => exists_flags_of_view, ?_, ?_⟩
  · exact ⟨fun h => hdiffer (hback h), hlaw⟩
  · exact ⟨hdiffer, fun h => hback (hlaw h)⟩

/-- Two children of the same name, with different children of their own. -/
def twins : Tree Record :=
  .collapsed { id := 0, display := "home" } [
    .collapsed { id := 1, display := "notes" } [.leaf { id := 2, display := "old" }],
    .collapsed { id := 3, display := "notes" } [.leaf { id := 4, display := "new" }]]

/-- With the first of the twins expanded, filtering again by the same filter expands the second too. -/
theorem filterTree_twins :
    let v := twins.withFlags fun p => p == [0]
    let again := (filterTree {} .all (some v) {} twins).1
    v.allCollapsed = (filterTree {} .all none {} twins).1 ∧
      again = (twins.withFlags fun p => p == [0] || p == [1]) ∧ again.walk ≠ v.walk := by
  refine ⟨rfl, rfl, ?_⟩
  decide

end Stocktake
