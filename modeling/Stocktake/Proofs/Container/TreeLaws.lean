import Stocktake.Proofs.Container.Expansion

/-!
# Laws of tree views

The views of a tree under different filters copy nodes of the same source, so they can be compared by the
places that they copy.  A node stays for what stands below it, and for that reason combined filters do
not simply combine views: what passes two filters is in both views, but not all that is in both stays.
Main statement: `viewPlaces_laws`.
-/

namespace Stocktake

namespace Tree

variable {α : Type}

/-- What copies a tree depends on is what places are copied. -/
theorem copied_isCopied (kept flags : List Nat → Bool) (t : Tree α) :
    t.copied (isCopied kept) flags = t.copied kept flags := by
  induction t using childInduction generalizing kept flags with
  | node c e ts ih =>
    rw [copied, copied, copiedFrom_eq, copiedFrom_eq]
    refine congrArg (node c (flags [])) (List.filterMap_congr ?_)
    rintro ⟨child, i⟩ hx
    have hchild : child ∈ ts := List.mem_of_getElem? (List.mk_mem_zipIdx_iff_getElem?.1 hx)
    have hstep : ∀ p, isCopied kept (i :: p) = (kept [i] && isCopied (fun q => kept (i :: q)) p) :=
      fun _ => rfl
    by_cases hk : kept [i] = true
    · simp only [hk, Bool.true_and, isCopied, if_true]
      rw [ih child hchild]
    · simp only [hstep, hk, Bool.false_and, Bool.false_eq_true, if_false]

variable (wanted : α → Bool)

/-- Pruning again finds nothing to drop. -/
theorem pruned_pruned (t : Tree α) : (t.pruned wanted).pruned wanted = t.pruned wanted := by
  induction t using childInduction with
  | node c e ts ih =>
    have hall : ∀ x ∈ (ts.filter (anyNode wanted)).map (pruned wanted), x.anyNode wanted = true := by
      intro x hx
      obtain ⟨t, ht, rfl⟩ := List.mem_map.1 hx
      rw [anyNode_pruned]
      exact List.of_mem_filter ht
    rw [pruned, prunedList_eq, collapsed, pruned, prunedList_eq, List.filter_eq_self.2 hall,
      List.map_map]
    refine congrArg (node c false) (List.map_congr_left fun t ht => ?_)
    exact ih t (List.mem_of_mem_filter ht)

end Tree

/-- The places of a tree that its view under a filter copies, depth first. -/
def viewPlaces (store : Store) (f : Filter) (cache : TagCache) (root : Tree Record) : List (List Nat) :=
  let looked := Record.refreshAll store cache root.contents
  root.places.filter (Tree.isCopied (root.anyAt (f.keeps store looked)))

section Views

variable (store : Store) (cache : TagCache) (root : Tree Record)

/-- A view is known by the places that it copies. -/
theorem filterTree_eq_viewPlaces (f : Filter) :
    (filterTree store f none cache root).1 =
      root.copied (fun p => decide (p ∈ viewPlaces store f cache root)) fun _ => false := by
  have hplaces : ∀ p ∈ root.places, Tree.isCopied
      (root.anyAt (f.keeps store (Record.refreshAll store cache root.contents))) p =
        decide (p ∈ viewPlaces store f cache root) := by
    intro p hp
    rw [Bool.eq_iff_iff, decide_eq_true_eq, viewPlaces, List.mem_filter]
    exact ⟨fun h => ⟨hp, h⟩, fun h => h.2⟩
  rw [← Tree.copied_congr root hplaces fun _ _ _ => rfl, Tree.copied_isCopied, filterTree_eq]
  rfl

/-- A walk through a view meets the copied places in the order of the source. -/
theorem walk_filterTree (f : Filter) :
    (filterTree store f none cache root).1.walk = (viewPlaces store f cache root).filterMap fun p =>
      (root.subtreeAt p).map fun s => (p.length, s.content, false) := by
  have hwalk := Tree.walkFrom_copied
    (root.anyAt (f.keeps store (Record.refreshAll store cache root.contents))) (fun _ => false) root 0
  simp only [Nat.zero_add] at hwalk
  rw [filterTree_eq]
  exact hwalk

/-- The copied places are the root's and those at which or beyond which a record passes. -/
theorem mem_viewPlaces {f : Filter} {p : List Nat} :
    p ∈ viewPlaces store f cache root ↔ p ∈ root.places ∧
      (p = [] ∨ ∃ q s, root.subtreeAt (p ++ q) = some s ∧
        f.keeps store (Record.refreshAll store cache root.contents) s.content = true) := by
  rw [viewPlaces, List.mem_filter, Tree.isCopied_anyAt]

/-- The view of what passes more is the larger one, and has the smaller one's nodes in their order. -/
theorem viewPlaces_sublist {f g : Filter}
    (h : ∀ r ∈ root.contents, f.keeps store (Record.refreshAll store cache root.contents) r = true →
      g.keeps store (Record.refreshAll store cache root.contents) r = true) :
    (viewPlaces store f cache root).Sublist (viewPlaces store g cache root) := by
  refine List.monotone_filter_right root.places fun p hp => ?_
  rw [Tree.isCopied_anyAt] at hp ⊢
  refine hp.imp_right ?_
  rintro ⟨q, s, hs, hkeeps⟩
  exact ⟨q, s, hs, h s.content (Tree.mem_contents.2 ⟨p ++ q, s, hs, rfl⟩) hkeeps⟩

theorem mem_viewPlaces_or (f g : Filter) (p : List Nat) :
    p ∈ viewPlaces store (.or [f, g]) cache root ↔
      p ∈ viewPlaces store f cache root ∨ p ∈ viewPlaces store g cache root := by
  simp only [mem_viewPlaces, Filter.keeps_or, List.any_cons, List.any_nil, Bool.or_false,
    Bool.or_eq_true]
  constructor
  · rintro ⟨hp, hroot | ⟨q, s, hs, hf | hg⟩⟩
    · exact .inl ⟨hp, .inl hroot⟩
    · exact .inl ⟨hp, .inr ⟨q, s, hs, hf⟩⟩
    · exact .inr ⟨hp, .inr ⟨q, s, hs, hg⟩⟩
  · rintro (⟨hp, hroot | ⟨q, s, hs, hf⟩⟩ | ⟨hp, hroot | ⟨q, s, hs, hg⟩⟩)
    · exact ⟨hp, .inl hroot⟩
    · exact ⟨hp, .inr ⟨q, s, hs, .inl hf⟩⟩
    · exact ⟨hp, .inl hroot⟩
    · exact ⟨hp, .inr ⟨q, s, hs, .inr hg⟩⟩

/-- What passes both filters stands in both views. -/
theorem mem_viewPlaces_of_and {f g : Filter} {p : List Nat}
    (hp : p ∈ viewPlaces store (.and [f, g]) cache root) :
    p ∈ viewPlaces store f cache root ∧ p ∈ viewPlaces store g cache root := by
  have hboth : ∀ h ∈ [f, g], p ∈ viewPlaces store h cache root := by
    intro h hmem
    refine (viewPlaces_sublist store cache root fun r _ hkeeps => ?_).subset hp
    rw [Filter.keeps_and, List.all_eq_true] at hkeeps
    exact hkeeps h hmem
  exact ⟨hboth f (by simp), hboth g (by simp)⟩

/-- A record passes a filter or its negation. -/
theorem mem_viewPlaces_or_not (f : Filter) {p : List Nat} (hp : p ∈ root.places) :
    p ∈ viewPlaces store f cache root ∨ p ∈ viewPlaces store (.not [f]) cache root := by
  obtain ⟨s, hs⟩ := Option.isSome_iff_exists.1 ((Tree.mem_places root p).1 hp)
  rw [← List.append_nil p] at hs
  simp only [mem_viewPlaces, Filter.keeps_not_cons]
  cases hkeeps : f.keeps store (Record.refreshAll store cache root.contents) s.content with
  | true => exact .inl ⟨hp, .inr ⟨[], s, hs, hkeeps⟩⟩
  | false => exact .inr ⟨hp, .inr ⟨[], s, hs, by rw [hkeeps, Bool.not_false]⟩⟩

variable {root}

/-- After a look at the tags of a tree its view under a filter passes the filter as a whole. -/
theorem filterTree_filterTree (hcoherent : Record.Coherent root.contents) (f : Filter) :
    let view := filterTree store f none cache root
    (filterTree store f none view.2 view.1).1 = view.1 := by
  intro view
  have hgets := hcoherent.get_refreshAll_refreshAll_of_subset
    (Tree.contents_pruned_subset (f.keeps store view.2) root) store cache
  have hkeeps : f.keeps store (Record.refreshAll store view.2 view.1.contents) = f.keeps store view.2 :=
    Filter.keeps_congr hgets store f
  have hagain : (filterTree store f none view.2 view.1).1 =
      view.1.pruned (f.keeps store (Record.refreshAll store view.2 view.1.contents)) := rfl
  rw [hagain, hkeeps]
  exact Tree.pruned_pruned _ root

end Views

/-- A view under a filter copies nodes of the source, each with its record, in their order.  Filtered again
    by the same filter it stays as it is.  A filter that passes more copies more; the view under a
    disjunction has the nodes of both views and no others; that under a conjunction has only nodes that
    are in both; and every node is in the view under a filter or in the view under its negation, the root
    in both.  In the tree a number stands for one record, as it does where the records have been handed
    out. -/
theorem viewPlaces_laws (store : Store) (cache : TagCache) {root : Tree Record}
    (hcoherent : Record.Coherent root.contents) :
    let looked := Record.refreshAll store cache root.contents
    let view := fun f => filterTree store f none cache root
    let places := fun f => viewPlaces store f cache root
    (∀ f, (view f).1 = root.copied (fun p => p ∈ places f) (fun _ => false) ∧
      (view f).1.walk = (places f).filterMap fun p =>
        (root.subtreeAt p).map fun s => (p.length, s.content, false)) ∧
    (∀ f, (filterTree store f none (view f).2 (view f).1).1 = (view f).1) ∧
    (∀ f g, (∀ r ∈ root.contents, f.keeps store looked r = true → g.keeps store looked r = true) →
      (places f).Sublist (places g)) ∧
    (∀ f g p, p ∈ places (.or [f, g]) ↔ p ∈ places f ∨ p ∈ places g) ∧
    (∀ f g p, p ∈ places (.and [f, g]) → p ∈ places f ∧ p ∈ places g) ∧
    ∀ f, ∀ p ∈ root.places, p ∈ places f ∨ p ∈ places (.not [f]) := by
  intro looked view places
  refine ⟨?_, filterTree_filterTree store cache hcoherent, ?_, mem_viewPlaces_or store cache root, ?_, ?_⟩
  · intro f
    exact ⟨filterTree_eq_viewPlaces store cache root f, walk_filterTree store cache root f⟩
  · intro f g
    exact viewPlaces_sublist store cache root
  · intro f g p
    exact mem_viewPlaces_of_and store cache root
  · intro f p
    exact mem_viewPlaces_or_not store cache root f

/-- A drawer stands in the views of what is old and of what is kept; as a whole it is neither. -/
theorem viewPlaces_laws_drawer :
    let root : Tree Record := .collapsed { id := 0, display := "desk" } [
      .collapsed { id := 1, display := "drawer" } [
        .leaf { id := 2, display := "pen" }, .leaf { id := 3, display := "ink" }],
      .leaf { id := 4, display := "lamp" }]
    let cache : TagCache := ⟨#[[], [], [⟨"old", ""⟩], [⟨"kept", ""⟩], []]⟩
    let places := fun f => viewPlaces {} f cache root
    let view := filterTree {} (.tag "old") none cache root
    Record.Coherent root.contents ∧
      places (.tag "old") = [[], [0], [0, 0]] ∧ places (.tag "kept") = [[], [0], [0, 1]] ∧
      [0, 1] ∈ places (.or [.tag "old", .tag "kept"]) ∧
      places (.and [.tag "old", .tag "kept"]) = [[]] ∧
      (filterTree {} (.tag "old") none view.2 view.1).1 = view.1 := by
  intro root cache places view
  have hcoherent : Record.Coherent root.contents := by
    unfold Record.Coherent
    decide
  obtain ⟨-, hagain, -, hor, -⟩ := viewPlaces_laws {} cache hcoherent
  have hold : places (.tag "old") = [[], [0], [0, 0]] := by decide
  have hkept : places (.tag "kept") = [[], [0], [0, 1]] := by decide
  have hink : [0, 1] ∈ places (.tag "kept") := by
    rw [hkept]
    decide
  exact ⟨hcoherent, hold, hkept, (hor _ _ [0, 1]).2 (.inr hink), by decide, hagain _⟩

end Stocktake
