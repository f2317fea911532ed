import Mathlib
import Stocktake.Container.Input
import Stocktake.Proofs.Container.Pruning
import Stocktake.Proofs.Record.Issue

/-!
# The shapes of one input

Records that are read from a text can be a list, a table or a tree.  The tree holds what the list holds,
depth first, below a root of its own if the text holds an array; and its views show, of what passes a
filter, what the views of the list and of the table show.  Main statement: `readContainer_shapes`.
-/

namespace Stocktake

namespace Tree

variable {α : Type} (wanted : α → Bool)

theorem contents_eq_cons (t : Tree α) : t.contents = t.content :: t.contents.tail := by
  obtain ⟨c, e, ts⟩ := t
  rw [contents_node]
  rfl

/-- The root comes first, whether it is wanted or not, and below it nothing wanted is lost. -/
theorem contents_pruned_eq_cons (t : Tree α) : ∃ below, (t.pruned wanted).contents = t.content :: below ∧
    below.filter wanted = t.contents.tail.filter wanted := by
  obtain ⟨c, e, ts⟩ := t
  refine ⟨_, contents_pruned wanted c e ts, ?_⟩
  have hall := filter_contents_pruned wanted (node c e ts)
  rw [contents_pruned, contents_node, List.filter_cons, List.filter_cons] at hall
  rw [contents_node, List.tail_cons]
  by_cases hc : wanted c = true
  · rw [if_pos hc, if_pos hc] at hall
    exact (List.cons.inj hall).2
  · rw [if_neg hc, if_neg hc] at hall
    exact hall

end Tree

-- Along the recursion of `issueTree`, which hands out a node before those below it.
mutual

/-- The drafts of a tree get the numbers that they get as a list, depth first. -/
theorem contents_issueTree (cache : TagCache) : ∀ t : Tree Draft,
    ((issueTree cache (t.map .inl)).1.contents, (issueTree cache (t.map .inl)).2) =
      Draft.issueAll cache t.contents
  | .node d e ts => by
    rw [Tree.contents_node, Draft.issueAll_cons, ← contents_issueTrees _ ts, Tree.map, issueTree]
    exact congrArg (·, _) (Tree.contents_node _ _ _)

theorem contents_issueTrees (cache : TagCache) : ∀ ts : List (Tree Draft),
    ((issueTrees cache (Tree.mapList .inl ts)).1.flatMap Tree.contents,
        (issueTrees cache (Tree.mapList .inl ts)).2) =
      Draft.issueAll cache (ts.flatMap Tree.contents)
  | [] => rfl
  | t :: ts => by
    rw [List.flatMap_cons, Draft.issueAll_append, ← contents_issueTree cache t,
      ← contents_issueTrees _ ts, Tree.mapList, issueTrees]
    rfl

end

namespace RecordInput

mutual

theorem contents_tree : ∀ r : RecordInput, r.tree.contents = r.flat
  | .record display uri fields tags children => by
    rw [tree, flat, Tree.collapsed, Tree.contents_node, contents_trees children]

theorem contents_trees : ∀ rs : List RecordInput,
    (trees rs).flatMap Tree.contents = flatList rs
  | [] => rfl
  | r :: rs => by rw [trees, flatList, List.flatMap_cons, contents_tree r, contents_trees rs]

end

end RecordInput

namespace RecordFile

/-- What stands above the records of a file in their tree. -/
def above : RecordFile → List Draft
  | .many _ => [{ display := arrayRoot }]
  | .one _ => []

theorem contents_tree (file : RecordFile) : file.tree.contents = file.above ++ file.drafts := by
  cases file with
  | many records =>
    rw [tree, Tree.collapsed, Tree.contents_node, RecordInput.contents_trees]
    rfl
  | one record => rw [tree, RecordInput.contents_tree]; rfl

end RecordFile

/-- What is seen of a container under a filter. -/
def shown (store : Store) (f : Filter) (c : Container × TagCache) : List Reading :=
  let view := c.1.filtered store f c.2
  view.1.records.map (Record.read view.2)

section Shown

variable (store : Store) (f : Filter) (cache : TagCache)

theorem map_read_filter (rs : List Record) :
    (rs.filter (f.keeps store cache)).map (Record.read cache) =
      (rs.map (Record.read cache)).filter (f.accepts store) := by
  rw [List.filter_map]
  rfl

theorem shown_table (t : Table) :
    shown store f (.table t, cache) = shown store f (.list t.records, cache) := rfl

/-- A list of drafts shows those that pass, with the tags told of them. -/
theorem shown_list (ds : List Draft) :
    shown store f (.list (Draft.issueAll cache ds).1, (Draft.issueAll cache ds).2) =
      (ds.map (Draft.freshRead store)).filter (f.accepts store) := by
  rw [shown, Container.filtered, filterRecords, ← Draft.read_refreshAll_issueAll store cache ds]
  exact map_read_filter store f _ _

/-- After a look at the store the tree of drafts reads like the drafts one by one. -/
theorem read_refreshAll_issueTree (t : Tree Draft) :
    let issued := issueTree cache (t.map .inl)
    issued.1.contents.map (Record.read (Record.refreshAll store issued.2 issued.1.contents)) =
      t.contents.map (Draft.freshRead store) := by
  have hread := Draft.read_refreshAll_issueAll store cache t.contents
  rw [← contents_issueTree cache t] at hread
  exact hread

/-- A tree of drafts shows the root and, among others, those below it that pass. -/
theorem shown_tree (t : Tree Draft) :
    ∃ below, shown store f (.tree (issueTree cache (t.map .inl)).1, (issueTree cache (t.map .inl)).2) =
        t.content.freshRead store :: below ∧
      below.filter (f.accepts store) =
        (t.contents.tail.map (Draft.freshRead store)).filter (f.accepts store) := by
  have hread := read_refreshAll_issueTree store cache t
  generalize issueTree cache (t.map .inl) = issued at hread ⊢
  obtain ⟨root, tags⟩ := issued
  simp only at hread
  obtain ⟨below, hview, hbelow⟩ := Tree.contents_pruned_eq_cons
    (f.keeps store (Record.refreshAll store tags root.contents)) root
  -- The lists have the roots as their heads, and what is read is the same of heads and of tails.
  have hcons := congrArg (List.map (Record.read (Record.refreshAll store tags root.contents)))
    root.contents_eq_cons
  rw [hread, t.contents_eq_cons, List.map_cons, List.map_cons] at hcons
  obtain ⟨hhead, htail⟩ := List.cons.inj hcons
  refine ⟨below.map (Record.read (Record.refreshAll store tags root.contents)), ?_, ?_⟩
  · rw [hhead, ← List.map_cons, ← hview]
    rfl
  · rw [← map_read_filter, hbelow, map_read_filter, ← htail]

/-- A file shows as a tree what stands above its records and, among others, those that pass. -/
theorem shown_container_tree (file : RecordFile) :
    ∃ own, shown store f (file.container cache .tree) = file.above.map Draft.read ++ own ∧
      own.filter (f.accepts store) =
        (file.drafts.map (Draft.freshRead store)).filter (f.accepts store) := by
  obtain ⟨below, htree, hbelow⟩ := shown_tree store f cache file.tree
  have hcontents := file.contents_tree
  cases file with
  | many records =>
    rw [hcontents] at hbelow
    exact ⟨below, htree, hbelow⟩
  | one record =>
    refine ⟨_, htree, ?_⟩
    have hdrafts : RecordInput.flat record = record.tree.content :: record.tree.contents.tail := by
      rw [← RecordInput.contents_tree]
      exact record.tree.contents_eq_cons
    rw [List.filter_cons, hbelow, RecordFile.drafts, hdrafts, List.map_cons, List.filter_cons]
    rfl

end Shown

/-- A text is taken in every shape or in none, with the same error.  As a tree it shows, below the root
    above an array, what it shows as a list or as a table, and possibly others that do not pass; and as
    it is read the tree holds, depth first, what the list and the table hold. -/
theorem readContainer_shapes (store : Store) (f : Filter) (cache : TagCache) (text : String) :
    (∀ shape e, readContainer cache text shape = .error e ↔ RecordFile.read text = .error e) ∧
    ∀ file, RecordFile.read text = .ok file → ∃ list table tree,
      readContainer cache text .list = .ok list ∧ readContainer cache text .table = .ok table ∧
      readContainer cache text .tree = .ok tree ∧
      (∃ own, shown store f tree = file.above.map Draft.read ++ own ∧
        shown store f list = own.filter (f.accepts store) ∧
        shown store f table = own.filter (f.accepts store)) ∧
      tree.1.records.map (Record.read tree.2) =
        file.above.map Draft.read ++ list.1.records.map (Record.read list.2) ∧
      table.1.records.map (Record.read table.2) = list.1.records.map (Record.read list.2) := by
  constructor
  · intro shape e
    rw [readContainer]
    cases RecordFile.read text with
    | error e' => simp only [Except.map, Except.error.injEq]
    | ok file => exact ⟨nofun, nofun⟩
  · intro file hfile
    have hread : ∀ shape, readContainer cache text shape = .ok (file.container cache shape) := by
      intro shape
      rw [readContainer, hfile]
      rfl
    refine ⟨_, _, _, hread .list, hread .table, hread .tree, ?_, ?_, rfl⟩
    · obtain ⟨own, htree, hown⟩ := shown_container_tree store f cache file
      have hlist := shown_list store f cache file.drafts
      rw [← hown] at hlist
      exact ⟨own, htree, hlist, (shown_table store f _ _).trans hlist⟩
    · have hlist := Draft.read_issueAll cache file.drafts
      have htree := Draft.read_issueAll cache file.tree.contents
      rw [← contents_issueTree cache file.tree, file.contents_tree, List.map_append, ← hlist] at htree
      exact htree

/-- What passes shows from below a record that does not. -/
theorem readContainer_shapes_box :
    let text := "[[\"box\", null, \x7b\x7d, [], [[\"pen\"]]]]"
    let f : Filter := .name "pen"
    let pen : Reading := { display := "pen" }
    ∃ list table tree, readContainer {} text .list = .ok list ∧
      readContainer {} text .table = .ok table ∧ readContainer {} text .tree = .ok tree ∧
      (∃ own, shown {} f tree = { display := "records" } :: own ∧
        own.filter (f.accepts {}) = [pen]) ∧
      shown {} f list = [pen] ∧ shown {} f table = [pen] := by
  intro text f pen
  have hfile : RecordFile.read text = .ok (.many [.record "box" none .empty []
      [.record "pen" none .empty [] []]]) := by cbv
  obtain ⟨list, table, tree, hlist, htable, htree, ⟨own, hown, hlisted, hrows⟩, -⟩ :=
    (readContainer_shapes {} f {} text).2 _ hfile
  have hpen : shown {} f list = [pen] := by
    rw [readContainer, hfile] at hlist
    cases hlist
    cbv
  rw [hpen] at hlisted
  refine ⟨list, table, tree, hlist, htable, htree, ⟨own, hown, hlisted.symm⟩, hpen, ?_⟩
  rw [hrows, ← hlisted]

end Stocktake
