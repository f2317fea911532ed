import Stocktake.Module.Filesystem
import Stocktake.Proofs.Container.Addresses
import Stocktake.Proofs.Module.PathTrees
import Stocktake.Proofs.Module.RowRecords
import Stocktake.Proofs.Record.Issue
import Stocktake.Proofs.Text.Segments
import Mathlib.Data.Option.Basic

/-!
# Views on paths

The rows that bind a path make records in the order of their paths, and the same records stand in a tree by
the parts of their paths.  There each is called by the last part, which is the name that the tree has for the
node, so that the names on the way to a record are the parts of its path, whatever slashes stand between them.
Main statements: `Labelled.nodeAt_root` and `Labelled.mem_addressed`, by which the places that the names tell
are those of the entries, `showsPaths_draftTree`, and `pathView_shapes`.
-/

namespace Stocktake

section Issue

variable {α : Type} {told : Record → α} {toldOf : Draft → α}

-- Along the recursion of `issueTree`.
mutual

/-- What can be told of the records of a tree of drafts, if it can be told of the drafts one by one. -/
theorem map_issueTree (h : ∀ d id, told (d.numbered id) = toldOf d) (cache : TagCache) :
    ∀ t : Tree Draft, (issueTree cache (t.map .inl)).1.map told = t.map toldOf
  | .node d e ts => by
    rw [Tree.map, issueTree, Tree.map, Tree.map, ← map_issueTrees h _ ts]
    exact congrArg (Tree.node · e _) (h d _)

theorem map_issueTrees (h : ∀ d id, told (d.numbered id) = toldOf d) (cache : TagCache) :
    ∀ ts : List (Tree Draft),
      Tree.mapList told (issueTrees cache (Tree.mapList .inl ts)).1 = Tree.mapList toldOf ts
  | [] => rfl
  | t :: ts => by
    rw [Tree.mapList, issueTrees, Tree.mapList, Tree.mapList, map_issueTree h cache t,
      map_issueTrees h _ ts]

end

end Issue

namespace Filesystem

section Places

variable {α β : Type}

/-- What the nodes of a tree of paths hold, with the places that their names tell: the parts of what the root
    is called, and then the names on the way to the node. -/
def placed (name : α → String) (t : Tree α) : List (List String × α) :=
  (t.addressed name).map fun x => (Text.segments (name t.content) ++ x.1, x.2)

/-- Every node of the tree has a place. -/
theorem map_snd_placed (name : α → String) (t : Tree α) : (placed name t).map Prod.snd = t.contents := by
  rw [placed, List.map_map, ← Tree.map_snd_addressed name]
  rfl

/-- What is made of the contents stands at the places of the contents. -/
theorem placed_map (name : β → String) (f : α → β) (t : Tree α) :
    placed name (t.map f) = (placed (name ∘ f) t).map fun x => (x.1, f x.2) := by
  rw [placed, placed, Tree.addressed_map, Tree.content_map, List.map_map, List.map_map]
  rfl

end Places

section Nodes

variable {α : Type} (name : α → String) (plain : String → α) (root : String)
  (entries : List (String × α))

/-- What entries and plain nodes are called fits their places: it is the last part of the path, or the path
    itself if it has no parts, which the name of the root has not either. -/
structure Labelled : Prop where
  called_plain : ∀ x, name (plain x) = x
  called_entry : ∀ e ∈ entries, name e.2 = baseName e.1
  root_blank : Text.segments root = []

variable {name plain root entries} {path : List String} {t : Tree α}

/-- A node holds an entry with its path, or it is plain and there is none. -/
theorem content_cases_of_nodeAt (ht : nodeAt plain root entries path = some t) :
    (∃ e ∈ entries, Text.segments e.1 = path ∧ t.content = e.2) ∨
      path ∉ entries.map (fun e => Text.segments e.1) ∧ t.content = plain (path.getLastD root) := by
  rw [content_of_nodeAt plain root entries ht]
  cases hfind : entries.reverse.find? fun e => Text.segments e.1 = path with
  | none =>
    refine .inr ⟨fun hmem => ?_, rfl⟩
    obtain ⟨e, he, hplace⟩ := List.mem_map.1 hmem
    exact List.find?_eq_none.1 hfind e (List.mem_reverse.2 he) (decide_eq_true hplace)
  | some e =>
    have hmem : e ∈ entries := List.mem_reverse.1 (List.mem_of_find?_eq_some hfind)
    exact .inl ⟨e, hmem, by simpa using List.find?_some hfind, rfl⟩

/-- A node is called by the last of the names that lead to it. -/
theorem Labelled.name_of_nodeAt (h : Labelled name plain root entries) {x : String}
    (ht : nodeAt plain root entries (path ++ [x]) = some t) : name t.content = x := by
  rcases content_cases_of_nodeAt ht with ⟨e, he, hplace, hcontent⟩ | ⟨-, hcontent⟩
  · rw [hcontent, h.called_entry e he, baseName, hplace, List.getLast?_concat, Option.getD_some]
  · rw [hcontent, h.called_plain, List.getLastD_concat]

/-- The node that no name leads to is not called by a part of a path. -/
theorem Labelled.segments_of_nodeAt_nil (h : Labelled name plain root entries)
    (ht : nodeAt plain root entries [] = some t) : Text.segments (name t.content) = [] := by
  rcases content_cases_of_nodeAt ht with ⟨e, he, hplace, hcontent⟩ | ⟨-, hcontent⟩
  · rw [hcontent, h.called_entry e he, baseName, hplace]
    exact hplace
  · rw [hcontent, h.called_plain]
    exact h.root_blank

/-- The children of a node are the nodes with one more name. -/
theorem mem_children_of_nodeAt {child : Tree α} (ht : nodeAt plain root entries path = some t) :
    child ∈ t.children ↔ ∃ x, nodeAt plain root entries (path ++ [x]) = some child := by
  obtain ⟨names, -, hnames, hchildren⟩ := children_of_nodeAt plain root entries ht
  rw [← List.mem_map_of_injective (Option.some_injective _), hchildren, List.mem_map]
  constructor
  · rintro ⟨x, -, hx⟩
    exact ⟨x, hx⟩
  · rintro ⟨x, hx⟩
    exact ⟨x, (hnames x).2 (by rw [hx]; rfl), hx⟩

/-- There is a node on the way to every node. -/
theorem isSome_nodeAt_of_append {below : List String}
    (h : (nodeAt plain root entries (path ++ below)).isSome) :
    (nodeAt plain root entries path).isSome := by
  rw [isSome_nodeAt] at h ⊢
  rcases h with hnil | ⟨e, he, hstart⟩
  · exact .inl (List.append_eq_nil_iff.1 hnil).1
  · exact .inr ⟨e, he, (List.prefix_append path below).trans hstart⟩

/-- What stands at an address below a node is what the names on the way lead to. -/
theorem Labelled.mem_addressed (h : Labelled name plain root entries)
    (ht : nodeAt plain root entries path = some t) (below : List String) (a : α) :
    (below, a) ∈ t.addressed name ↔
      ∃ s, nodeAt plain root entries (path ++ below) = some s ∧ s.content = a := by
  induction below generalizing path t with
  | nil =>
    rw [Tree.nil_mem_addressed, List.append_nil, ht]
    simp [eq_comm]
  | cons x below ih =>
    rw [Tree.cons_mem_addressed, List.append_cons]
    constructor
    · rintro ⟨child, hchild, hx, hbelow⟩
      obtain ⟨y, hy⟩ := (mem_children_of_nodeAt ht).1 hchild
      obtain rfl : y = x := (h.name_of_nodeAt hy).symm.trans hx
      exact (ih hy).1 hbelow
    · rintro ⟨s, hs, ha⟩
      have hsome := isSome_nodeAt_of_append (Option.isSome_iff_exists.2 ⟨s, hs⟩)
      obtain ⟨child, hchild⟩ := Option.isSome_iff_exists.1 hsome
      have hbelow := (ih hchild).2 ⟨s, hs, ha⟩
      exact ⟨child, (mem_children_of_nodeAt ht).2 ⟨x, hchild⟩, h.name_of_nodeAt hchild, hbelow⟩

/-- The names of the children are the increasing ones that lead to them. -/
theorem Labelled.nodup_children (h : Labelled name plain root entries)
    (ht : nodeAt plain root entries path = some t) :
    (t.children.map fun child => name child.content).Nodup := by
  obtain ⟨names, hsorted, hnames, hchildren⟩ := children_of_nodeAt plain root entries ht
  have hcalled := congrArg (List.map fun child => (child.map fun s => name s.content).getD "")
    hchildren
  rw [List.map_map, List.map_map] at hcalled
  have hself : ∀ x ∈ names,
      ((nodeAt plain root entries (path ++ [x])).map fun s => name s.content).getD "" = x := by
    intro x hx
    obtain ⟨s, hs⟩ := Option.isSome_iff_exists.1 ((hnames x).1 hx)
    rw [hs]
    exact h.name_of_nodeAt hs
  have hall := hcalled.trans ((List.map_congr_left hself).trans (List.map_id' names))
  exact hall ▸ nodup_of_increasing hsorted

theorem Labelled.nodup_addressed (h : Labelled name plain root entries)
    (ht : nodeAt plain root entries path = some t) : ((t.addressed name).map Prod.fst).Nodup := by
  induction t using Tree.childInduction generalizing path with
  | node c e ts ih =>
    refine Tree.nodup_addressed name (h.nodup_children ht) fun child hchild => ?_
    obtain ⟨x, hx⟩ := (mem_children_of_nodeAt ht).1 hchild
    exact ih child hchild hx

end Nodes

section Root

variable {α : Type} {name : α → String} {plain : String → α} {root : String}
  {entries : List (String × α)}

/-- Where one name leads to all entries, it is the first part of their paths. -/
theorem segments_of_sole {x : String} (hpaths : ∀ e ∈ entries, Text.segments e.1 ≠ [])
    (hx : ∀ y, (nodeAt plain root entries [y]).isSome ↔ y = x) :
    Text.segments x = [x] ∧ ∀ e ∈ entries, [x] <+: Text.segments e.1 := by
  constructor
  · rcases (isSome_nodeAt plain root entries [x]).1 ((hx x).2 rfl) with hnil | ⟨e, -, hstart⟩
    · cases hnil
    · exact Text.segments_of_mem_segments (List.IsPrefix.subset hstart List.mem_cons_self)
  · intro e he
    obtain ⟨y, rest, hy⟩ := List.exists_cons_of_ne_nil (hpaths e he)
    have hstart : [y] <+: Text.segments e.1 := ⟨rest, hy.symm⟩
    have hnode := (isSome_nodeAt plain root entries [y]).2 (.inr ⟨e, he, hstart⟩)
    rwa [(hx y).1 hnode] at hstart

/-- The tree of paths is the node at the parts of what its root is called, which all paths start with. -/
theorem Labelled.nodeAt_root (h : Labelled name plain root entries) :
    let top := Text.segments (name (pathTree plain root entries).content)
    nodeAt plain root entries top = some (pathTree plain root entries) ∧
      ∀ e ∈ entries, top <+: Text.segments e.1 := by
  intro top
  by_cases hsole : (∀ e ∈ entries, Text.segments e.1 ≠ []) ∧
      ∃ x, ∀ y, (nodeAt plain root entries [y]).isSome ↔ y = x
  · obtain ⟨hpaths, x, hx⟩ := hsole
    obtain ⟨hpart, hfirst⟩ := segments_of_sole hpaths hx
    have ht := pathTree_of_sole plain root entries hpaths hx
    have htop : top = [x] := by
      rw [← List.nil_append [x]] at ht
      exact (congrArg Text.segments (h.name_of_nodeAt ht)).trans hpart
    rw [htop]
    exact ⟨ht, hfirst⟩
  · have hroot : (∃ e ∈ entries, Text.segments e.1 = []) ∨
        ¬ ∃ x, ∀ y, (nodeAt plain root entries [y]).isSome ↔ y = x :=
      (not_and_or.1 hsole).imp_left fun hpaths => by simpa using hpaths
    have ht := pathTree_of_root plain root entries hroot
    have htop : top = [] := h.segments_of_nodeAt_nil ht
    rw [htop]
    exact ⟨ht, fun e _ => List.nil_prefix⟩

/-- Where no entry belongs the tree of paths has a plain node or none. -/
theorem Labelled.eq_plain_of_mem_placed (h : Labelled name plain root entries) {path : List String}
    {a : α} (ha : (path, a) ∈ placed name (pathTree plain root entries))
    (hpath : path ∉ entries.map fun e => Text.segments e.1) : a = plain (path.getLastD root) := by
  obtain ⟨⟨below, b⟩, hbelow, heq⟩ := List.mem_map.1 ha
  cases heq
  obtain ⟨s, hs, rfl⟩ := (h.mem_addressed h.nodeAt_root.1 below b).1 hbelow
  rcases content_cases_of_nodeAt hs with ⟨e, he, hplace, -⟩ | ⟨-, hcontent⟩
  · exact absurd (hplace ▸ List.mem_map_of_mem he) hpath
  · exact hcontent

/-- An entry is at the place of its path. -/
theorem Labelled.mem_placed (h : Labelled name plain root entries)
    (hplaces : (entries.map fun e => Text.segments e.1).Nodup) {e : String × α} (he : e ∈ entries) :
    (Text.segments e.1, e.2) ∈ placed name (pathTree plain root entries) := by
  obtain ⟨ht, hstart⟩ := h.nodeAt_root
  obtain ⟨below, hbelow⟩ := hstart e he
  obtain ⟨s, hs⟩ := Option.isSome_iff_exists.1 <|
    (isSome_nodeAt plain root entries (Text.segments e.1)).2 (.inr ⟨e, he, List.prefix_rfl⟩)
  have hcontent : s.content = e.2 := by
    rcases content_cases_of_nodeAt hs with ⟨e', he', hplace, hcontent⟩ | ⟨hnone, -⟩
    · rw [hcontent, List.inj_on_of_nodup_map hplaces he' he hplace]
    · exact absurd (List.mem_map_of_mem he) hnone
  rw [← hbelow] at hs ⊢
  exact List.mem_map.2 ⟨(below, e.2), (h.mem_addressed ht below e.2).2 ⟨s, hs, hcontent⟩, rfl⟩

theorem Labelled.nodup_placed (h : Labelled name plain root entries) :
    ((placed name (pathTree plain root entries)).map Prod.fst).Nodup := by
  have hbelow := (h.nodup_addressed h.nodeAt_root.1).map
    (List.append_right_injective (Text.segments (name (pathTree plain root entries).content)))
  rw [List.map_map] at hbelow
  rw [placed, List.map_map]
  exact hbelow

end Root

/-- The records of a list are the nodes of a tree of paths: each stands at the parts of its path, called by
    the last of them, no two nodes are at one place, and a node where no record belongs refers to nothing and
    has no fields. -/
structure ShowsPaths (rs : List Record) (root : Tree Record) : Prop where
  nodup : ((placed Record.display root).map Prod.fst).Nodup
  shown : ∀ r ∈ rs, ∃ n, (Text.segments r.display, n) ∈ placed Record.display root ∧
    n.display = ((Text.segments r.display).getLast?).getD r.display ∧
    n.reference = r.reference ∧ n.fields = r.fields
  others : ∀ path n, (path, n) ∈ placed Record.display root →
    path ∉ rs.map (fun r => Text.segments r.display) → n.reference = none ∧ n.fields = .empty

/-- The record of a row that binds a path: it is called by the path, refers to the resource, if the row binds
    one, and has the other variables as fields. -/
structure IsPathRecord (row : Row) (r : Record) : Prop where
  path : row.get? "path" = some r.display
  resource : (row.get? "resource").map (fun uri => { uri }) = r.reference
  fields : ∀ name, r.fields.get? name =
    if name = "path" ∨ name = "resource" then none else row.get? name

section Drafts

/-- What counts in a record, whichever container it is in. -/
def recordFacts (r : Record) : String × Option Reference × Dict String := (r.display, r.reference, r.fields)

/-- The same of a draft. -/
def draftFacts (d : Draft) : String × Option Reference × Dict String := (d.display, d.reference, d.fields)

variable {ds : List Draft}

theorem labelled_segmentDraft (ds : List Draft) :
    Labelled Draft.display plainDraft "/" (ds.map fun d => (d.display, segmentDraft d)) := by
  refine ⟨fun _ => rfl, fun e he => ?_, by decide +kernel⟩
  obtain ⟨d, -, rfl⟩ := List.mem_map.1 he
  rfl

/-- The places of the records of a tree are those of its drafts. -/
theorem placed_issueTree (cache : TagCache) (t : Tree Draft) :
    (placed Record.display (issueTree cache (t.map .inl)).1).map (fun x => (x.1, recordFacts x.2)) =
      (placed Draft.display t).map fun x => (x.1, draftFacts x.2) := by
  have hmap : (issueTree cache (t.map .inl)).1.map recordFacts = t.map draftFacts :=
    map_issueTree (fun _ _ => rfl) cache t
  have hsame := congrArg (placed Prod.fst) hmap
  rw [placed_map, placed_map] at hsame
  exact hsame

/-- At the place of a draft stands a record that tells the same, -/
theorem exists_record_of_mem_placed (cache : TagCache) {t : Tree Draft} {path : List String} {d : Draft}
    (h : (path, d) ∈ placed Draft.display t) :
    ∃ n, (path, n) ∈ placed Record.display (issueTree cache (t.map .inl)).1 ∧
      recordFacts n = draftFacts d := by
  have hfacts : (path, draftFacts d) ∈ (placed Draft.display t).map fun x => (x.1, draftFacts x.2) :=
    List.mem_map.2 ⟨(path, d), h, rfl⟩
  rw [← placed_issueTree cache] at hfacts
  obtain ⟨⟨path', n⟩, hn, heq⟩ := List.mem_map.1 hfacts
  obtain ⟨rfl, hsame⟩ := Prod.mk.inj heq
  exact ⟨n, hn, hsame⟩

/-- and at the place of a record such a draft. -/
theorem exists_draft_of_mem_placed {cache : TagCache} {t : Tree Draft} {path : List String} {n : Record}
    (h : (path, n) ∈ placed Record.display (issueTree cache (t.map .inl)).1) :
    ∃ d, (path, d) ∈ placed Draft.display t ∧ recordFacts n = draftFacts d := by
  have hfacts : (path, recordFacts n) ∈ (placed Record.display (issueTree cache (t.map .inl)).1).map
      fun x => (x.1, recordFacts x.2) := List.mem_map.2 ⟨(path, n), h, rfl⟩
  rw [placed_issueTree] at hfacts
  obtain ⟨⟨path', d⟩, hd, heq⟩ := List.mem_map.1 hfacts
  obtain ⟨rfl, hsame⟩ := Prod.mk.inj heq
  exact ⟨d, hd, hsame.symm⟩

theorem showsPaths_draftTree {rs : List Record} (hrs : rs.map recordFacts = ds.map draftFacts)
    (hplaces : (ds.map fun d => Text.segments d.display).Nodup) (cache : TagCache) :
    ShowsPaths rs (issueTree cache ((draftTree ds).map .inl)).1 := by
  have hlabelled := labelled_segmentDraft ds
  have hentries : (ds.map fun d => (d.display, segmentDraft d)).map (fun e => Text.segments e.1) =
      ds.map fun d => Text.segments d.display := List.map_map
  refine ⟨?_, fun r hr => ?_, fun path n hn hpath => ?_⟩
  · have hplaced := congrArg (List.map Prod.fst) (placed_issueTree cache (draftTree ds))
    rw [List.map_map, List.map_map] at hplaced
    exact hplaced ▸ hlabelled.nodup_placed
  · have hmem : recordFacts r ∈ ds.map draftFacts := hrs ▸ List.mem_map_of_mem hr
    obtain ⟨d, hd, hdraft⟩ := List.mem_map.1 hmem
    have hnode := hlabelled.mem_placed (hentries ▸ hplaces) (List.mem_map_of_mem hd)
    obtain ⟨n, hn, hfacts⟩ := exists_record_of_mem_placed cache hnode
    simp only [recordFacts, draftFacts, segmentDraft, Prod.mk.injEq] at hdraft hfacts
    obtain ⟨hdisplay, hreference, hfields⟩ := hdraft
    rw [← hdisplay, ← hreference, ← hfields]
    exact ⟨n, hn, hfacts⟩
  · obtain ⟨d, hd, hfacts⟩ := exists_draft_of_mem_placed hn
    have hds : rs.map (fun r => Text.segments r.display) = ds.map fun d => Text.segments d.display := by
      have hsegments := congrArg (List.map fun x => Text.segments x.1) hrs
      rw [List.map_map, List.map_map] at hsegments
      exact hsegments
    rw [hds, ← hentries] at hpath
    rw [hlabelled.eq_plain_of_mem_placed hd hpath] at hfacts
    simp only [recordFacts, draftFacts, plainDraft, Prod.mk.injEq] at hfacts
    exact hfacts.2

/-- The list and the tree refer to the same subjects. -/
theorem ShowsPaths.exists_uri_iff {rs : List Record} {root : Tree Record} (h : ShowsPaths rs root)
    (uri : String) :
    (∃ r ∈ rs, r.uri = some uri) ↔ ∃ n ∈ root.contents, n.uri = some uri := by
  constructor
  · rintro ⟨r, hr, huri⟩
    obtain ⟨n, hn, -, hreference, -⟩ := h.shown r hr
    refine ⟨n, ?_, by rw [Record.uri, hreference]; exact huri⟩
    rw [← map_snd_placed Record.display]
    exact List.mem_map_of_mem (f := Prod.snd) hn
  · rintro ⟨n, hmem, huri⟩
    rw [← map_snd_placed Record.display] at hmem
    obtain ⟨⟨path, n⟩, hn, rfl⟩ := List.mem_map.1 hmem
    by_cases hpath : path ∈ rs.map fun r => Text.segments r.display
    · obtain ⟨r, hr, rfl⟩ := List.mem_map.1 hpath
      obtain ⟨n', hn', -, hreference, -⟩ := h.shown r hr
      -- There is one node at the place of the record.
      obtain rfl : n = n' := congrArg Prod.snd (List.inj_on_of_nodup_map h.nodup hn hn' rfl)
      exact ⟨r, hr, by rw [Record.uri, ← hreference]; exact huri⟩
    · rw [Record.uri, (h.others path n hn hpath).1] at huri
      cases huri

end Drafts

section Rows

/-- The path that a row binds, or else no text. -/
def pathOf (row : Row) : String := (row.get? "path").getD ""

/-- The record of a row that binds a path. -/
def pathDraft (row : Row) : Draft where
  display := pathOf row
  reference := (row.get? "resource").map fun uri => { uri }
  fields := (row.erase "path").erase "resource"

theorem rowDraft_path (row : Row) : rowDraft "path" (some "resource") row = pathDraft row := by
  rw [rowDraft, subjectVariable_of_ne "path" (some "resource") (by decide)]
  rfl

theorem rowDrafts_path (rows : List Row) :
    rowDrafts "path" (some "resource") rows = (rows.filter fun row => row.has "path").map pathDraft := by
  rw [rowDrafts_eq, funext rowDraft_path]

theorem map_pathOf (rows : List Row) :
    (rows.filter fun row => row.has "path").map pathOf = rows.filterMap fun row => row.get? "path" := by
  rw [← List.filterMap_eq_map, List.filterMap_filter]
  refine List.filterMap_congr fun row _ => ?_
  cases hpath : row.get? "path" with
  | none => simp [Dict.has, hpath]
  | some path => simp [Dict.has, pathOf, hpath]

/-- The records of the rows, by their paths without regard to case. -/
theorem pathDrafts_eq (rows : List Row) :
    pathDrafts rows = (sortByKey (fun row => Text.lowercase (pathOf row))
      (rows.filter fun row => row.has "path")).map pathDraft := by
  rw [pathDrafts, rowDrafts_path, sortDrafts, sortByKey_map]
  rfl

theorem isPathRecord_of_facts {row : Row} (hpath : row.has "path" = true) {r : Record}
    (h : draftFacts (pathDraft row) = recordFacts r) : IsPathRecord row r := by
  simp only [draftFacts, recordFacts, pathDraft, Prod.mk.injEq] at h
  obtain ⟨hdisplay, hreference, hfields⟩ := h
  refine ⟨?_, hreference, fun name => ?_⟩
  · obtain ⟨path, hrow⟩ := Option.isSome_iff_exists.1 hpath
    rw [← hdisplay, pathOf, hrow, Option.getD_some]
  · rw [← hfields, Dict.get?_erase, Dict.get?_erase]
    by_cases hpath : name = "path"
    · simp [hpath]
    · simp [hpath]

/-- Every row has its record. -/
theorem exists_isPathRecord {rows : List Row} {rs : List Record} (h : List.Forall₂ IsPathRecord rows rs)
    {row : Row} (hrow : row ∈ rows) : ∃ r ∈ rs, IsPathRecord row r := by
  induction h with
  | nil => cases hrow
  | @cons row' r' rows rs hr _ ih =>
    rcases List.mem_cons.1 hrow with rfl | hrow
    · exact ⟨r', List.mem_cons_self, hr⟩
    · obtain ⟨r, hmem, hr⟩ := ih hrow
      exact ⟨r, List.mem_cons_of_mem r' hmem, hr⟩

end Rows

section Shapes

variable {store : Store} {rows : List Row} {query : String}

theorem pathView_list (h : store.select query = .ok rows) (name description : String)
    (actions : List (Action World)) (cache : TagCache) :
    ∃ rs seen,
      (pathView name description query actions).data store cache .list = .ok (.list rs, seen) ∧
      rs.map recordFacts = (pathDrafts rows).map draftFacts := by
  have hproduce : (pathView name description query actions).produce store cache .list =
      .ok (.list (Draft.issueAll cache (pathDrafts rows)).1,
        (Draft.issueAll cache (pathDrafts rows)).2) := by
    simp only [pathView, h]
    rfl
  exact ⟨_, _, View.data_of_produce rfl hproduce, Draft.map_issueAll fun _ _ _ => rfl⟩

theorem pathView_tree (h : store.select query = .ok rows) (name description : String)
    (actions : List (Action World)) (cache : TagCache) :
    ∃ seen, (pathView name description query actions).data store cache .tree =
      .ok (.tree (issueTree cache ((draftTree (pathDrafts rows)).map .inl)).1, seen) := by
  have hproduce : (pathView name description query actions).produce store cache .tree =
      .ok (issueContainerTree cache ((draftTree (pathDrafts rows)).map .inl)) := by
    simp only [pathView, h]
    rfl
  exact ⟨_, View.data_of_produce rfl hproduce⟩

/-- The two shapes of a view on paths.  The list has one record for every row that binds a path, by the paths
    without regard to case, and those whose paths are the same then stay in order.  If no two paths have the
    same parts, the tree has each record of the list once, at the parts of its path and called by the last of
    them, and nothing else in it refers to a subject or has fields; so both show the same subjects. -/
theorem pathView_shapes (h : store.select query = .ok rows)
    (hplaces : ((rows.filterMap fun row => row.get? "path").map Text.segments).Nodup)
    (name description : String) (actions : List (Action World)) (cache cache' : TagCache) :
    ∃ sorted rs seen root seen',
      (pathView name description query actions).data store cache .list = .ok (.list rs, seen) ∧
      (pathView name description query actions).data store cache' .tree = .ok (.tree root, seen') ∧
      StablySorted (fun row => Text.lowercase (pathOf row)) (rows.filter fun row => row.has "path")
        sorted ∧
      List.Forall₂ IsPathRecord sorted rs ∧ ShowsPaths rs root ∧
      ∀ uri, (∃ r ∈ rs, r.uri = some uri) ↔ ∃ n ∈ root.contents, n.uri = some uri := by
  obtain ⟨rs, seen, hlist, hfacts⟩ := pathView_list h name description actions cache
  obtain ⟨seen', htree⟩ := pathView_tree h name description actions cache'
  have hsorted := stablySorted_sortByKey (fun row => Text.lowercase (pathOf row))
    (rows.filter fun row => row.has "path")
  have hpaths : ShowsPaths rs (issueTree cache' ((draftTree (pathDrafts rows)).map .inl)).1 := by
    refine showsPaths_draftTree hfacts ?_ cache'
    have hperm := hsorted.perm.map fun row => Text.segments (pathOf row)
    have hrows : (rows.filter fun row => row.has "path").map (fun row => Text.segments (pathOf row)) =
        (rows.filterMap fun row => row.get? "path").map Text.segments := by
      rw [← map_pathOf, List.map_map]
      rfl
    rw [hrows] at hperm
    rw [pathDrafts_eq, List.map_map]
    exact hperm.nodup_iff.2 hplaces
  have hrecords : List.Forall₂ IsPathRecord (sortByKey (fun row => Text.lowercase (pathOf row))
      (rows.filter fun row => row.has "path")) rs := by
    rw [pathDrafts_eq, List.map_map] at hfacts
    have hbound : ∀ row ∈ sortByKey (fun row => Text.lowercase (pathOf row))
        (rows.filter fun row => row.has "path"), row.has "path" = true := by
      intro row hrow
      simpa using (List.mem_filter.1 (hsorted.perm.mem_iff.1 hrow)).2
    have hpairs := forall₂_iff_map_eq.2 hfacts.symm
    exact ((List.forall₂_and_left _ _).2 ⟨hbound, hpairs⟩).imp fun row r hr =>
      isPathRecord_of_facts hr.1 hr.2
  exact ⟨_, rs, seen, _, seen', hlist, htree, hsorted, hrecords, hpaths, hpaths.exists_uri_iff⟩

/-- A directory written with two slashes and one at the end, which a file is below. -/
theorem pathView_shapes_ssh :
    let ssh : Row := Dict.ofList [("path", "/etc//ssh/"), ("resource", "urn:ssh")]
    let rows := [ssh, Dict.ofList [("path", "/etc/ssh/Config"), ("target", "/srv")],
      Dict.ofList [("path", "/etc/passwd")], Dict.ofList [("resource", "urn:lost")]]
    let store : Store := { selects := Dict.empty.insert filesQuery rows }
    let view := pathView "Files" "" filesQuery []
    store.select filesQuery = .ok rows ∧
      ((rows.filterMap fun row => row.get? "path").map Text.segments).Nodup ∧
      ∃ rs seen root seen', view.data store {} .list = .ok (.list rs, seen) ∧
        view.data store {} .tree = .ok (.tree root, seen') ∧ rs.length = 3 ∧
        ∃ n, (["etc", "ssh"], n) ∈ placed Record.display root ∧ n.display = "ssh" ∧
          n.reference = some { uri := "urn:ssh" } := by
  intro ssh rows store view
  have hselect : store.select filesQuery = .ok rows := by decide +kernel
  have hplaces : ((rows.filterMap fun row => row.get? "path").map Text.segments).Nodup := by
    decide +kernel
  obtain ⟨sorted, rs, seen, root, seen', hlist, htree, hsorted, hrecords, hpaths, -⟩ :=
    pathView_shapes hselect hplaces "Files" "" [] {} {}
  have hssh : ssh ∈ sorted := hsorted.perm.mem_iff.2 (by decide +kernel)
  obtain ⟨r, hr, hrow⟩ := exists_isPathRecord hrecords hssh
  obtain ⟨n, hn, hdisplay, hreference, -⟩ := hpaths.shown r hr
  have hpath : r.display = "/etc//ssh/" := by
    have hbound : ssh.get? "path" = some "/etc//ssh/" := by decide +kernel
    exact Option.some.inj (hrow.path.symm.trans hbound)
  have hsegments : Text.segments "/etc//ssh/" = ["etc", "ssh"] := by decide +kernel
  have hresource : (ssh.get? "resource").map (fun uri => { uri }) =
      some ({ uri := "urn:ssh" } : Reference) := by decide +kernel
  have hlength : rs.length = (rows.filter fun row => row.has "path").length :=
    hrecords.length_eq.symm.trans hsorted.perm.length_eq
  rw [hpath, hsegments] at hn hdisplay
  exact ⟨hselect, hplaces, rs, seen, root, seen', hlist, htree, hlength.trans (by decide +kernel), n, hn,
    hdisplay, hreference.trans (hrow.resource.symm.trans hresource)⟩

end Shapes

end Filesystem

end Stocktake
