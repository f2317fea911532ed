import Stocktake.Module.General
import Stocktake.Proofs.Module.Ordering
import Stocktake.Proofs.Record.Issue
import Mathlib.Data.List.Sort
import Mathlib.Data.Set.Function

/-!
# Tagged resources in a list and in a tree

A row that binds a resource, a name and a tag tells of a tagging; other rows tell nothing.  The same taggings
make a list, in which every resource stands once, and a tree, in which it stands once below each of its tags
for every row that says so.  The tree hands out the records of the resources before those of the tags, so that
all leaves of a resource hold the same record.  Main statements: `forall₂_tells`, `taggedDrafts_eq`,
`groupsByTag_issueTree`, and `taggedView_shapes`.
-/

namespace Stocktake

/-- A record that has a display and nothing else. -/
structure Record.IsPlain (display : String) (r : Record) : Prop where
  display_eq : r.display = display
  reference_eq : r.reference = none
  fields_eq : r.fields = .empty

theorem Record.isPlain_issue (cache : TagCache) (display : String) :
    ((plainDraft display).issue cache).1.IsPlain display := ⟨rfl, rfl, rfl⟩

/-- Records that have their numbers already keep them, and no number is handed out. -/
theorem issueTrees_leaves (cache : TagCache) (rs : List Record) :
    issueTrees cache (rs.map fun r => Tree.leaf (.inr r)) = (rs.map Tree.leaf, cache) := by
  induction rs generalizing cache with
  | nil => rfl
  | cons r rs ih =>
    rw [List.map_cons, issueTrees, Tree.leaf, Tree.collapsed, issueTree, issueTrees]
    simp only [ih]
    rfl

namespace General

section Rows

/-- Whether a row binds all that a tagging is made of. -/
def isComplete (row : Row) : Bool := row.has "resource" && row.has "name" && row.has "tag"

/-- The row binds the resource, the name and the tag of the tagging. -/
structure Tells (row : Row) (t : Tagging) : Prop where
  uri : row.get? "resource" = some t.uri
  name : row.get? "name" = some t.name
  tag : row.get? "tag" = some t.tag

theorem tagging?_eq_some_iff {row : Row} {t : Tagging} : tagging? row = some t ↔ Tells row t := by
  simp only [tagging?, Option.bind_eq_bind, Option.bind_eq_some_iff, Option.pure_def, Option.some.injEq]
  constructor
  · rintro ⟨uri, huri, name, hname, tag, htag, rfl⟩
    exact ⟨huri, hname, htag⟩
  · rintro ⟨huri, hname, htag⟩
    exact ⟨t.uri, huri, t.name, hname, t.tag, htag, rfl⟩

theorem isSome_tagging? (row : Row) : (tagging? row).isSome = isComplete row := by
  unfold tagging? isComplete Dict.has
  cases row.get? "resource" <;> cases row.get? "name" <;> cases row.get? "tag" <;> rfl

/-- The rows that are read as taggings are the complete ones, and the taggings are what they bind. -/
theorem forall₂_tells (rows : List Row) :
    List.Forall₂ Tells (rows.filter isComplete) (rows.filterMap tagging?) := by
  induction rows with
  | nil => exact .nil
  | cons row rows ih =>
    rw [List.filter_cons, ← isSome_tagging?]
    cases hrow : tagging? row with
    | none =>
      rw [List.filterMap_cons_none hrow]
      exact ih
    | some t =>
      rw [List.filterMap_cons_some hrow]
      exact .cons (tagging?_eq_some_iff.1 hrow) ih

/-- Taggings are what rows bind in one way only. -/
theorem map_some_of_forall₂_tells {rows : List Row} {taggings : List Tagging}
    (h : List.Forall₂ Tells rows taggings) : rows.map tagging? = taggings.map some :=
  forall₂_iff_map_eq.1 (h.imp fun _ _ => tagging?_eq_some_iff.2)

end Rows

/-- The records that are the resources of taggings: each resource once, as they come up, with the name that
    its first tagging tells. -/
def ListsResources (taggings : List Tagging) (rs : List Record) : Prop :=
  List.Forall₂
    (fun uri r => r.reference = some { uri } ∧ r.fields = .empty ∧
      (taggings.find? fun t => t.uri = uri).map Tagging.name = some r.display)
    (taggings.map Tagging.uri).eraseDups rs

/-- A tree that has a plain node for every tag, by the order of the tags, and below it a leaf for every
    tagging with the tag, in order, which holds the record of the resource. -/
structure GroupsByTag (taggings : List Tagging) (member : String → Record) (tags : List String)
    (root : Tree Record) : Prop where
  plain : root.content.IsPlain tagsRoot
  increasing : tags.Pairwise fun x y => Text.octets x < Text.octets y
  mem_tags : ∀ tag, tag ∈ tags ↔ tag ∈ taggings.map Tagging.tag
  groups : List.Forall₂
    (fun tag node => node.content.IsPlain tag ∧
      node.children = (taggings.filter fun t => t.tag = tag).map fun t => .leaf (member t.uri))
    tags root.children

section Drafts

/-- The record of a resource that taggings tell of. -/
def resourceDraft (taggings : List Tagging) (uri : String) : Draft where
  display := ((taggings.find? fun t => t.uri = uri).map Tagging.name).getD ""
  reference := some { uri }

theorem taggedDrafts_filter (taggings : List Tagging) (uri : String) :
    taggedDrafts (taggings.filter fun t => t.uri ≠ uri) =
      (taggedDrafts taggings).filter fun d => d.uri != some uri := by
  induction taggings with
  | nil => rfl
  | cons t taggings ih =>
    rw [taggedDrafts, List.filter_cons, List.filter_cons, List.filter_filter]
    by_cases ht : t.uri = uri
    · subst ht
      rw [if_neg (by simp), if_neg (by simp [Draft.uri]), ih]
      simp only [Bool.and_self]
    · simp only [ht, ne_eq, not_false_eq_true, decide_true, if_true, taggedDrafts, ih,
        List.filter_filter]
      simp [Draft.uri, ht, Bool.and_comm]

/-- Every resource has one draft, in the order in which they come up. -/
theorem taggedDrafts_eq (taggings : List Tagging) :
    taggedDrafts taggings =
      (taggings.map Tagging.uri).eraseDups.map (resourceDraft taggings) := by
  induction taggings using keyInduction Tagging.uri with
  | nil => rfl
  | cons t taggings ih =>
    rw [taggedDrafts, ← taggedDrafts_filter, ih, eraseDups_map_cons, List.map_cons]
    have hhead : resourceDraft (t :: taggings) t.uri =
        { display := t.name, reference := some { uri := t.uri } } := by
      simp [resourceDraft]
    rw [hhead]
    refine congrArg (_ :: ·) (List.map_congr_left fun uri huri => ?_)
    obtain ⟨x, hx, rfl⟩ := List.mem_map.1 (List.mem_eraseDups.1 huri)
    have hne : x.uri ≠ t.uri := by simpa using (List.mem_filter.1 hx).2
    have hfind : (taggings.filter fun y => y.uri ≠ t.uri).find? (fun y => y.uri = x.uri) =
        (t :: taggings).find? fun y => y.uri = x.uri := by
      rw [List.find?_cons_of_neg (by simpa using hne.symm), List.find?_filter]
      congr 1
      funext y
      by_cases hy : y.uri = x.uri
      · simp [hy, hne]
      · simp [hy]
    rw [resourceDraft, resourceDraft, hfind]

/-- What the records of the resources look like, all at once. -/
theorem listsResources_iff {taggings : List Tagging} {rs : List Record} :
    ListsResources taggings rs ↔
      (taggings.map Tagging.uri).eraseDups.map (fun uri =>
          (some { uri }, .empty, (taggings.find? fun t => t.uri = uri).map Tagging.name)) =
        rs.map fun r => (r.reference, r.fields, some r.display) := by
  rw [← forall₂_iff_map_eq]
  constructor
  · intro h
    refine h.imp ?_
    rintro uri r ⟨hreference, hfields, hdisplay⟩
    rw [hreference, hfields, hdisplay]
  · intro h
    refine h.imp fun uri r hr => ?_
    simp only [Prod.mk.injEq] at hr
    exact ⟨hr.1.symm, hr.2.1.symm, hr.2.2⟩

/-- What is handed out for the drafts are the resources of the taggings. -/
theorem listsResources_issueAll (cache : TagCache) (taggings : List Tagging) :
    ListsResources taggings (Draft.issueAll cache (taggedDrafts taggings)).1 := by
  have hdrafts : (Draft.issueAll cache (taggedDrafts taggings)).1.map
        (fun r => (r.reference, r.fields, some r.display)) =
      (taggedDrafts taggings).map fun d => (d.reference, d.fields, some d.display) :=
    Draft.map_issueAll fun _ _ _ => rfl
  rw [listsResources_iff, hdrafts, taggedDrafts_eq, List.map_map]
  refine List.map_congr_left fun uri huri => ?_
  obtain ⟨t, ht, rfl⟩ := List.mem_map.1 (List.mem_eraseDups.1 huri)
  have hfound : (taggings.find? fun x => x.uri = t.uri).isSome :=
    List.find?_isSome.2 ⟨t, ht, decide_eq_true rfl⟩
  obtain ⟨first, hfirst⟩ := Option.isSome_iff_exists.1 hfound
  simp only [Function.comp, resourceDraft, hfirst, Option.map_some, Option.getD_some]

end Drafts

section Members

variable {taggings : List Tagging} {rs : List Record}

/-- The record among others that refers to a subject. -/
def recordOf (rs : List Record) (uri : String) : Record :=
  (rs.find? fun r => r.uri == some uri).getD default

theorem ListsResources.map_uri (h : ListsResources taggings rs) :
    rs.map Record.uri = (taggings.map Tagging.uri).eraseDups.map some := by
  have hsame := congrArg (List.map fun x => x.1.map Reference.uri) (listsResources_iff.1 h)
  rw [List.map_map, List.map_map] at hsame
  exact hsame.symm

theorem ListsResources.find?_uri (h : ListsResources taggings rs) {r : Record} (hr : r ∈ rs)
    {uri : String} (huri : r.uri = some uri) :
    (rs.find? fun r => r.uri == some uri) = some r := by
  have hnodup : (rs.map Record.uri).Nodup := by
    rw [h.map_uri]
    exact (nodup_eraseDups _).map (Option.some_injective _)
  simp only [Bool.beq_eq_decide_eq]
  exact (find?_eq_some_iff_of_nodup hnodup (some uri) r).2 ⟨hr, huri⟩

/-- Every resource has a record, which is found by its name. -/
theorem ListsResources.find?_of_mem (h : ListsResources taggings rs) {t : Tagging}
    (ht : t ∈ taggings) :
    (rs.find? fun r => r.uri == some t.uri) = some (recordOf rs t.uri) ∧
      recordOf rs t.uri ∈ rs ∧ (recordOf rs t.uri).uri = some t.uri := by
  have hmem : some t.uri ∈ rs.map Record.uri := by
    rw [h.map_uri]
    exact List.mem_map_of_mem (List.mem_eraseDups.2 (List.mem_map_of_mem ht))
  obtain ⟨r, hr, huri⟩ := List.mem_map.1 hmem
  have hfind := h.find?_uri hr huri
  have hrecord : recordOf rs t.uri = r := by rw [recordOf, hfind, Option.getD_some]
  rw [hrecord]
  exact ⟨hfind, hr, huri⟩

theorem ListsResources.map_recordOf (h : ListsResources taggings rs) :
    (taggings.map Tagging.uri).eraseDups.map (recordOf rs) = rs := by
  have hself : ∀ r ∈ rs, recordOf rs (r.uri.getD "") = r := by
    intro r hr
    have huri : r.uri ∈ rs.map Record.uri := List.mem_map_of_mem hr
    rw [h.map_uri] at huri
    obtain ⟨uri, -, huri⟩ := List.mem_map.1 huri
    rw [recordOf, ← huri, Option.getD_some, h.find?_uri hr huri.symm, Option.getD_some]
  calc (taggings.map Tagging.uri).eraseDups.map (recordOf rs)
    _ = ((taggings.map Tagging.uri).eraseDups.map some).map fun uri => recordOf rs (uri.getD "") := by
      rw [List.map_map]
      rfl
    _ = rs.map fun r => recordOf rs (r.uri.getD "") := by rw [← h.map_uri, List.map_map]; rfl
    _ = rs.map id := List.map_congr_left hself
    _ = rs := List.map_id rs

end Members

section Groups

variable {taggings : List Tagging} {rs : List Record}

theorem forall₂_issueTrees_groups (cache : TagCache) (tags : List String)
    (members : String → List Record) :
    List.Forall₂
      (fun tag node => node.content.IsPlain tag ∧ node.children = (members tag).map Tree.leaf) tags
      (issueTrees cache (tags.map fun tag => Tree.collapsed (.inl (plainDraft tag))
        ((members tag).map fun r => Tree.leaf (.inr r)))).1 := by
  induction tags generalizing cache with
  | nil => exact .nil
  | cons tag tags ih =>
    rw [List.map_cons, issueTrees, Tree.collapsed, issueTree]
    simp only [issueTrees_leaves]
    exact .cons ⟨Record.isPlain_issue cache tag, rfl⟩ (ih _)

/-- The tree of taggings, below every tag the resources among the records. -/
theorem taggedTree_eq (h : ListsResources taggings rs) :
    taggedTree taggings rs = .collapsed (.inl (plainDraft tagsRoot))
      ((sortedNames (taggings.map Tagging.tag)).map fun tag => .collapsed (.inl (plainDraft tag))
        (((taggings.filter fun t => t.tag = tag).map fun t => recordOf rs t.uri).map
          fun r => .leaf (.inr r))) := by
  unfold taggedTree
  refine congrArg (Tree.collapsed _) (List.map_congr_left fun tag _ => congrArg (Tree.collapsed _) ?_)
  rw [List.map_map, ← List.filterMap_eq_map]
  simp only [Bool.beq_eq_decide_eq]
  refine List.filterMap_congr fun t ht => ?_
  have hfind := (h.find?_of_mem (List.mem_filter.1 ht).1).1
  simp only [Bool.beq_eq_decide_eq] at hfind
  rw [hfind]
  rfl

/-- The records of the resources stay as they are in the tree, and all others are plain. -/
theorem groupsByTag_issueTree (h : ListsResources taggings rs) (cache : TagCache) :
    GroupsByTag taggings (recordOf rs) (sortedNames (taggings.map Tagging.tag))
      (issueTree cache (taggedTree taggings rs)).1 := by
  rw [taggedTree_eq h, Tree.collapsed, issueTree]
  refine ⟨Record.isPlain_issue cache tagsRoot, ?_, fun tag => mem_sortedNames, ?_⟩
  · exact (pairwise_sortedNames _).imp Text.octets_lt_octets
  · refine (forall₂_issueTrees_groups _ _ fun tag =>
      (taggings.filter fun t => t.tag = tag).map fun t => recordOf rs t.uri).imp ?_
    rintro tag node ⟨hplain, hchildren⟩
    exact ⟨hplain, by rw [hchildren, List.map_map]; rfl⟩

/-- There is one way to put the tags in order. -/
theorem GroupsByTag.tags_eq {member : String → Record} {tags : List String} {root : Tree Record}
    (h : GroupsByTag taggings member tags root) : tags = sortedNames (taggings.map Tagging.tag) := by
  have hanti : Std.Antisymm fun x y : String => Text.octets x < Text.octets y :=
    ⟨fun x y hxy hyx => absurd hyx (List.lt_asymm hxy)⟩
  have hirrefl : Std.Irrefl fun x y : String => Text.octets x < Text.octets y :=
    ⟨fun x => List.lt_irrefl (Text.octets x)⟩
  have hsorted := (pairwise_sortedNames (taggings.map Tagging.tag)).imp Text.octets_lt_octets
  exact h.increasing.eq_of_mem_iff hsorted fun tag => (h.mem_tags tag).trans mem_sortedNames.symm

/-- What stands above and at the leaves. -/
theorem GroupsByTag.outline_eq {member : String → Record} {tags : List String} {root : Tree Record}
    (h : GroupsByTag taggings member tags root) :
    root.children.map (fun node => (node.content.display, node.children)) =
      tags.map fun tag => (tag, (taggings.filter fun t => t.tag = tag).map fun t => .leaf (member t.uri)) := by
  refine (forall₂_iff_map_eq.1 (h.groups.imp ?_)).symm
  rintro tag node ⟨hplain, hchildren⟩
  exact Prod.ext hplain.display_eq.symm hchildren.symm

/-- The leaves are those of the taggings, tag by tag. -/
theorem GroupsByTag.leaves_eq {member : String → Record} {tags : List String} {root : Tree Record}
    (h : GroupsByTag taggings member tags root) :
    root.children.flatMap Tree.children =
      (tags.flatMap fun tag => taggings.filter fun t => t.tag = tag).map
        fun t => .leaf (member t.uri) := by
  have hleaves := congrArg (List.flatMap Prod.snd) h.outline_eq
  rw [List.flatMap_map, List.flatMap_map] at hleaves
  rw [hleaves, List.map_flatMap]

/-- The leaves are as many as the taggings, and those of the same resources. -/
theorem GroupsByTag.leaves_perm {member : String → Record} {tags : List String} {root : Tree Record}
    (h : GroupsByTag taggings member tags root) :
    (root.children.flatMap Tree.children).Perm (taggings.map fun t => .leaf (member t.uri)) := by
  have hincreasing : tags.Nodup := h.increasing.imp fun {x y} hlt he => by
    rw [he] at hlt
    exact List.lt_irrefl _ hlt
  rw [h.leaves_eq]
  refine (flatMap_filter_perm Tagging.tag hincreasing fun t ht => ?_).map _
  exact (h.mem_tags t.tag).2 (List.mem_map_of_mem ht)

end Groups

section Shapes

variable {store : Store} {rows : List Row}

theorem taggedView_list (h : store.select taggedQuery = .ok rows) (actions : List (Action World))
    (cache : TagCache) :
    ∃ rs seen, (taggedView actions).data store cache .list = .ok (.list rs, seen) ∧
      ListsResources (rows.filterMap tagging?) rs := by
  have hproduce : (taggedView actions).produce store cache .list =
      .ok (.list (Draft.issueAll cache (taggedDrafts (rows.filterMap tagging?))).1,
        (Draft.issueAll cache (taggedDrafts (rows.filterMap tagging?))).2) := by
    simp only [taggedView, h]
    rfl
  exact ⟨_, _, View.data_of_produce rfl hproduce, listsResources_issueAll cache _⟩

/-- The leaves of the tree are taken from records that list the resources, each with its own number. -/
theorem taggedView_tree (h : store.select taggedQuery = .ok rows) (actions : List (Action World))
    (cache : TagCache) :
    ∃ root seen rs, (taggedView actions).data store cache .tree = .ok (.tree root, seen) ∧
      ListsResources (rows.filterMap tagging?) rs ∧ Record.Coherent rs ∧
      GroupsByTag (rows.filterMap tagging?) (recordOf rs)
        (sortedNames ((rows.filterMap tagging?).map Tagging.tag)) root := by
  have hresources := listsResources_issueAll cache (rows.filterMap tagging?)
  have hcoherent := Draft.coherent_issueAll cache (taggedDrafts (rows.filterMap tagging?))
  have hproduce : ∃ issued, (taggedView actions).produce store cache .tree =
      .ok (issueContainerTree issued
        (taggedTree (rows.filterMap tagging?)
          (Draft.issueAll cache (taggedDrafts (rows.filterMap tagging?))).1)) := by
    simp only [taggedView, h]
    exact ⟨_, rfl⟩
  obtain ⟨issued, hproduce⟩ := hproduce
  exact ⟨_, _, _, View.data_of_produce rfl hproduce, hresources, hcoherent,
    groupsByTag_issueTree hresources issued⟩

end Shapes

/-- The two shapes of the view on tagged resources, where of the rows the complete ones count by what they
    bind.  The list has one record for every resource, as they come up, with the name of its first row.  The
    tree has a plain node for every tag, in the order of the tags, and below it a leaf for every row with the
    tag, in order.  The leaves of a resource all hold the same record, those of different resources different
    ones, and it looks like the record in the list; so the tree has the resources of the list, and as many
    leaves as there are rows. -/
theorem taggedView_shapes {store : Store} {rows : List Row} (h : store.select taggedQuery = .ok rows)
    (actions : List (Action World)) (cache cache' : TagCache) :
    ∃ taken : List Tagging, List.Forall₂ Tells (rows.filter isComplete) taken ∧
      let uris := (taken.map Tagging.uri).eraseDups
      ∃ rs seen root seen', ∃ (member : String → Record) (tags : List String),
        (taggedView actions).data store cache .list = .ok (.list rs, seen) ∧
        (taggedView actions).data store cache' .tree = .ok (.tree root, seen') ∧
        ListsResources taken rs ∧ GroupsByTag taken member tags root ∧
        Set.InjOn (fun uri => (member uri).id) {uri | uri ∈ uris} ∧
        rs.map (fun r => (r.display, r.reference)) =
          uris.map (fun uri => ((member uri).display, (member uri).reference)) ∧
        (∀ uri, (∃ r ∈ rs, r.uri = some uri) ↔
          ∃ leaf ∈ root.children.flatMap Tree.children, leaf.content.uri = some uri) ∧
        (root.children.flatMap Tree.children).length = (rows.filter isComplete).length := by
  obtain ⟨rs, seen, hlist, hlisted⟩ := taggedView_list h actions cache
  obtain ⟨root, seen', members, htree, hmembers, hcoherent, hgroups⟩ :=
    taggedView_tree h actions cache'
  have htaken := forall₂_tells rows
  generalize rows.filterMap tagging? = taken at hlisted hmembers hgroups htaken
  refine ⟨taken, htaken, ?_⟩
  intro uris
  have hof : ∀ uri ∈ uris, recordOf members uri ∈ members ∧ (recordOf members uri).uri = some uri := by
    intro uri huri
    obtain ⟨t, ht, rfl⟩ := List.mem_map.1 (List.mem_eraseDups.1 huri)
    exact (hmembers.find?_of_mem ht).2
  refine ⟨rs, seen, root, seen', recordOf members, _, hlist, htree, hlisted, hgroups, ?_, ?_,
    fun uri => ?_, ?_⟩
  · intro uri huri uri' huri' hid
    obtain ⟨hmem, hrefers⟩ := hof uri huri
    obtain ⟨hmem', hrefers'⟩ := hof uri' huri'
    have hsame := congrArg (Option.map Reference.uri) (hcoherent _ hmem _ hmem' hid)
    exact Option.some.inj (hrefers.symm.trans (hsame.trans hrefers'))
  · have hlook := (listsResources_iff.1 hlisted).symm.trans (listsResources_iff.1 hmembers)
    have hshown := congrArg (List.map fun x => (x.2.2.getD "", x.1)) hlook
    rw [List.map_map, List.map_map] at hshown
    calc rs.map (fun r => (r.display, r.reference))
      _ = members.map fun r => (r.display, r.reference) := hshown
      _ = (uris.map (recordOf members)).map fun r => (r.display, r.reference) := by
        rw [hmembers.map_recordOf]
      _ = uris.map fun uri => ((recordOf members uri).display, (recordOf members uri).reference) :=
        List.map_map
  · have hinList : (∃ r ∈ rs, r.uri = some uri) ↔ uri ∈ taken.map Tagging.uri := by
      rw [← List.mem_map (f := Record.uri), hlisted.map_uri,
        List.mem_map_of_injective (Option.some_injective String), List.mem_eraseDups]
    rw [hinList, List.mem_map]
    simp only [hgroups.leaves_perm.mem_iff, List.mem_map, exists_exists_and_eq_and]
    refine exists_congr fun t => and_congr_right fun ht => ?_
    have hrefers := (hmembers.find?_of_mem ht).2.2
    have hcontent : (Tree.leaf (recordOf members t.uri)).content.uri = some t.uri := hrefers
    rw [hcontent, Option.some.injEq]
  · rw [hgroups.leaves_perm.length_eq, List.length_map, htaken.length_eq]

/-- A resource with two tags stands once in the list and twice in the tree, by the name of its first row; a
    row without a tag tells nothing. -/
theorem taggedView_shapes_bash :
    let row (uri name tag : String) : Row := Dict.ofList
      [("resource", uri), ("name", name), ("tag", tag)]
    let rows := [row "urn:b" "bash" "shell", row "urn:a" "apt" "package", row "urn:b" "sh" "package",
      Dict.ofList [("resource", "urn:c"), ("name", "curl")]]
    let store : Store := { selects := Dict.empty.insert taggedQuery rows }
    let shown (r : Record) := (r.display, r.reference)
    let bash := ("bash", some { uri := "urn:b" })
    let apt := ("apt", some { uri := "urn:a" })
    store.select taggedQuery = .ok rows ∧
      ∃ rs seen root seen', (taggedView []).data store {} .list = .ok (.list rs, seen) ∧
        (taggedView []).data store {} .tree = .ok (.tree root, seen') ∧
        rs.map shown = [bash, apt] ∧ root.content.display = "Tags" ∧
        root.children.map (fun node =>
            (node.content.display, node.children.map fun leaf => shown leaf.content)) =
          [("package", [apt, bash]), ("shell", [bash])] ∧
        (root.children.flatMap Tree.children).length = 3 := by
  intro row rows store shown bash apt
  have hselect : store.select taggedQuery = .ok rows := by decide +kernel
  obtain ⟨taken, htold, rs, seen, root, seen', member, tags, hlist, htree, hlisted, hgroups, -, hshared, -,
    hlength⟩ := taggedView_shapes hselect [] {} {}
  have htaken : taken = [⟨"urn:b", "bash", "shell"⟩, ⟨"urn:a", "apt", "package"⟩,
      ⟨"urn:b", "sh", "package"⟩] := by
    refine List.map_injective_iff.2 (Option.some_injective Tagging) ?_
    rw [← map_some_of_forall₂_tells htold]
    decide +kernel
  subst htaken
  have hrecords := congrArg (List.map fun x => (x.2.2.getD "", x.1)) (listsResources_iff.1 hlisted)
  rw [List.map_map, List.map_map] at hrecords
  have hlist_shown : rs.map shown = [bash, apt] := hrecords.symm.trans (by decide +kernel)
  -- The leaves show what the list shows.
  have hmembers : [bash, apt] = ["urn:b", "urn:a"].map fun uri => shown (member uri) :=
    hlist_shown.symm.trans hshared
  have hbash : bash = shown (member "urn:b") := List.head_eq_of_cons_eq hmembers
  have hapt : apt = shown (member "urn:a") := List.singleton_inj.1 (List.tail_eq_of_cons_eq hmembers)
  have htags : tags = ["package", "shell"] := hgroups.tags_eq.trans (by decide +kernel)
  have houtline := congrArg
    (List.map fun x => (x.1, x.2.map fun leaf => shown leaf.content)) hgroups.outline_eq
  rw [htags, List.map_map, List.map_map] at houtline
  refine ⟨hselect, rs, seen, root, seen', hlist, htree, hlist_shown, hgroups.plain.display_eq,
    houtline.trans ?_, hlength.trans (by decide +kernel)⟩
  rw [hbash, hapt]
  rfl

end General

end Stocktake
