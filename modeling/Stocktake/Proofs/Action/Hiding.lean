import Stocktake.Proofs.Action.TagEdits
import Stocktake.Proofs.Container.Freshness
import Stocktake.Proofs.Query.Wrapper

/-!
# Hidden subjects in views

A subject is hidden by a tag in the store, every container finds the tag when it is read, and a wrapped
query leaves out what has it.  So the views that are taken after hiding conceal the subject, until its
tags are removed.  A record of the subject is one with an attached reference to it; a detached one belongs
to a store that is gone.  Main statement: `hide_conceals`.
-/

namespace Stocktake

namespace Tree

variable {α : Type}

theorem contents_carryOver {same : α → α → Bool} (before : Option (Tree α)) (t : Tree α) :
    (t.carryOver same before).contents = t.contents := by
  rw [← contents_allCollapsed, allCollapsed_carryOver, contents_allCollapsed]

end Tree

/-- A view that has no records of a subject; a tree may have them at the root and above others that
    pass. -/
def Container.Conceals (passes : Record → Bool) (uri : String) : Container → Prop
  | .list rs => ∀ r ∈ rs, r.reference ≠ some { uri }
  | .table t => ∀ r ∈ t.records, r.reference ≠ some { uri }
  | .tree root => ∀ p s, root.subtreeAt p = some s → s.content.reference = some { uri } →
      p = [] ∨ ∃ q below, q ≠ [] ∧ s.subtreeAt q = some below ∧ passes below.content = true

section Views

variable {store : Store} {f : Filter} {uri : String}

theorem conceals_filterTree (before : Option (Tree Record)) {cache : TagCache} {root : Tree Record}
    (h : ∀ r ∈ root.contents, r.reference = some { uri } →
      f.keeps store (Record.refreshAll store cache root.contents) r = false) :
    let view := filterTree store f before cache root
    (Container.tree view.1).Conceals (f.keeps store view.2) uri := by
  intro view p s hs hreference
  by_cases hp : p = []
  · exact .inl hp
  have hany : s.anyNode (f.keeps store view.2) = true :=
    Tree.anyNode_of_subtreeAt_carryOver hp hs
  have hmem : s.content ∈ view.1.contents := Tree.mem_contents.2 ⟨p, s, hs, rfl⟩
  have hroot : s.content ∈ root.contents := by
    refine Tree.contents_pruned_subset (f.keeps store view.2) root ?_
    rw [← Tree.contents_carryOver before]
    exact hmem
  obtain ⟨q, below, hbelow, hpasses⟩ := (Tree.anyNode_iff _ s).1 hany
  refine .inr ⟨q, below, ?_, hbelow, hpasses⟩
  rintro rfl
  obtain rfl : s = below := Option.some.inj hbelow
  have hfails : f.keeps store view.2 s.content = false := h s.content hroot hreference
  rw [hfails] at hpasses
  cases hpasses

theorem conceals_filtered {cache : TagCache} {c : Container}
    (h : ∀ r ∈ c.records, r.reference = some { uri } →
      f.keeps store (c.refresh store cache) r = false) :
    let view := c.filtered store f cache
    view.1.Conceals (f.keeps store view.2) uri := by
  have hlist : ∀ rs : List Record,
      (∀ r ∈ rs, r.reference = some { uri } →
        f.keeps store (Record.refreshAll store cache rs) r = false) →
      ∀ r ∈ (filterRecords store f cache rs).1, r.reference ≠ some { uri } := by
    intro rs hrs r hr hreference
    obtain ⟨hmem, hpasses⟩ := List.mem_filter.1 hr
    rw [hrs r hmem hreference] at hpasses
    cases hpasses
  cases c with
  | list rs => exact hlist rs h
  | table t => exact hlist t.records h
  | tree root => exact conceals_filterTree none h

end Views

/-- In a container that is read, the records of a subject have the tags that it has in the store. -/
theorem tags_read_refresh {store : Store} {c : Container} (hc : Record.Coherent c.records)
    {uri : String} {x : Subject} (hx : store.subjects.get? uri = some x)
    (htags : store.refused? .tags uri = none) (cache : TagCache) {r : Record} (hr : r ∈ c.records)
    (hreference : r.reference = some { uri }) :
    (r.read (c.refresh store cache)).tags = x.tags := by
  have htold : r.told store = some x.tags := by
    simp only [Record.told, hreference, Option.bind_some, Reference.tags, if_true, Store.tags,
      Store.subject, htags, hx]
    rfl
  have hget := hc.get_refreshAll store cache hr
  rw [htold] at hget
  exact hget

/-- After hiding, no view of a container under a wrapped query has a record of the subject, whatever
    tags were seen last; a tree may have one at the root or above others that pass, whatever the view
    before was.  When the tags are removed then, the wrapper makes no difference to the records of the
    subject any more.  In the container a number stands for one record, as it does where the records have
    been handed out. -/
theorem hide_conceals {registry : Registry} (hr : registry.SupportsWrapper)
    (settings : Query.Settings) (w : World) {selection : List Record} {uri : String} {x : Subject}
    (hselected : ∃ r ∈ selection, r.reference = some { uri })
    (hx : w.store.subjects.get? uri = some x)
    (hadd : w.store.refused? .addTag uri = none) (htags : w.store.refused? .tags uri = none)
    {c : Container} (hc : Record.Coherent c.records) :
    let hidden := ((Action.hide settings.hiddenTag).invoke selection w).2.store
    (∀ text f, Query.build { settings with useWrapper := true } registry text = .ok f →
      ∀ cache,
        (let view := c.filtered hidden f cache
         view.1.Conceals (f.keeps hidden view.2) uri) ∧
        ∀ root before, c = .tree root →
          let view := filterTree hidden f before cache root
          (Container.tree view.1).Conceals (f.keeps hidden view.2) uri) ∧
    ∀ (w' : World) (selection' : List Record), w'.store = hidden →
      (∃ r ∈ selection', r.reference = some { uri }) →
      hidden.refused? .removeStatements uri = none → settings.hiddenTag ≠ "" →
      let untagged := (Action.removeTags.invoke selection' w').2.store
      ∀ text wrapped plain,
        Query.build { settings with useWrapper := true } registry text = .ok wrapped →
        Query.build { settings with useWrapper := false } registry text = .ok plain →
        ∀ cache, ∀ r ∈ c.records, r.reference = some { uri } →
          let seen := r.read (c.refresh untagged cache)
          wrapped.accepts untagged seen = plain.accepts untagged seen := by
  intro hidden
  have hedited : Store.Edited _ w.store hidden := edited_hide selection w settings.hiddenTag
  have htold : hidden.refused? .tags uri = none := by rw [hedited.refused?, htags]
  have hpresent := hedited.get? uri
  rw [hx, Option.map_some] at hpresent
  refine ⟨fun text f hf cache => ?_, ?_⟩
  · obtain ⟨r₀, hr₀, hreference₀⟩ := hselected
    have hreaches : r₀ ∈ selection.filter (Record.reaches w.store .addTag uri) :=
      List.mem_filter.2 ⟨hr₀, Record.reaches_iff.2 ⟨hreference₀, hadd⟩⟩
    -- The hidden tag is among those that the container finds.
    have hfails : ∀ r ∈ c.records, r.reference = some { uri } →
        f.keeps hidden (c.refresh hidden cache) r = false := by
      intro r hmem hreference
      refine Query.accepts_of_hidden hr hf hidden ⟨{ name := settings.hiddenTag }, ?_, rfl⟩
      rw [tags_read_refresh hc hpresent htold cache hmem hreference]
      exact List.mem_append_right _ (List.mem_map_of_mem hreaches)
    refine ⟨conceals_filtered hfails, ?_⟩
    rintro root before rfl
    exact conceals_filterTree before hfails
  · intro w' selection' hw' hselected' hremove hnonempty untagged text wrapped plain hwrapped hplain
      cache r hmem hreference seen
    have hremoved : Store.Edited _ w'.store untagged := edited_removeTags selection' w'
    rw [hw'] at hremoved
    have hany : selection'.any (Record.reaches hidden .removeStatements uri) = true := by
      obtain ⟨r', hr', hreference'⟩ := hselected'
      exact List.any_eq_true.2 ⟨r', hr', Record.reaches_iff.2 ⟨hreference', hremove⟩⟩
    have hpresent' := hremoved.get? uri
    rw [hpresent, Option.map_some, if_pos hany] at hpresent'
    have htold' : untagged.refused? .tags uri = none := by rw [hremoved.refused?, htold]
    have hseen : seen.tags = [] := tags_read_refresh hc hpresent' htold' cache hmem hreference
    exact Query.accepts_of_untagged hr hwrapped hplain hnonempty untagged hseen

/-- A record is hidden, and found again when its tags are removed; another one stays in sight. -/
theorem hide_conceals_letter :
    let letter : Record := { id := 0, display := "letter", reference := some { uri := "urn:letter" } }
    let note : Record := { id := 1, display := "note" }
    let c : Container := .list [letter, note]
    let w : World := { store := { subjects := Dict.empty.insert "urn:letter" {} } }
    let hidden := ((Action.hide "hidden").invoke [letter] w).2
    let untagged := (Action.removeTags.invoke [letter] hidden).2.store
    let f : Filter := .and [Query.visible "hidden"]
    let view := c.filtered hidden.store f {}
    Query.build {} Query.tagRegistry " " = .ok f ∧
      view.1.Conceals (f.keeps hidden.store view.2) "urn:letter" ∧ view.1 = .list [note] ∧
      f.accepts untagged (letter.read (c.refresh untagged {})) = true := by
  intro letter note c w hidden untagged f view
  have hselected : ∃ r ∈ [letter], r.reference = some { uri := "urn:letter" } :=
    ⟨letter, List.mem_singleton_self letter, rfl⟩
  have hc : Record.Coherent c.records := by
    unfold Record.Coherent
    decide
  obtain ⟨hviews, hlater⟩ := hide_conceals Query.supportsWrapper_tagRegistry {} w hselected rfl rfl
    rfl hc
  refine ⟨rfl, (hviews " " f rfl {}).1, rfl, ?_⟩
  exact hlater hidden [letter] rfl hselected rfl (by decide) " " f .all rfl rfl {} letter
    List.mem_cons_self rfl

end Stocktake
