import Stocktake.Proofs.Container.Expansion

/-!
# Views and stale tags

A view shows its container at kept places: of a list or a table the records that pass, and of a tree the
nodes on the way to one.  Before anything is kept the tags are looked up, so what is kept depends on the
old tags only where the store tells none.  Main statement: `filtered_fresh`.
-/

namespace Stocktake

namespace Tree

variable {α : Type} {same : α → α → Bool}

theorem allCollapsed_node (c : α) (e : Bool) (ts : List (Tree α)) :
    (node c e ts).allCollapsed = node c false (ts.map allCollapsed) := by
  rw [allCollapsed, withFlags, copied, copiedFrom_withFlags]

theorem contents_allCollapsed (t : Tree α) : t.allCollapsed.contents = t.contents := by
  induction t using childInduction with
  | node c e ts ih =>
    rw [allCollapsed_node, contents_node, contents_node, List.flatMap_map]
    exact congrArg (c :: ·) (List.flatMap_congr ih)

theorem subtreeAt_allCollapsed (t : Tree α) (p : List Nat) :
    t.allCollapsed.subtreeAt p = (t.subtreeAt p).map allCollapsed := by
  induction p generalizing t with
  | nil => rfl
  | cons i p ih =>
    obtain ⟨c, e, ts⟩ := t
    rw [allCollapsed_node, subtreeAt_cons, subtreeAt_cons, List.getElem?_map]
    cases ts[i]? with
    | none => rfl
    | some child => exact ih child

/-- Taking over flags changes nothing but flags. -/
theorem allCollapsed_restored (old t : Tree α) :
    (restored same old t).allCollapsed = t.allCollapsed := by
  induction t using childInduction generalizing old with
  | node c e ts ih =>
    rw [restored, restoredList_eq, allCollapsed_node, allCollapsed_node, List.map_map]
    refine congrArg (node c false) (List.map_congr_left fun t ht => ?_)
    rw [Function.comp_apply]
    cases old.children.find? fun before => same before.content t.content with
    | none => rfl
    | some before => exact ih t ht before

theorem allCollapsed_carryOver (before : Option (Tree α)) (t : Tree α) :
    (t.carryOver same before).allCollapsed = t.allCollapsed := by
  cases before with
  | none => rfl
  | some old =>
    rw [carryOver]
    split
    · exact allCollapsed_restored old t
    · rfl

/-- In a view every node below the root is wanted or stands above a wanted one, whatever flags it has
    taken over. -/
theorem anyNode_of_subtreeAt_carryOver {wanted : α → Bool} {before : Option (Tree α)} {t s : Tree α}
    {p : List Nat} (hp : p ≠ [])
    (hs : ((t.pruned wanted).carryOver same before).subtreeAt p = some s) :
    s.anyNode wanted = true := by
  have hcollapsed : (t.pruned wanted).allCollapsed.subtreeAt p = some s.allCollapsed := by
    rw [← allCollapsed_carryOver before (t.pruned wanted), subtreeAt_allCollapsed, hs]
    rfl
  rw [subtreeAt_allCollapsed] at hcollapsed
  obtain ⟨s', hs', hsame⟩ := Option.map_eq_some_iff.1 hcollapsed
  rw [anyNode_eq, ← contents_allCollapsed, ← hsame, contents_allCollapsed, ← anyNode_eq]
  exact anyNode_of_subtreeAt_pruned wanted hp hs'

end Tree

/-- The records of a list at the kept places.  A place is an index. -/
def recordsAt (kept : List Nat → Bool) (rs : List Record) : List Record :=
  (rs.zipIdx.filter fun x => kept [x.2]).map Prod.fst

/-- Whether a record that passes stands at a place of a list. -/
def passesAt (passes : Record → Bool) (rs : List Record) : List Nat → Bool
  | [i] => rs[i]?.any passes
  | _ => false

theorem recordsAt_passesAt (passes : Record → Bool) (rs : List Record) :
    recordsAt (passesAt passes rs) rs = rs.filter passes := by
  have hpasses : ∀ x ∈ rs.zipIdx, passesAt passes rs [x.2] = passes x.1 := by
    rintro ⟨r, i⟩ hx
    rw [passesAt, List.mk_mem_zipIdx_iff_getElem?.1 hx, Option.any_some]
  have hfilter : rs.zipIdx.filter (fun x => passesAt passes rs [x.2]) =
      rs.zipIdx.filter (passes ∘ Prod.fst) := List.filter_congr hpasses
  rw [recordsAt, hfilter, ← List.filter_map, List.zipIdx_map_fst]

namespace Container

/-- What a container shows at the kept places, the columns of a table included.  The root of a tree is
    always shown, and a place below it if those on the way to it are kept; all of it is collapsed. -/
def shownAt (kept : List Nat → Bool) : Container → Container
  | .list rs => .list (recordsAt kept rs)
  | .table t => .table { t with records := recordsAt kept t.records }
  | .tree root => .tree (root.copied kept fun _ => false)

/-- Whether something that passes stands at a place or, in a tree, below it. -/
def holdsPassing (passes : Record → Bool) : Container → List Nat → Bool
  | .list rs, p => passesAt passes rs p
  | .table t, p => passesAt passes t.records p
  | .tree root, p => root.anyAt passes p

theorem filtered_eq (store : Store) (f : Filter) (cache : TagCache) (c : Container) :
    c.filtered store f cache =
      let looked := c.refresh store cache
      (c.shownAt (c.holdsPassing (f.keeps store looked)), looked) := by
  cases c with
  | list rs => exact congrArg (fun l => (list l, _)) (recordsAt_passesAt _ rs).symm
  | table t =>
    exact congrArg (fun l => (table { t with records := l }, _)) (recordsAt_passesAt _ t.records).symm
  | tree root => rw [filtered, filterTree_eq]; rfl

/-- Where the same records pass, the same places are kept. -/
theorem holdsPassing_congr {passes passes' : Record → Bool} {c : Container}
    (h : ∀ r ∈ c.records, passes r = passes' r) : c.holdsPassing passes = c.holdsPassing passes' := by
  have hat : ∀ rs : List Record, (∀ r ∈ rs, passes r = passes' r) → ∀ p,
      passesAt passes rs p = passesAt passes' rs p := by
    intro rs hrs p
    rcases p with _ | ⟨i, _ | ⟨j, p⟩⟩
    · rfl
    · rw [passesAt, passesAt]
      cases hget : rs[i]? with
      | none => rfl
      | some r => exact hrs r (List.mem_of_getElem? hget)
    · rfl
  funext p
  cases c with
  | list rs => exact hat rs h p
  | table t => exact hat t.records h p
  | tree root =>
    rw [holdsPassing, holdsPassing, Bool.eq_iff_iff, Tree.anyAt_iff, Tree.anyAt_iff]
    refine exists_congr fun q => exists_congr fun s => and_congr_right fun hs => ?_
    rw [h s.content (Tree.mem_contents.2 ⟨p ++ q, s, hs, rfl⟩)]

end Container

/-- Old tags that agree where the store tells none are as good as each other: by them the same places of
    a container are kept, and every record has the same tags after that, those told of it if there are
    any.  A tree that is filtered again keeps these places too, whatever the earlier views. -/
theorem filtered_fresh (store : Store) (f : Filter) (c : Container) {cache cache' : TagCache}
    (h : ∀ r ∈ c.records, r.told store = none → cache.get r.id = cache'.get r.id) :
    let looked := c.refresh store cache
    let looked' := c.refresh store cache'
    let kept := c.holdsPassing (f.keeps store looked)
    c.filtered store f cache = (c.shownAt kept, looked) ∧
      c.filtered store f cache' = (c.shownAt kept, looked') ∧
      (∀ r ∈ c.records, looked.get r.id = looked'.get r.id) ∧
      (Record.Coherent c.records →
        ∀ r ∈ c.records, looked.get r.id = (r.told store).getD (cache.get r.id)) ∧
      ∀ root before before', c = .tree root →
        (filterTree store f before cache root).1.allCollapsed = root.copied kept (fun _ => false) ∧
        (filterTree store f before' cache' root).1.allCollapsed =
          root.copied kept fun _ => false := by
  intro looked looked' kept
  have hget : ∀ r ∈ c.records, looked.get r.id = looked'.get r.id :=
    fun r hr => Record.get_refreshAll_congr h hr
  have hkept : c.holdsPassing (f.keeps store looked') = kept := by
    refine Container.holdsPassing_congr fun r hr => ?_
    rw [Filter.keeps, Filter.keeps, Record.read, Record.read, hget r hr]
  refine ⟨Container.filtered_eq store f cache c, ?_, hget, ?_, ?_⟩
  · rw [← hkept]
    exact Container.filtered_eq store f cache' c
  · intro hc r hr
    exact hc.get_refreshAll store cache hr
  · rintro root before before' rfl
    have htree : ∀ tags earlier, (filterTree store f earlier tags root).1.allCollapsed =
        root.copied (root.anyAt (f.keeps store (Record.refreshAll store tags root.contents)))
          fun _ => false := by
      intro tags earlier
      rw [filterTree_eq, Tree.allCollapsed_carryOver, Tree.allCollapsed_copied]
    refine ⟨htree cache before, ?_⟩
    rw [← hkept]
    exact htree cache' before'

/-- A store that tells the tags of one subject and refuses to tell those of another. -/
def taciturnStore : Store where
  subjects := Dict.empty.insert "urn:a" { tags := [⟨"hidden", ""⟩] }
  refusals := [(.tags, Dict.empty.insert "urn:b" (.query "no answer"))]

/-- Of a record that stands twice in a list, only the old tags differ. -/
theorem filtered_fresh_taciturnStore :
    let a : Record := { id := 0, display := "a", reference := some { uri := "urn:a" } }
    let b : Record := { id := 1, display := "b", reference := some { uri := "urn:b" } }
    let plain : Record := { id := 2, display := "plain" }
    let c : Container := .list [a, b, plain, a]
    let f : Filter := .not [.tag "hidden"]
    let cache : TagCache := ⟨#[[], [⟨"hidden", ""⟩], []]⟩
    let cache' : TagCache := ⟨#[[⟨"hidden", ""⟩], [⟨"hidden", ""⟩], []]⟩
    (∀ r ∈ c.records, r.told taciturnStore = none → cache.get r.id = cache'.get r.id) ∧
      (c.filtered taciturnStore f cache).1 = .list [plain] ∧
      (c.filtered taciturnStore f cache').1 = .list [plain] := by
  intro a b plain c f cache cache'
  have h : ∀ r ∈ c.records, r.told taciturnStore = none → cache.get r.id = cache'.get r.id := by
    decide
  obtain ⟨here, there, -⟩ := filtered_fresh taciturnStore f c h
  exact ⟨h, congrArg Prod.fst here, congrArg Prod.fst there⟩

end Stocktake
