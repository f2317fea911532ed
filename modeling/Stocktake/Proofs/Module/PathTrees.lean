import Stocktake.Proofs.Module.Ordering
import Mathlib.Data.List.Induction

/-!
# The nodes of a tree of paths

The tree of entries at paths is the trie of their segments: a list of names is a node if the
segments of some entry start with it.  A trie is looked at through its nodes (`find?`) and its
entries (`entryAt`), and an ordered one is determined by them (`Ordered.ext`); so where no two
entries are at the same place, their order does not count.  Main statements: `find?_insert` says
what one insertion does, `isSome_find?_ofEntries` and `entryAt_ofEntries` what all of them leave,
and `pathTree_nodes` what the tree looks like at every node.
-/

namespace Stocktake

namespace Dict

variable {α : Type}

theorem eq_singleton_of_isSome_lookup {key : String} {l : List (String × α)}
    (h : l.Pairwise fun x y => x.1 < y.1) (hkeys : ∀ k, (lookup k l).isSome ↔ k = key) :
    ∃ value, l = [(key, value)] := by
  have hkey : ∀ x ∈ l, x.1 = key := fun x hx =>
    (hkeys x.1).1 (isSome_lookup.2 (List.mem_map_of_mem hx))
  match l, h with
  | [], _ => simpa [lookup] using hkeys key
  | [(k, v)], _ => exact ⟨v, by rw [← hkey (k, v) List.mem_cons_self]⟩
  | x :: y :: rest, h =>
    have hlt := (List.pairwise_cons.1 h).1 y List.mem_cons_self
    rw [hkey x List.mem_cons_self, hkey y (List.mem_cons_of_mem _ List.mem_cons_self)] at hlt
    exact absurd hlt (string_lt_irrefl key)

end Dict

namespace PathTrie

variable {α : Type}

/-- The trie that a path leads to. -/
def find? : (path : List String) → PathTrie α → Option (PathTrie α)
  | [], t => some t
  | name :: path, t => (Dict.lookup name t.tries).bind (find? path)

/-- The entry at a path. -/
def entryAt (path : List String) (t : PathTrie α) : Option α := (t.find? path).bind entry

/-- Below every node the names are in strictly increasing order. -/
inductive Ordered : PathTrie α → Prop
  | node {e : Option α} {ts : List (String × PathTrie α)}
      (sorted : ts.Pairwise fun x y => x.1 < y.1) (below : ∀ x ∈ ts, Ordered x.2) :
      Ordered (.node e ts)

section Lookup

theorem find?_cons (name : String) (path : List String) (e : Option α)
    (ts : List (String × PathTrie α)) :
    find? (name :: path) (.node e ts) = (Dict.lookup name ts).bind (find? path) := rfl

theorem find?_singleton (name : String) (t : PathTrie α) :
    find? [name] t = Dict.lookup name t.tries := Option.bind_fun_some _

theorem find?_append (path path' : List String) (t : PathTrie α) :
    find? (path ++ path') t = (find? path t).bind (find? path') := by
  induction path generalizing t with
  | nil => rfl
  | cons name path ih =>
    rw [List.cons_append, find?, find?, Option.bind_assoc]
    exact congrArg _ (funext ih)

theorem isSome_find?_empty (path : List String) :
    ((empty : PathTrie α).find? path).isSome ↔ path = [] := by
  cases path with
  | nil => simp [find?]
  | cons name path => simp [find?, empty, tries, Dict.lookup]

theorem entryAt_empty (path : List String) : (empty : PathTrie α).entryAt path = none := by
  cases path with
  | nil => rfl
  | cons name path => rfl

end Lookup

section Order

theorem ordered_empty : Ordered (empty : PathTrie α) := .node .nil fun _ hx => nomatch hx

theorem Ordered.sorted_tries {t : PathTrie α} (h : t.Ordered) :
    t.tries.Pairwise fun x y => x.1 < y.1 := by
  cases h with
  | node sorted below => exact sorted

theorem Ordered.of_lookup {t u : PathTrie α} {name : String} (h : t.Ordered)
    (hu : Dict.lookup name t.tries = some u) : u.Ordered := by
  cases h with
  | node sorted below => exact below _ (Dict.mem_of_lookup hu)

theorem Ordered.find? {t u : PathTrie α} {path : List String} (h : t.Ordered)
    (hu : t.find? path = some u) : u.Ordered := by
  induction path generalizing t with
  | nil =>
    cases hu
    exact h
  | cons name path ih =>
    obtain ⟨v, hv, hrest⟩ := Option.bind_eq_some_iff.1 hu
    exact ih (h.of_lookup hv) hrest

/-- An ordered trie is determined by its nodes and their entries. -/
theorem Ordered.ext {t u : PathTrie α} (ht : t.Ordered) (hu : u.Ordered)
    (hnodes : ∀ path, (t.find? path).isSome = (u.find? path).isSome)
    (hentries : ∀ path, t.entryAt path = u.entryAt path) : t = u := by
  induction ht generalizing u with
  | @node e ts sorted below ih =>
    cases hu with
    | @node e' us sorted' below' =>
      have hentry : e = e' := hentries []
      have htries : ts = us := by
        refine Dict.lookup_ext sorted sorted' fun name => ?_
        have hname := hnodes [name]
        simp only [find?_cons] at hname
        cases hv : Dict.lookup name ts with
        | none =>
          rw [hv] at hname
          cases hw : Dict.lookup name us with
          | none => rfl
          | some w => simp [hw, PathTrie.find?] at hname
        | some v =>
          rw [hv] at hname
          cases hw : Dict.lookup name us with
          | none => simp [hw, PathTrie.find?] at hname
          | some w =>
            have hvw : v = w := by
              refine ih (name, v) (Dict.mem_of_lookup hv) (below' _ (Dict.mem_of_lookup hw))
                (fun path => ?_) (fun path => ?_)
              · simpa [find?_cons, hv, hw] using hnodes (name :: path)
              · simpa [entryAt, find?_cons, hv, hw] using hentries (name :: path)
            rw [hvw]
      rw [hentry, htries]

end Order

section Insertion

theorem alter_eq_put (name : String) (change : Option (PathTrie α) → PathTrie α)
    {ts : List (String × PathTrie α)} (h : ts.Pairwise fun x y => x.1 < y.1) :
    alter name change ts = Dict.put name (change (Dict.lookup name ts)) ts := by
  induction ts with
  | nil => rfl
  | cons x ts ih =>
    obtain ⟨n, t⟩ := x
    rw [alter, Dict.put]
    split
    · rename_i hlt
      rw [Dict.lookup_eq_none_of_lt_head h hlt]
    · split
      · rename_i he
        rw [he, Dict.lookup, if_pos rfl]
      · rename_i hne
        rw [ih (List.pairwise_cons.1 h).2, Dict.lookup, if_neg hne]

theorem Ordered.insert (a : α) (path : List String) {t : PathTrie α} (h : t.Ordered) :
    (t.insert a path).Ordered := by
  induction path generalizing t with
  | nil =>
    cases h with
    | node sorted below => exact .node sorted below
  | cons name path ih =>
    cases h with
    | @node e ts sorted below =>
      rw [PathTrie.insert, alter_eq_put _ _ sorted]
      refine .node (Dict.put_sorted _ _ sorted) fun x hx => ?_
      rcases Dict.mem_put hx with rfl | hx
      · cases hv : Dict.lookup name ts with
        | none => exact ih ordered_empty
        | some v => exact ih (below _ (Dict.mem_of_lookup hv))
      · exact below x hx

/-- An insertion changes the nodes on the way to its path and makes those that are missing. -/
theorem find?_insert (a : α) (path s : List String) {t : PathTrie α} (h : t.Ordered) :
    (t.insert a path).find? s =
      if s <+: path then some (((t.find? s).getD empty).insert a (path.drop s.length))
      else t.find? s := by
  induction path generalizing s t with
  | nil =>
    cases h with
    | node sorted below =>
      cases s with
      | nil => simp [PathTrie.find?]
      | cons x s => simp [PathTrie.insert, find?_cons]
  | cons name path ih =>
    cases h with
    | @node e ts sorted below =>
      cases s with
      | nil => simp [PathTrie.find?]
      | cons x s =>
        rw [PathTrie.insert, alter_eq_put _ _ sorted, find?_cons, find?_cons,
          Dict.lookup_put]
        by_cases hx : x = name
        · subst hx
          rw [if_pos rfl, Option.bind_some]
          cases hv : Dict.lookup x ts with
          | none =>
            rw [Option.getD_none, ih s ordered_empty]
            cases s with
            | nil => simp [PathTrie.find?]
            | cons y s =>
              simp [List.cons_prefix_cons, PathTrie.find?, empty, tries, Dict.lookup]
          | some v =>
            rw [Option.getD_some, ih s (below _ (Dict.mem_of_lookup hv))]
            simp [List.cons_prefix_cons]
        · rw [if_neg hx, if_neg fun hp => hx (List.cons_prefix_cons.1 hp).1]

theorem isSome_find?_insert (a : α) (path s : List String) {t : PathTrie α} (h : t.Ordered) :
    ((t.insert a path).find? s).isSome ↔ s <+: path ∨ (t.find? s).isSome := by
  rw [find?_insert a path s h]
  by_cases hs : s <+: path
  · simp [hs]
  · simp [hs]

theorem entry_insert (a : α) (path : List String) (t : PathTrie α) :
    (t.insert a path).entry = if path = [] then some a else t.entry := by
  cases t with
  | node e ts =>
    cases path with
    | nil => rfl
    | cons name path => rfl

theorem entryAt_insert (a : α) (path s : List String) {t : PathTrie α} (h : t.Ordered) :
    (t.insert a path).entryAt s = if path = s then some a else t.entryAt s := by
  rw [entryAt, find?_insert a path s h]
  by_cases hs : s <+: path
  · obtain ⟨rest, rfl⟩ := hs
    rw [if_pos (List.prefix_append s rest), Option.bind_some, entry_insert, List.drop_left]
    have hentry : ((t.find? s).getD empty).entry = t.entryAt s := by
      rw [entryAt]
      cases t.find? s with
      | none => rfl
      | some u => rfl
    rw [hentry]
    simp
  · have hne : path ≠ s := fun e => hs (e ▸ List.prefix_refl s)
    rw [if_neg hs, if_neg hne]
    rfl

end Insertion

section Entries

variable (entries : List (String × α))

theorem ofEntries_concat (e : String × α) :
    ofEntries (entries ++ [e]) = (ofEntries entries).insert e.2 (Text.segments e.1) := by
  rw [ofEntries, List.foldl_append]
  rfl

theorem ordered_ofEntries : (ofEntries entries).Ordered := by
  induction entries using List.reverseRecOn with
  | nil => exact ordered_empty
  | append_singleton es e ih =>
    rw [ofEntries_concat]
    exact ih.insert _ _

/-- The nodes are the starts of the segments of entries. -/
theorem isSome_find?_ofEntries (s : List String) :
    ((ofEntries entries).find? s).isSome ↔ s = [] ∨ ∃ e ∈ entries, s <+: Text.segments e.1 := by
  induction entries using List.reverseRecOn with
  | nil => simpa [ofEntries] using isSome_find?_empty s
  | append_singleton es e ih =>
    rw [ofEntries_concat, isSome_find?_insert _ _ _ (ordered_ofEntries es), ih]
    simp only [List.mem_append, List.mem_singleton, or_and_right, exists_or, exists_eq_left]
    rw [or_comm, or_assoc]

/-- Of the entries with the same segments the last one counts. -/
theorem entryAt_ofEntries (s : List String) :
    (ofEntries entries).entryAt s =
      (entries.reverse.find? fun e => Text.segments e.1 = s).map Prod.snd := by
  induction entries using List.reverseRecOn with
  | nil => exact entryAt_empty s
  | append_singleton es e ih =>
    rw [ofEntries_concat, entryAt_insert _ _ _ (ordered_ofEntries es), ih, List.reverse_append,
      List.reverse_singleton, List.singleton_append, List.find?_cons]
    by_cases he : Text.segments e.1 = s
    · simp [he]
    · simp [he]

end Entries

section Trees

variable (plain : String → α)

theorem toTrees_eq_map (ts : List (String × PathTrie α)) :
    toTrees plain ts = ts.map fun x => toTree plain x.1 x.2 := by
  induction ts with
  | nil => rfl
  | cons x ts ih => rw [toTrees, ih, List.map_cons]

theorem content_toTree (name : String) (t : PathTrie α) :
    (t.toTree plain name).content = t.entry.getD (plain name) := by
  cases t
  rfl

theorem expanded_toTree (name : String) (t : PathTrie α) :
    (t.toTree plain name).expanded = false := by
  cases t
  rfl

theorem children_toTree (name : String) (t : PathTrie α) :
    (t.toTree plain name).children = t.tries.map fun x => toTree plain x.1 x.2 := by
  cases t
  exact toTrees_eq_map plain _

end Trees

end PathTrie

section Nodes

variable {α : Type} (plain : String → α) (root : String) (entries : List (String × α))

/-- The node of a list of names in the tree of entries that still has its root. -/
def nodeAt (path : List String) : Option (Tree α) :=
  ((PathTrie.ofEntries entries).find? path).map (PathTrie.toTree plain (path.getLastD root))

theorem isSome_nodeAt (path : List String) :
    (nodeAt plain root entries path).isSome ↔
      path = [] ∨ ∃ e ∈ entries, path <+: Text.segments e.1 := by
  rw [nodeAt, Option.isSome_map]
  exact PathTrie.isSome_find?_ofEntries entries path

theorem content_of_nodeAt {path : List String} {t : Tree α}
    (h : nodeAt plain root entries path = some t) :
    t.content = ((entries.reverse.find? fun e => Text.segments e.1 = path).map Prod.snd).getD
      (plain (path.getLastD root)) := by
  obtain ⟨u, hu, rfl⟩ := Option.map_eq_some_iff.1 h
  rw [PathTrie.content_toTree, ← PathTrie.entryAt_ofEntries, PathTrie.entryAt, hu,
    Option.bind_some]

theorem expanded_of_nodeAt {path : List String} {t : Tree α}
    (h : nodeAt plain root entries path = some t) : t.expanded = false := by
  obtain ⟨u, -, rfl⟩ := Option.map_eq_some_iff.1 h
  exact PathTrie.expanded_toTree plain _ u

/-- The children of a node are the nodes with one more name, by these names. -/
theorem children_of_nodeAt {path : List String} {t : Tree α}
    (h : nodeAt plain root entries path = some t) :
    ∃ names : List String, names.Pairwise (· < ·) ∧
      (∀ x, x ∈ names ↔ (nodeAt plain root entries (path ++ [x])).isSome) ∧
      t.children.map some = names.map fun x => nodeAt plain root entries (path ++ [x]) := by
  obtain ⟨u, hu, rfl⟩ := Option.map_eq_some_iff.1 h
  have hsorted := ((PathTrie.ordered_ofEntries entries).find? hu).sorted_tries
  have hbelow (x : String) : (PathTrie.ofEntries entries).find? (path ++ [x]) =
      Dict.lookup x u.tries := by
    rw [PathTrie.find?_append, hu, Option.bind_some, PathTrie.find?_singleton]
  refine ⟨u.tries.map Prod.fst, List.pairwise_map.2 hsorted, fun x => ?_, ?_⟩
  · rw [nodeAt, Option.isSome_map, hbelow, Dict.isSome_lookup]
  · rw [PathTrie.children_toTree, List.map_map, List.map_map]
    refine List.map_congr_left fun x hx => ?_
    simp only [Function.comp, nodeAt, hbelow, Dict.lookup_of_mem hsorted hx, Option.map_some,
      List.getLastD_concat]

/-- Below the root of the trie stands what it leads to; its own entry is that of no name. -/
theorem ofEntries_eq_of_sole {x : String} (hpaths : ∀ e ∈ entries, Text.segments e.1 ≠ [])
    (hsole : ∀ y, (nodeAt plain root entries [y]).isSome ↔ y = x) :
    ∃ only, PathTrie.ofEntries entries = .node none [(x, only)] := by
  have hentry := PathTrie.entryAt_ofEntries entries []
  have hordered := PathTrie.ordered_ofEntries entries
  have hnone : (entries.reverse.find? fun e => Text.segments e.1 = []) = none :=
    List.find?_eq_none.2 fun e he => by simpa using hpaths e (List.mem_reverse.1 he)
  rw [hnone] at hentry
  simp only [nodeAt, Option.isSome_map, PathTrie.find?_singleton] at hsole
  cases htrie : PathTrie.ofEntries entries with
  | node e ts =>
    rw [htrie] at hentry hordered hsole
    obtain ⟨only, rfl⟩ := Dict.eq_singleton_of_isSome_lookup hordered.sorted_tries hsole
    obtain rfl : e = none := hentry
    exact ⟨only, rfl⟩

theorem pathTree_of_sole {x : String} (hpaths : ∀ e ∈ entries, Text.segments e.1 ≠ [])
    (hsole : ∀ y, (nodeAt plain root entries [y]).isSome ↔ y = x) :
    nodeAt plain root entries [x] = some (pathTree plain root entries) := by
  obtain ⟨only, htrie⟩ := ofEntries_eq_of_sole plain root entries hpaths hsole
  rw [pathTree, nodeAt, htrie]
  simp [PathTrie.find?, PathTrie.tries, Dict.lookup]

theorem pathTree_of_root
    (h : (∃ e ∈ entries, Text.segments e.1 = []) ∨
      ¬ ∃ x, ∀ y, (nodeAt plain root entries [y]).isSome ↔ y = x) :
    nodeAt plain root entries [] = some (pathTree plain root entries) := by
  rw [pathTree]
  split
  · rename_i name only htrie
    exfalso
    rcases h with ⟨e, he, hsegments⟩ | hmany
    · have hentry := PathTrie.entryAt_ofEntries entries []
      rw [htrie] at hentry
      have hnone := List.find?_eq_none.1 (Option.map_eq_none_iff.1 hentry.symm)
      exact hnone e (List.mem_reverse.2 he) (by simpa using hsegments)
    · refine hmany ⟨name, fun y => ?_⟩
      rw [nodeAt, htrie, Option.isSome_map, PathTrie.find?_singleton, Dict.isSome_lookup]
      simp [PathTrie.tries]
  · rfl

/-- Entries at different places may come in any order. -/
theorem pathTree_perm {entries entries' : List (String × α)} (h : entries.Perm entries')
    (hplaces : (entries.map fun e => Text.segments e.1).Nodup) :
    pathTree plain root entries = pathTree plain root entries' := by
  have htrie : PathTrie.ofEntries entries = PathTrie.ofEntries entries' := by
    refine (PathTrie.ordered_ofEntries entries).ext (PathTrie.ordered_ofEntries entries')
      (fun path => ?_) (fun path => ?_)
    · rw [Bool.eq_iff_iff, PathTrie.isSome_find?_ofEntries, PathTrie.isSome_find?_ofEntries]
      simp only [h.mem_iff]
    · rw [PathTrie.entryAt_ofEntries, PathTrie.entryAt_ofEntries]
      have hreverse : entries.reverse.Perm entries'.reverse :=
        entries.reverse_perm.trans (h.trans entries'.reverse_perm.symm)
      rw [find?_eq_find?_of_perm hreverse (by simpa using hplaces)]
  rw [pathTree, pathTree, htrie]

end Nodes

/-- The tree of records at paths.  Before its root is left out, the nodes are the starts of the
    segments; a node holds the last record that is at it, or else a plain one, is collapsed, and has
    the nodes with one more name below it in the order of these names.  The root is left out if no
    record is at it and it leads to one name only, and stays otherwise.  The order of records at
    different places does not count. -/
theorem pathTree_nodes (root : String) (entries : List (String × Draft)) :
    let node := nodeAt plainDraft root entries
    (∀ path, (node path).isSome ↔ path = [] ∨ ∃ e ∈ entries, path <+: Text.segments e.1) ∧
    (∀ path t, node path = some t →
      t.content = ((entries.reverse.find? fun e => Text.segments e.1 = path).map Prod.snd).getD
        { display := path.getLastD root } ∧
      t.expanded = false ∧
      ∃ names : List String, names.Pairwise (fun x y => Text.octets x < Text.octets y) ∧
        (∀ x, x ∈ names ↔ (node (path ++ [x])).isSome) ∧
        t.children.map some = names.map fun x => node (path ++ [x])) ∧
    (∀ x, (∀ e ∈ entries, Text.segments e.1 ≠ []) → (∀ y, (node [y]).isSome ↔ y = x) →
      node [x] = some (pathTree plainDraft root entries)) ∧
    ((∃ e ∈ entries, Text.segments e.1 = []) ∨ (¬ ∃ x, ∀ y, (node [y]).isSome ↔ y = x) →
      node [] = some (pathTree plainDraft root entries)) ∧
    ∀ entries', entries.Perm entries' → (entries.map fun e => Text.segments e.1).Nodup →
      pathTree plainDraft root entries = pathTree plainDraft root entries' := by
  refine ⟨isSome_nodeAt plainDraft root entries, fun path t ht => ?_,
    fun x => pathTree_of_sole plainDraft root entries, pathTree_of_root plainDraft root entries,
    fun entries' => pathTree_perm plainDraft root⟩
  obtain ⟨names, hsorted, hmem, hchildren⟩ := children_of_nodeAt plainDraft root entries ht
  exact ⟨content_of_nodeAt plainDraft root entries ht,
    expanded_of_nodeAt plainDraft root entries ht,
    names, hsorted.imp Text.octets_lt_octets, hmem, hchildren⟩

theorem pathTree_nodes_etc :
    let entries : List (String × Draft) :=
      [("/etc/ssh/sshd_config", { display := "sshd_config" }),
        ("etc//passwd/", { display := "passwd" })]
    nodeAt plainDraft "/" entries ["etc"] = some (pathTree plainDraft "/" entries) ∧
      pathTree plainDraft "/" entries = pathTree plainDraft "/" entries.reverse := by
  intro entries
  have hsegments : entries.map (fun e => Text.segments e.1) =
      [["etc", "ssh", "sshd_config"], ["etc", "passwd"]] := by decide +kernel
  obtain ⟨hnodes, -, hsole, -, hperm⟩ := pathTree_nodes "/" entries
  refine ⟨hsole "etc" (by decide +kernel) fun y => ?_,
    hperm entries.reverse entries.reverse_perm.symm (by rw [hsegments]; decide)⟩
  have hstarts : (∃ e ∈ entries, [y] <+: Text.segments e.1) ↔
      ∃ s ∈ entries.map (fun e => Text.segments e.1), [y] <+: s := by
    simp only [List.mem_map, exists_exists_and_eq_and]
  rw [hnodes, hstarts, hsegments]
  simp [List.cons_prefix_cons]

end Stocktake
