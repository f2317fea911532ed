import Stocktake.Proofs.Files.Walk

/-!
# Writing files

A file that is written at a path is read at that path: writing takes no directory away, so that the path
leads where it has led.  Main statement: `read?_write?`.
-/

namespace Stocktake.FileTree

variable {t t' : FileTree}

/-- All directories of one tree are in the other one. -/
def KeepsDirectories (t t' : FileTree) : Prop :=
  ∀ path es, t.at? path = some (.directory es) → ∃ es', t'.at? path = some (.directory es')

/-- Nothing is below what is no directory. -/
theorem exists_directory_of_at?_cons {s : FileTree} {name : FileName} {rest : List FileName}
    (h : t.at? (name :: rest) = some s) : ∃ es, t = .directory es := by
  cases t with
  | file octets => cases h
  | directory es => exact ⟨es, rfl⟩

theorem keepsDirectories_put? {x : FileTree} {names : List FileName}
    (hfree : ∀ es, t.at? names ≠ some (.directory es)) (hput : put? x names t = some t') :
    KeepsDirectories t t' := by
  intro path es hpath
  fun_induction FileTree.put? x names t generalizing t' path with
  | case1 => cases hput
  | case2 => cases hput
  | case3 name entries =>
    cases hput
    cases path with
    | nil => exact ⟨_, rfl⟩
    | cons other rest =>
      rw [at?_putEntry_cons]
      split
      · rename_i hname
        subst hname
        -- What was at the name was no directory, so there was nothing below it either.
        exfalso
        obtain ⟨below, hbelow, hrest⟩ := Option.bind_eq_some_iff.1 hpath
        have hsome : ∃ es, below = .directory es := by
          cases rest with
          | nil => exact ⟨es, Option.some.inj hrest⟩
          | cons next rest => exact exists_directory_of_at?_cons hrest
        obtain ⟨es', rfl⟩ := hsome
        refine hfree es' ?_
        rw [at?, hbelow]
        rfl
      · exact ⟨es, hpath⟩
  | case4 => cases hput
  | case5 name rest entries _ below hchild ih =>
    obtain ⟨changed, hbelow, rfl⟩ := Option.map_eq_some_iff.1 hput
    cases path with
    | nil => exact ⟨_, rfl⟩
    | cons other path =>
      rw [at?_putEntry_cons]
      split
      · rename_i hname
        subst hname
        rw [at?, hchild, Option.bind_some] at hpath
        refine ih (fun es' hes' => hfree es' ?_) hbelow path hpath
        rw [at?, hchild, Option.bind_some]
        exact hes'
      · exact ⟨es, hpath⟩

/-- Where all directories are kept, a path leads where it has led. -/
theorem follow_of_keepsDirectories (h : KeepsDirectories t t') {here parts names : List FileName}
    (hfollow : follow t here parts = some names) : follow t' here parts = some names := by
  induction parts generalizing here with
  | nil => exact hfollow
  | cons part parts ih =>
    rw [follow] at hfollow ⊢
    split at hfollow
    · rename_i es hes
      obtain ⟨es', hes'⟩ := h here es hes
      simp only [hes']
      split at hfollow
      · rename_i hstays
        rw [if_pos hstays]
        exact ih hfollow
      · rename_i hleads
        rw [if_neg hleads]
        split at hfollow
        · rename_i hup
          rw [if_pos hup]
          exact ih hfollow
        · rename_i hdown
          rw [if_neg hdown]
          exact ih hfollow
    · cases hfollow

theorem resolve?_of_keepsDirectories (h : KeepsDirectories t t') {here names : List FileName} {path : String}
    (hresolve : t.resolve? here path = some names) : t'.resolve? here path = some names := by
  rw [resolve?] at hresolve ⊢
  split at hresolve
  · cases hresolve
  · rename_i hsound
    rw [if_neg hsound]
    exact follow_of_keepsDirectories h hresolve

/-- What is written at a path is read there. -/
theorem read?_write? {here : List FileName} {path : String} {octets : List UInt8}
    (h : t.write? here path octets = some t') : t'.read? here path = some octets := by
  rw [write?] at h
  split at h
  · cases h
  · obtain ⟨names, hnames, hwrite⟩ := Option.bind_eq_some_iff.1 h
    split at hwrite
    · cases hwrite
    · rename_i hfree
      have hkeeps := keepsDirectories_put? hfree hwrite
      have hthere := at?_put? hwrite []
      rw [List.append_nil] at hthere
      rw [read?, resolve?_of_keepsDirectories hkeeps hnames, Option.bind_some, hthere]
      rfl

end Stocktake.FileTree
