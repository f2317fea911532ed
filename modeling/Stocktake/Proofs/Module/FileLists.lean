import Stocktake.Module.Packages
import Stocktake.Proofs.Text.Cuts

/-!
# Lines of file lists

A line tells a file of a package: the list in which the file stands, whose name is that of the package with
the architecture behind it, and the path.  The line is cut where `.list:` stands first.  This is behind the
name of the list, except where the name of the package itself ends with `.list` and is followed by an
architecture: then the line is not understood.  Main statements: `parseFileLine?_line` and
`listPackage_missed`.
-/

namespace Stocktake.Packages

/-- A character of the names of packages. -/
def isNameChar (c : Char) : Bool := c.isLower || c.isDigit || c = '+' || c = '-' || c = '.'

/-- A character of the names of architectures. -/
def isArchitectureChar (c : Char) : Bool := c.isAlphanum || c = '-'

/-- A file as a list tells it.  The architecture is left out where a package has only one. -/
structure ListedFile where
  package : String
  architecture : Option String
  path : String
  package_chars : package.toList.all isNameChar
  package_start : package.toList.head?.any fun c => c.isLower || c.isDigit
  architecture_chars : architecture.all fun a => a.toList.all isArchitectureChar
  path_start : Text.startsWith path "/"
  path_ne : path ≠ "/."

/-- The directory of the lists. -/
def listDirectory : String := "/var/lib/dpkg/info/"

namespace ListedFile

variable (f : ListedFile)

/-- What stands between the name of the package and the ending of the list. -/
def qualifier : String := f.architecture.elim "" (":" ++ ·)

/-- The line that tells the file. -/
def line : String := listDirectory ++ f.package ++ f.qualifier ++ ".list:" ++ f.path

/-- The name of the package looks like that of a list with a colon behind it. -/
def Misleads : Prop := f.architecture.isSome ∧ ".list".toList <:+ f.package.toList

instance : Decidable f.Misleads := inferInstanceAs (Decidable (_ ∧ _))

theorem slash_not_mem_package : '/' ∉ f.package.toList := by
  intro h
  exact absurd (List.all_eq_true.1 f.package_chars '/' h) (by decide)

theorem colon_not_mem_package : ':' ∉ f.package.toList := by
  intro h
  exact absurd (List.all_eq_true.1 f.package_chars ':' h) (by decide)

theorem package_ne_empty : f.package ≠ "" := by
  intro h
  have hstart := f.package_start
  rw [h] at hstart
  cases hstart

end ListedFile

/-- A line is understood if what stands before the cut is the name of the package, with nothing behind it or a
    colon and more. -/
theorem parseFileLine?_of_cut {line name path : String} {directory qualifier : List Char}
    (hcut : Text.splitOnce? ".list:".toList line.toList =
      some (directory ++ '/' :: (name.toList ++ qualifier), path.toList))
    (hslash : '/' ∉ name.toList ++ qualifier) (hcolon : ':' ∉ name.toList)
    (hqualifier : ∀ c ∈ qualifier.head?, c = ':') (hname : name ≠ "")
    (hpath : Text.startsWith path "/" = true) (hroot : path ≠ "/.") :
    parseFileLine? line = some (name, path) := by
  have hbase : Text.afterLast (· == '/') (directory ++ '/' :: (name.toList ++ qualifier)) =
      name.toList ++ qualifier := by
    apply Text.afterLast_append rfl
    intro d hd
    rw [beq_eq_false_iff_ne]
    rintro rfl
    exact hslash hd
  have hbehind : qualifier.takeWhile (· != ':') = [] := by
    cases qualifier with
    | nil => rfl
    | cons c rest => rw [hqualifier c rfl, List.takeWhile_cons_of_neg (by decide)]
  have hfree : ∀ c ∈ name.toList, (c != ':') = true := by
    intro c hc
    rw [bne_iff_ne]
    rintro rfl
    exact hcolon hc
  have hpackage : (name.toList ++ qualifier).takeWhile (· != ':') = name.toList := by
    rw [List.takeWhile_append_of_pos hfree, hbehind, List.append_nil]
  simp only [parseFileLine?, Text.cut?, hcut, Option.map_some, String.toList_ofList, hbase, hpackage,
    String.ofList_toList, Option.bind_eq_bind, Option.bind_some]
  rw [if_neg (by simp [hname, hpath, hroot])]
  rfl

/-- A line is not understood if no path stands behind the cut. -/
theorem parseFileLine?_of_not_path {line : String} {list rest : List Char}
    (hcut : Text.splitOnce? ".list:".toList line.toList = some (list, rest)) (hrest : rest.head? ≠ some '/') :
    parseFileLine? line = none := by
  have hpath : Text.startsWith (String.ofList rest) "/" = false := by
    rw [Text.startsWith, String.toList_ofList, String.toList_ofList]
    cases rest with
    | nil => rfl
    | cons c rest =>
      have hc : '/' ≠ c := by
        rintro rfl
        exact hrest rfl
      rw [Text.stripStart?, if_neg hc]
      rfl
  simp only [parseFileLine?, Text.cut?, hcut, Option.map_some, Option.bind_eq_bind, Option.bind_some, hpath,
    Bool.not_false, true_or, or_true, if_true]

/-- What a name ends with stands in the name, if it has no slash and the directory ends with one. -/
theorem suffix_of_suffix_append {ending directory name : List Char} (h : ending <:+ directory ++ '/' :: name)
    (hslash : '/' ∉ ending) : ending <:+ name := by
  rcases Nat.lt_or_ge name.length ending.length with hlt | hge
  · have hlonger : '/' :: name <:+ ending :=
      List.suffix_of_suffix_length_le (List.suffix_append directory ('/' :: name)) h hlt
    exact absurd (hlonger.subset List.mem_cons_self) hslash
  · have hname : name <:+ directory ++ '/' :: name :=
      (List.suffix_cons '/' name).trans (List.suffix_append directory ('/' :: name))
    exact List.suffix_of_suffix_length_le h hname hge

namespace ListedFile

variable (f : ListedFile)

theorem toList_line : f.line.toList = listDirectory.toList ++ (f.package.toList ++
    (f.qualifier.toList ++ (".list".toList ++ ':' :: f.path.toList))) := by
  have hending : ".list:".toList = ".list".toList ++ [':'] := by decide
  simp only [line, String.toList_append, hending, List.append_assoc, List.singleton_append]

theorem qualifier_of_none (h : f.architecture = none) : f.qualifier.toList = [] := by
  rw [qualifier, h]
  rfl

theorem qualifier_of_some {a : String} (h : f.architecture = some a) :
    f.qualifier.toList = ':' :: a.toList := by
  have hcolon : ":".toList = [':'] := by decide
  rw [qualifier, h, Option.elim_some, String.toList_append, hcolon, List.singleton_append]

theorem not_mem_of_architecture {a : String} (h : f.architecture = some a) :
    '/' ∉ a.toList ∧ ':' ∉ a.toList := by
  have hchars := f.architecture_chars
  rw [h, Option.all_some, List.all_eq_true] at hchars
  constructor
  · intro hmem
    exact absurd (hchars '/' hmem) (by decide)
  · intro hmem
    exact absurd (hchars ':' hmem) (by decide)

/-- What stands behind the name of the package has no slash, and is nothing or starts with a colon. -/
theorem qualifier_chars :
    '/' ∉ f.qualifier.toList ∧ ∀ c ∈ f.qualifier.toList.head?, c = ':' := by
  cases harch : f.architecture with
  | none =>
    rw [f.qualifier_of_none harch]
    exact ⟨List.not_mem_nil, fun c hc => by cases hc⟩
  | some a =>
    rw [f.qualifier_of_some harch, List.mem_cons, not_or]
    exact ⟨⟨by decide, (f.not_mem_of_architecture harch).1⟩, fun c hc => (Option.some.inj hc).symm⟩

theorem colon_not_mem_start : ':' ∉ listDirectory.toList ++ f.package.toList := by
  rw [List.mem_append, not_or]
  exact ⟨by decide, f.colon_not_mem_package⟩

/-- A line is cut behind the name of the list if its package does not mislead. -/
theorem splitOnce?_of_not_misleads (h : ¬ f.Misleads) :
    Text.splitOnce? ".list:".toList f.line.toList =
      some (listDirectory.toList ++ (f.package.toList ++ f.qualifier.toList), f.path.toList) := by
  have hending : ".list:".toList = ".list".toList ++ [':'] := by decide
  have hmark : ':' ∉ ".list".toList := by decide
  have hstart := f.colon_not_mem_start
  rw [toList_line, hending]
  cases harch : f.architecture with
  | none =>
    rw [f.qualifier_of_none harch, List.nil_append, List.append_nil, ← List.append_assoc]
    exact Text.splitOnce?_mark hmark hstart f.path.toList
  | some a =>
    -- The first colon stands before the architecture.
    have hsuffix : ¬ ".list".toList <:+ listDirectory.toList ++ f.package.toList := by
      have hdirectory : listDirectory.toList = "/var/lib/dpkg/info".toList ++ ['/'] := by decide
      rw [hdirectory, List.append_assoc, List.singleton_append]
      intro hends
      exact h ⟨by rw [harch]; rfl, suffix_of_suffix_append hends (by decide)⟩
    rw [f.qualifier_of_some harch, List.cons_append, ← List.append_assoc,
      Text.splitOnce?_mark_of_not_suffix hmark hstart hsuffix,
      Text.splitOnce?_mark hmark (f.not_mem_of_architecture harch).2, Option.map_some]
    simp only [List.append_assoc]

/-- A line is cut in the name of its package if it misleads, and no path stands behind the cut. -/
theorem splitOnce?_of_misleads (h : f.Misleads) :
    ∃ list rest, Text.splitOnce? ".list:".toList f.line.toList = some (list, rest) ∧
      rest.head? ≠ some '/' := by
  have hending : ".list:".toList = ".list".toList ++ [':'] := by decide
  have hmark : ':' ∉ ".list".toList := by decide
  have hstart := f.colon_not_mem_start
  obtain ⟨harch, stem, hstem⟩ := h
  obtain ⟨a, harch⟩ := Option.isSome_iff_exists.1 harch
  rw [← hstem, ← List.append_assoc] at hstart
  refine ⟨listDirectory.toList ++ stem, a.toList ++ (".list".toList ++ ':' :: f.path.toList), ?_, ?_⟩
  · rw [toList_line, f.qualifier_of_some harch, ← hstem, hending, List.append_assoc, ← List.append_assoc]
    exact Text.splitOnce?_mark hmark (fun hmem => hstart (List.mem_append_left _ hmem)) _
  · have hslash := (f.not_mem_of_architecture harch).1
    cases hchars : a.toList with
    | nil =>
      have hdot : ".list".toList = '.' :: "list".toList := by decide
      rw [hdot, List.nil_append, List.cons_append, List.head?_cons]
      decide
    | cons c s =>
      rw [hchars] at hslash
      intro hc
      exact hslash (Option.some.inj hc ▸ List.mem_cons_self)

end ListedFile

/-- A line is understood exactly if its package does not mislead. -/
theorem parseFileLine?_line (f : ListedFile) :
    parseFileLine? f.line = if f.Misleads then none else some (f.package, f.path) := by
  by_cases hmisleads : f.Misleads
  · obtain ⟨list, rest, hcut, hrest⟩ := f.splitOnce?_of_misleads hmisleads
    rw [if_pos hmisleads, parseFileLine?_of_not_path hcut hrest]
  · have hcut := f.splitOnce?_of_not_misleads hmisleads
    have hdirectory : listDirectory.toList = "/var/lib/dpkg/info".toList ++ ['/'] := by decide
    rw [hdirectory, List.append_assoc, List.singleton_append] at hcut
    rw [if_neg hmisleads]
    obtain ⟨hslash, hcolon⟩ := f.qualifier_chars
    refine parseFileLine?_of_cut hcut ?_ f.colon_not_mem_package hcolon f.package_ne_empty f.path_start
      f.path_ne
    rw [List.mem_append, not_or]
    exact ⟨f.slash_not_mem_package, hslash⟩

/-- The list of a package that is called like a list, and has an architecture, is not understood. -/
theorem listPackage_missed :
    parseFileLine? "/var/lib/dpkg/info/sources.list:amd64.list:/etc/apt/sources.list" = none ∧
      ∃ f : ListedFile, f.package = "sources.list" ∧ f.path = "/etc/apt/sources.list" ∧
        f.line = "/var/lib/dpkg/info/sources.list:amd64.list:/etc/apt/sources.list" := by
  refine ⟨by decide +kernel, ⟨"sources.list", some "amd64", "/etc/apt/sources.list", by decide +kernel,
    by decide +kernel, by decide +kernel, by decide +kernel, by decide⟩, rfl, rfl, ?_⟩
  decide +kernel

end Stocktake.Packages
