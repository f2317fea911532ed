import Mathlib.Logic.Basic
import Stocktake.Proofs.Module.FilesystemImport
import Stocktake.Proofs.Text.Pieces

/-!
# What the imports of packages leave in the store

After the files, the packages are imported and then linked to their files.  A link is made if the
store knows both its package and its file; where different names and paths have different digests,
this is if both have been listed: a path in a line of its own or in the first column of a link, a name in
the first column of a package.  Main statements: `mem_paths`, `mem_names`, `imports_linked`.
-/

namespace Stocktake

/-! ## Names of subjects -/

namespace Vocabulary

theorem resourceUri_injective {kind key key' : String}
    (h : resourceUri kind key = resourceUri kind key') : Sha256.hex key = Sha256.hex key' := by
  have hchars := congrArg String.toList h
  simp only [resourceUri, String.toList_append, List.append_cancel_left_eq] at hchars
  exact String.toList_injective hchars

theorem package_ne_file (name path : String) :
    resourceUri "package" name ≠ resourceUri "file" path := by
  intro h
  have hchars := congrArg String.toList h
  simp only [resourceUri, String.toList_append, List.append_assoc, List.append_cancel_left_eq]
    at hchars
  cases hchars

end Vocabulary

/-- The texts have different digests. -/
def DistinctDigests (texts : List String) : Prop :=
  ∀ a ∈ texts, ∀ b ∈ texts, Sha256.hex a = Sha256.hex b → a = b

instance (texts : List String) : Decidable (DistinctDigests texts) :=
  inferInstanceAs (Decidable (∀ a ∈ texts, ∀ b ∈ texts, Sha256.hex a = Sha256.hex b → a = b))

theorem DistinctDigests.resourceUri {texts : List String} (h : DistinctDigests texts) {kind a b : String}
    (ha : a ∈ texts) (hb : b ∈ texts) :
    Vocabulary.resourceUri kind a = Vocabulary.resourceUri kind b ↔ a = b :=
  ⟨fun heq => h a ha b hb (Vocabulary.resourceUri_injective heq), fun heq => heq ▸ rfl⟩

/-! ## Columns -/

/-- What a line has before its first tab, or all of a line without one. -/
def FirstColumn (column line : String) : Prop :=
  '\t' ∉ column.toList ∧ (line = column ∨ ∃ rest, line = column ++ "\t" ++ rest)

theorem exists_firstColumn (line : String) : ∃ column, FirstColumn column line := by
  by_cases htab : '\t' ∈ line.toList
  · obtain ⟨a, b, hline, ha⟩ := List.eq_append_cons_of_mem htab
    refine ⟨String.ofList a, by rwa [String.toList_ofList], .inr ⟨String.ofList b, ?_⟩⟩
    rw [← String.toList_inj, hline, Filesystem.toList_append_tab, String.toList_ofList,
      String.toList_ofList]
  · exact ⟨line, htab, .inl rfl⟩

namespace FirstColumn

variable {column line : String}

/-- The path of a link is the first column of its line. -/
theorem path_symlinkOfLine (h : FirstColumn column line) : (Filesystem.symlinkOfLine line).path = column := by
  obtain ⟨htab, rfl | ⟨rest, rfl⟩⟩ := h
  · rw [Filesystem.symlinkOfLine_of_not_mem htab]
  · rw [Filesystem.symlinkOfLine_append htab]

theorem head?_pieces (h : FirstColumn column line) : (Text.pieces line "\t").head? = some column := by
  have hsep : "\t".toList = ['\t'] := rfl
  rw [Text.pieces, hsep, Text.splitOn_singleton, List.head?_map]
  obtain ⟨htab, rfl | ⟨rest, rfl⟩⟩ := h
  · rw [List.splitOn_eq_singleton htab, List.head?_cons, Option.map_some, String.ofList_toList]
  · rw [Filesystem.toList_append_tab, List.splitOn_append_cons_self_of_not_mem htab, List.head?_cons,
      Option.map_some, String.ofList_toList]

/-- A package is told by a line whose first column is its name, unless that is empty. -/
theorem map_name_ofLine? (h : FirstColumn column line) :
    (Packages.PackageLine.ofLine? line).map Packages.PackageLine.name =
      if column = "" then none else some column := by
  have hcolumn : (Text.pieces line "\t").getD 0 "" = column := by
    rw [List.getD_eq_getElem?_getD, ← List.head?_eq_getElem?, h.head?_pieces, Option.getD_some]
  rw [Packages.PackageLine.ofLine?]
  simp only [hcolumn]
  split <;> rfl

end FirstColumn

theorem path_symlinkOfLine_eq_iff {column line : String} :
    (Filesystem.symlinkOfLine line).path = column ↔ FirstColumn column line := by
  constructor
  · rintro rfl
    obtain ⟨column, hcolumn⟩ := exists_firstColumn line
    rwa [hcolumn.path_symlinkOfLine]
  · exact FirstColumn.path_symlinkOfLine

/-! ## The listings -/

/-- What the commands of the three imports print. -/
structure Listings where
  files : String
  directories : String
  symlinks : String
  packages : String
  packageFiles : String

namespace Listings

variable (l : Listings)

/-- The source prints the listings. -/
structure PrintedBy (source : Source) : Prop where
  files : source.run Filesystem.filesCommand = .ok l.files
  directories : source.run Filesystem.directoriesCommand = .ok l.directories
  symlinks : source.run Filesystem.symlinksCommand = .ok l.symlinks
  packages : source.run Packages.packagesCommand = .ok l.packages
  packageFiles : source.run Packages.filesCommand = .ok l.packageFiles

/-- The files, directories and links that are listed. -/
def entries : List Filesystem.Found := Filesystem.foundIn l.files l.directories l.symlinks

/-- The paths that are listed. -/
def paths : List String := l.entries.map Filesystem.Found.path

/-- The packages that are listed. -/
def packageLines : List Packages.PackageLine :=
  (Text.lines l.packages).filterMap Packages.PackageLine.ofLine?

/-- The names of the packages that are listed. -/
def names : List String := l.packageLines.map Packages.PackageLine.name

/-- Packages and paths as the lists of files tell them, in order. -/
def links : List (String × String) := (Text.lines l.packageFiles).filterMap Packages.parseFileLine?

/-- The listed paths are the lines of the files and directories and the first columns of the links. -/
theorem mem_paths {q : String} :
    q ∈ l.paths ↔ (q ≠ "" ∧ (q ∈ Text.lines l.files ∨ q ∈ Text.lines l.directories)) ∨
      ∃ line ∈ Text.lines l.symlinks, line ≠ "" ∧ FirstColumn q line := by
  simp only [paths, entries, Filesystem.foundIn, Filesystem.filledLines_eq, List.map_append, List.map_map,
    List.mem_append, List.mem_map, List.mem_filter, Function.comp_apply, path_symlinkOfLine_eq_iff,
    decide_eq_true_eq, exists_eq_right]
  constructor
  · rintro ((⟨hline, hfilled⟩ | ⟨hline, hfilled⟩) | ⟨line, ⟨hline, hfilled⟩, hcolumn⟩)
    · exact .inl ⟨hfilled, .inl hline⟩
    · exact .inl ⟨hfilled, .inr hline⟩
    · exact .inr ⟨line, hline, hfilled, hcolumn⟩
  · rintro (⟨hfilled, hline | hline⟩ | ⟨line, hline, hfilled, hcolumn⟩)
    · exact .inl (.inl ⟨hline, hfilled⟩)
    · exact .inl (.inr ⟨hline, hfilled⟩)
    · exact .inr ⟨line, ⟨hline, hfilled⟩, hcolumn⟩

/-- The listed names are the first columns of the lines of the packages. -/
theorem mem_names {p : String} :
    p ∈ l.names ↔ p ≠ "" ∧ ∃ line ∈ Text.lines l.packages, FirstColumn p line := by
  rw [names, packageLines, List.map_filterMap, List.mem_filterMap]
  constructor
  · rintro ⟨line, hline, hname⟩
    obtain ⟨column, hcolumn⟩ := exists_firstColumn line
    rw [hcolumn.map_name_ofLine?] at hname
    obtain ⟨hfilled, hname⟩ := Option.ite_none_left_eq_some.1 hname
    obtain rfl := Option.some.inj hname
    exact ⟨hfilled, line, hline, hcolumn⟩
  · rintro ⟨hfilled, line, hline, hcolumn⟩
    refine ⟨line, hline, ?_⟩
    rw [hcolumn.map_name_ofLine?, if_neg hfilled]

/-- A link is listed as often as lines tell of it. -/
theorem count_links (p q : String) :
    l.links.count (p, q) =
      (Text.lines l.packageFiles).countP fun line => Packages.parseFileLine? line = some (p, q) := by
  rw [links, List.count, List.countP_filterMap]
  refine List.countP_congr fun line _ => ?_
  cases Packages.parseFileLine? line <;> simp

/-- The paths and names that are listed or linked are among the texts. -/
structure Within (texts : List String) : Prop where
  path : ∀ {q}, q ∈ l.paths → q ∈ texts
  name : ∀ {p}, p ∈ l.names → p ∈ texts
  link : ∀ {x}, x ∈ l.links → x.1 ∈ texts ∧ x.2 ∈ texts

/-- The listed paths that a package is linked to, as often as it is. -/
def pathsOf (name : String) : List String :=
  (l.links.filter fun x => x.1 = name ∧ x.2 ∈ l.paths).map Prod.snd

theorem mem_pathsOf {name path : String} :
    path ∈ l.pathsOf name ↔ (name, path) ∈ l.links ∧ path ∈ l.paths := by
  simp only [pathsOf, List.mem_map, List.mem_filter, decide_eq_true_eq]
  constructor
  · rintro ⟨x, ⟨hlink, rfl, hpath⟩, rfl⟩
    exact ⟨hlink, hpath⟩
  · rintro ⟨hlink, hpath⟩
    exact ⟨(name, path), ⟨hlink, rfl, hpath⟩, rfl⟩

/-- The subjects of the files of a package. -/
def filesOf (name : String) : List String := (l.pathsOf name).map Filesystem.subjectOf

/-- The store knows the paths, and of every package its name and its files. -/
structure Linked (s : Store) : Prop where
  granted : s.RefusesNothing
  file : ∀ q ∈ l.paths, s.contains (Filesystem.subjectOf q) = true
  name : ∀ p ∈ l.names,
    s.attributeValues (Packages.subjectOf p) Packages.nameProperty = .ok [p]
  files : ∀ p ∈ l.names,
    s.attributeValues (Packages.subjectOf p) Packages.fileProperty = .ok (l.filesOf p)

end Listings

namespace Packages

/-! ## Packages -/

/-- What the store is to know of a package. -/
def PackageLine.subject (p : PackageLine) : Subject where
  kind := packageKind
  name := p.name
  attributes := [(nameProperty, p.name), (versionProperty, p.version),
    (sectionProperty, p.sectionName), (essentialProperty, p.essential),
    (priorityProperty, p.priority), (dependenciesProperty, p.dependencies)]

/-- The store with a package. -/
def recorded (s : Store) (p : PackageLine) : Store := s.put (subjectOf p.name) p.subject

theorem values_name_subject (p : PackageLine) : p.subject.values nameProperty = [p.name] := rfl

theorem values_file_subject (p : PackageLine) : p.subject.values fileProperty = [] := rfl

variable {passes : StoreError → Prop} {s : Store}

theorem follows_writes (hs : s.RefusesNothing) (p : PackageLine) :
    Store.Follows passes s p.writes (recorded s p) :=
  hs.follows_create (subjectOf p.name) packageKind p.name p.subject.attributes

theorem follows_recorded (hs : s.RefusesNothing) (packages : List PackageLine) :
    Store.Follows passes s (packages.flatMap PackageLine.writes) (packages.foldl recorded s) :=
  hs.follows_foldl_put follows_writes packages

/-- The last line of a package makes it what it is. -/
theorem get?_recorded (packages : List PackageLine) (s : Store) (uri : String) :
    (packages.foldl recorded s).subjects.get? uri =
      ((packages.reverse.find? fun p => subjectOf p.name = uri).map PackageLine.subject).or
        (s.subjects.get? uri) :=
  Store.get?_foldl_put packages s uri

theorem runImport_of_granted {w : World} {source : Source} {output : String}
    (hsource : w.source = some source) (houtput : source.run packagesCommand = .ok output)
    (hgranted : w.store.RefusesNothing) :
    (runImport w).1 = .ok () ∧
      (runImport w).2.store =
        (((Text.lines output).filterMap PackageLine.ofLine?).foldl recorded
          (w.store.setBatch true)).setBatch false ∧
      (runImport w).2.source = some source := by
  refine (ends_runImport w).of_follows hsource (by simp [packagesPlan, houtput]) ?_
  simp only [packagesPlan, Source.output_of_ok houtput]
  exact follows_recorded (hgranted.setBatch true) _

end Packages

/-! ## Links -/

namespace Store

variable {s s' : Store}

theorem RefusesNothing.of_edited {edit : String → Subject → Subject} (h : s.RefusesNothing)
    (hedited : Edited edit s s') : s'.RefusesNothing :=
  fun op uri => (hedited.refused? op uri).trans (h op uri)

theorem RefusesNothing.write_link {uri value : String} (h : s.RefusesNothing) (property : String)
    (hfrom : s.contains uri = true) (hto : s.contains value = true) :
    ∃ s', s.write (.link uri property value) = .ok s' := by
  obtain ⟨x, hx⟩ := Option.isSome_iff_exists.1 hfrom
  refine ⟨s.put uri (x.withAttribute property value), ?_⟩
  rw [write, addResourceAttribute, h, if_pos hto]
  simp only [hx]

end Store

namespace Packages

/-- What links add to a subject. -/
def linksFrom (links : List (String × String)) (uri : String) : List (String × String) :=
  (links.filter fun x => subjectOf x.1 = uri).map fun x => (fileProperty, Filesystem.subjectOf x.2)

/-- A subject with the links from it. -/
def withLinks (links : List (String × String)) (uri : String) (x : Subject) : Subject :=
  { x with attributes := x.attributes ++ linksFrom links uri }

theorem values_withLinks (links : List (String × String)) (uri : String) (x : Subject)
    (property : String) :
    (withLinks links uri x).values property = x.values property ++
      if fileProperty = property then
        (links.filter fun y => subjectOf y.1 = uri).map fun y => Filesystem.subjectOf y.2
      else [] := by
  rw [Subject.values, withLinks, List.filter_append, List.map_append, linksFrom]
  by_cases h : fileProperty = property
  · simp [h, Subject.values, List.filter_map, Function.comp_def]
  · simp [h, Subject.values, List.filter_map, Function.comp_def]

/-- Links between subjects that are known are all made. -/
theorem follows_links {s : Store} (hs : s.RefusesNothing) (links : List (String × String))
    (hknown : ∀ x ∈ links, isKnown s x = true) :
    ∃ s', Store.Follows passesLink s (links.map linkWrite) s' ∧
      Store.Edited (withLinks links) s s' := by
  induction links generalizing s with
  | nil =>
    refine ⟨s, .nil s, (Store.Edited.refl s).congr fun uri x _ => ?_⟩
    rw [withLinks, linksFrom, List.filter_nil, List.map_nil, List.append_nil]
  | cons link links ih =>
    obtain ⟨hpackage, hfile⟩ := Bool.and_eq_true_iff.1 (hknown link List.mem_cons_self)
    obtain ⟨s₁, hwrite⟩ := hs.write_link fileProperty hpackage hfile
    have hedited := Store.edited_link hwrite
    have hrest : ∀ x ∈ links, isKnown s₁ x = true := by
      intro x hx
      rw [isKnown_of_edited hedited]
      exact hknown x (List.mem_cons_of_mem _ hx)
    obtain ⟨s', hfollows, hedits⟩ := ih (hs.of_edited hedited) hrest
    refine ⟨s', .done hwrite hfollows, (hedited.trans hedits).congr fun uri x _ => ?_⟩
    simp only [withLinks, linksFrom]
    by_cases huri : subjectOf link.1 = uri
    · simp [huri, Subject.withAttribute, Filesystem.subjectOf]
    · simp [huri, Ne.symm huri]

theorem runFilesImport_of_granted {w : World} {source : Source} {output : String}
    (hsource : w.source = some source) (houtput : source.run filesCommand = .ok output)
    (hgranted : w.store.RefusesNothing) :
    (runFilesImport w).1 = .ok () ∧
      Store.Edited
        (withLinks (((Text.lines output).filterMap parseFileLine?).filter (isKnown w.store)))
        w.store (runFilesImport w).2.store := by
  have hbegun := Store.edited_setBatch w.store true
  obtain ⟨s', hfollows, hedited⟩ := follows_links (hgranted.setBatch true)
    (((Text.lines output).filterMap parseFileLine?).filter (isKnown w.store)) fun x hx => by
      rw [isKnown_of_edited hbegun]
      exact (List.mem_filter.1 hx).2
  obtain ⟨hok, hstore, -⟩ := (ends_runFilesImport w).of_follows (s := s') hsource
    (by simp [filesPlan, houtput]) (by
      simp only [filesPlan, Source.output_of_ok houtput]
      exact hfollows)
  refine ⟨hok, ?_⟩
  rw [hstore]
  exact (hbegun.trans hedited).trans (Store.edited_setBatch s' false)

end Packages

/-! ## All three imports -/

namespace Listings

open Packages (PackageLine linksFrom withLinks)

variable {l : Listings} {texts : List String} {s : Store}

/-- The store has the subjects of what is listed, as the last entry and the last line make them. -/
def Imported (l : Listings) (s : Store) : Prop :=
  ∀ uri, s.subjects.get? uri =
    ((l.packageLines.reverse.find? fun p => Packages.subjectOf p.name = uri).map
        PackageLine.subject).or
      ((Filesystem.lastFor uri l.entries).map Filesystem.Found.subject)

theorem Imported.contains (h : l.Imported s) (uri : String) :
    s.contains uri = true ↔
      (∃ p ∈ l.names, Packages.subjectOf p = uri) ∨ ∃ q ∈ l.paths, Filesystem.subjectOf q = uri := by
  rw [Store.contains, Dict.has, h uri, Option.isSome_or, Option.isSome_map, Option.isSome_map,
    Filesystem.lastFor, Bool.or_eq_true, List.find?_isSome, List.find?_isSome]
  simp [names, paths]

theorem Imported.untagged (h : l.Imported s) {uri : String} {x : Subject}
    (hx : s.subjects.get? uri = some x) : x.tags = [] := by
  rw [h, Option.or_eq_some_iff] at hx
  rcases hx with hx | ⟨-, hx⟩
  · obtain ⟨line, -, rfl⟩ := Option.map_eq_some_iff.1 hx
    rfl
  · obtain ⟨e, -, rfl⟩ := Option.map_eq_some_iff.1 hx
    rfl

section Distinct

variable (h : l.Imported s) (hdistinct : DistinctDigests texts) (hwithin : l.Within texts)

include h hdistinct hwithin

theorem Imported.contains_package {p : String} (hp : p ∈ texts) :
    s.contains (Packages.subjectOf p) = true ↔ p ∈ l.names := by
  rw [h.contains]
  constructor
  · rintro (⟨p', hp', heq⟩ | ⟨q, -, heq⟩)
    · rwa [← (hdistinct.resourceUri (hwithin.name hp') hp).1 heq]
    · exact absurd heq.symm (Vocabulary.package_ne_file p q)
  · exact fun hname => .inl ⟨p, hname, rfl⟩

theorem Imported.contains_file {q : String} (hq : q ∈ texts) :
    s.contains (Filesystem.subjectOf q) = true ↔ q ∈ l.paths := by
  rw [h.contains]
  constructor
  · rintro (⟨p, -, heq⟩ | ⟨q', hq', heq⟩)
    · exact absurd heq (Vocabulary.package_ne_file p q)
    · rwa [← (hdistinct.resourceUri (hwithin.path hq') hq).1 heq]
  · exact fun hpath => .inr ⟨q, hpath, rfl⟩

/-- A link is between known subjects if its package and its path are listed. -/
theorem Imported.isKnown {x : String × String} (hx : x ∈ l.links) :
    Packages.isKnown s x = true ↔ x.1 ∈ l.names ∧ x.2 ∈ l.paths := by
  obtain ⟨hp, hq⟩ := hwithin.link hx
  rw [Packages.isKnown, Bool.and_eq_true_iff, h.contains_package hdistinct hwithin hp]
  exact and_congr_right fun _ => h.contains_file hdistinct hwithin hq

theorem Imported.get?_package {p : String} (hp : p ∈ l.names) :
    ∃ line : PackageLine, line.name = p ∧
      s.subjects.get? (Packages.subjectOf p) = some line.subject := by
  have hlisted : (l.packageLines.reverse.find? fun x =>
      Packages.subjectOf x.name = Packages.subjectOf p).isSome := by
    obtain ⟨line, hline, rfl⟩ := List.mem_map.1 hp
    exact List.find?_isSome.2 ⟨line, List.mem_reverse.2 hline, by simp⟩
  obtain ⟨line, hline⟩ := Option.isSome_iff_exists.1 hlisted
  have hmem : line.name ∈ l.names :=
    List.mem_map_of_mem (List.mem_reverse.1 (List.mem_of_find?_eq_some hline))
  have hname : Packages.subjectOf line.name = Packages.subjectOf p := by
    simpa using List.find?_some hline
  refine ⟨line, (hdistinct.resourceUri (hwithin.name hmem) (hwithin.name hp)).1 hname, ?_⟩
  rw [h, hline]
  rfl

/-- Of the links between known subjects, those from a package lead to its files. -/
theorem Imported.files_of_known {p : String} (hp : p ∈ l.names) :
    (((l.links.filter (Packages.isKnown s)).filter fun x =>
      Packages.subjectOf x.1 = Packages.subjectOf p).map fun x => Filesystem.subjectOf x.2) =
      l.filesOf p := by
  rw [List.filter_filter, filesOf, pathsOf, List.map_map]
  refine congrArg (List.map _) (List.filter_congr fun x hx => ?_)
  have hpackage : Packages.subjectOf x.1 = Packages.subjectOf p ↔ x.1 = p :=
    hdistinct.resourceUri (hwithin.link hx).1 (hwithin.name hp)
  rw [Bool.eq_iff_iff, Bool.and_eq_true, h.isKnown hdistinct hwithin hx, decide_eq_true_eq,
    decide_eq_true_eq, hpackage]
  constructor
  · rintro ⟨hname, -, hpath⟩
    exact ⟨hname, hpath⟩
  · rintro ⟨hname, hpath⟩
    exact ⟨hname, hname ▸ hp, hpath⟩

variable {s' : Store} (hgranted : s.RefusesNothing)
  (hedited : Store.Edited (withLinks (l.links.filter (Packages.isKnown s))) s s')

include hgranted hedited

theorem Imported.attributeValues_package {p : String} (hp : p ∈ l.names) (property : String) :
    ∃ line : PackageLine, line.name = p ∧
      s'.attributeValues (Packages.subjectOf p) property =
        .ok (line.subject.values property ++
          if Packages.fileProperty = property then l.filesOf p else []) := by
  obtain ⟨line, hname, hget⟩ := h.get?_package hdistinct hwithin hp
  refine ⟨line, hname, ?_⟩
  rw [Store.attributeValues, Store.subject, hgranted.of_edited hedited, hedited.get?, hget,
    ← h.files_of_known hdistinct hwithin hp, ← Packages.values_withLinks]
  rfl

/-- Where the links between known subjects are made, packages are linked to their files. -/
theorem Imported.linked : l.Linked s' := by
  refine ⟨hgranted.of_edited hedited, fun q hq => ?_, fun p hp => ?_, fun p hp => ?_⟩
  · rw [hedited.contains, h.contains_file hdistinct hwithin (hwithin.path hq)]
    exact hq
  · obtain ⟨line, rfl, hline⟩ :=
      h.attributeValues_package hdistinct hwithin hgranted hedited hp Packages.nameProperty
    rw [hline, Packages.values_name_subject, if_neg (by decide), List.append_nil]
  · obtain ⟨line, rfl, hline⟩ :=
      h.attributeValues_package hdistinct hwithin hgranted hedited hp Packages.fileProperty
    rw [hline, Packages.values_file_subject, if_pos rfl, List.nil_append]

end Distinct

/-- Where nothing is refused, the three imports end well; an empty store then has what is listed, and the
    packages are linked to their files. -/
theorem imports_linked {w : World} {source : Source} (hempty : w.store.subjects = .empty)
    (hgranted : w.store.RefusesNothing) (hsource : w.source = some source)
    (hprinted : l.PrintedBy source) (hwithin : l.Within texts) (hdistinct : DistinctDigests texts) :
    let listed := Filesystem.filesImport.run w
    let packaged := Packages.packagesImport.run listed.2
    let linked := Packages.filesImport.run packaged.2
    listed.1 = .ok () ∧ packaged.1 = .ok () ∧ linked.1 = .ok () ∧ l.Linked linked.2.store ∧
      ∀ uri x, linked.2.store.subjects.get? uri = some x → x.tags = [] := by
  intro listed packaged linked
  obtain ⟨hlisted, hstore, hsame⟩ := Filesystem.runImport_of_granted hsource hprinted.files
    hprinted.directories hprinted.symlinks hgranted
  have hgranted₁ : listed.2.store.RefusesNothing := by
    rw [show listed.2.store = _ from hstore]
    exact Filesystem.refusesNothing_recorded (hgranted.setBatch true) l.entries
  obtain ⟨hpackaged, hstore', hsame'⟩ :=
    Packages.runImport_of_granted hsame hprinted.packages hgranted₁
  have hgranted₂ : packaged.2.store.RefusesNothing := by
    rw [show packaged.2.store = _ from hstore']
    exact (hgranted₁.setBatch true).foldl_put l.packageLines
  have himported : l.Imported packaged.2.store := by
    intro uri
    have hfiles : listed.2.store.subjects.get? uri =
        (Filesystem.lastFor uri l.entries).map Filesystem.Found.subject := by
      rw [show listed.2.store = _ from hstore]
      have hget := Filesystem.get?_recorded l.entries (w.store.setBatch true) uri
      rw [show (w.store.setBatch true).subjects = .empty from hempty, Dict.get?_empty,
        Option.or_none] at hget
      exact hget
    rw [show packaged.2.store = _ from hstore', ← hfiles]
    exact Packages.get?_recorded l.packageLines (listed.2.store.setBatch true) uri
  obtain ⟨hlinked, hedited⟩ :=
    Packages.runFilesImport_of_granted hsame' hprinted.packageFiles hgranted₂
  refine ⟨hlisted, hpackaged, hlinked, himported.linked hdistinct hwithin hgranted₂ hedited, ?_⟩
  intro uri x hx
  rw [show linked.2.store.subjects.get? uri = _ from hedited.get? uri] at hx
  obtain ⟨y, hy, rfl⟩ := Option.map_eq_some_iff.1 hx
  have huntagged : y.tags = [] := himported.untagged hy
  exact huntagged

end Listings

end Stocktake
