import Stocktake.Proofs.Module.Endings

/-!
# What the import of files leaves in the store

The listings name files, directories and symbolic links, some of them more than once.  Each entry is
recorded as a subject of its own, in place of whatever had its name, so that the last entry for a subject
makes it what it is, and importing the same listings again changes nothing.  Main statement:
`subjects_imported`.
-/

namespace Stocktake

/-- No operation is refused. -/
def Store.RefusesNothing (s : Store) : Prop := ∀ op uri, s.refused? op uri = none

namespace Store

variable {s : Store}

theorem put_put (s : Store) (uri : String) (x y : Subject) : (s.put uri x).put uri y = s.put uri y := by
  rw [put, put, put, Dict.insert_insert]

theorem RefusesNothing.put (h : s.RefusesNothing) (uri : String) (x : Subject) :
    (s.put uri x).RefusesNothing := h

theorem RefusesNothing.setBatch (h : s.RefusesNothing) (on : Bool) : (s.setBatch on).RefusesNothing := h

theorem RefusesNothing.write_create (h : s.RefusesNothing) (uri kind name : String) :
    s.write (.create uri kind name) = .ok (s.put uri { kind, name }) := by
  rw [write, createResource, h]

theorem RefusesNothing.write_attribute (h : s.RefusesNothing) (uri property value : String)
    (x : Subject) :
    (s.put uri x).write (.attribute uri property value) =
      .ok (s.put uri (x.withAttribute property value)) := by
  have hx : (s.put uri x).subject .addAttribute uri = .ok x := by
    rw [subject, h.put uri x, Store.put, Dict.get?_insert, if_pos rfl]
  rw [write, addAttribute, hx]
  exact congrArg Except.ok (s.put_put uri x _)

/-- A subject that is made and given attributes is as if it had been put at once. -/
theorem RefusesNothing.follows_create {passes : StoreError → Prop} (h : s.RefusesNothing)
    (uri kind name : String) (attributes : List (String × String)) :
    Follows passes s
      (.create uri kind name :: attributes.map fun a => .attribute uri a.1 a.2)
      (s.put uri { kind, name, attributes }) := by
  have hattributes : ∀ (added : List (String × String)) (x : Subject),
      Follows passes (s.put uri x) (added.map fun a => .attribute uri a.1 a.2)
        (s.put uri { x with attributes := x.attributes ++ added }) := by
    intro added
    induction added with
    | nil =>
      intro x
      rw [List.append_nil]
      exact .nil _
    | cons a added ih =>
      intro x
      have hrest := ih (x.withAttribute a.1 a.2)
      rw [Subject.withAttribute, List.append_assoc, List.singleton_append] at hrest
      exact .done (h.write_attribute uri a.1 a.2 x) hrest
  exact .done (h.write_create uri kind name) (hattributes attributes { kind, name })

section Puts

variable {α : Type} {name : α → String} {subject : α → Subject}

theorem RefusesNothing.foldl_put (h : s.RefusesNothing) (xs : List α) :
    (xs.foldl (fun s x => s.put (name x) (subject x)) s).RefusesNothing := by
  induction xs generalizing s with
  | nil => exact h
  | cons x xs ih => exact ih (h.put (name x) (subject x))

/-- Things that are put one by one are put by the writes of all of them. -/
theorem RefusesNothing.follows_foldl_put {passes : StoreError → Prop} {writes : α → List Write}
    (hwrites : ∀ {s : Store}, s.RefusesNothing → ∀ x,
      Follows passes s (writes x) (s.put (name x) (subject x)))
    (h : s.RefusesNothing) (xs : List α) :
    Follows passes s (xs.flatMap writes) (xs.foldl (fun s x => s.put (name x) (subject x)) s) := by
  induction xs generalizing s with
  | nil => exact .nil s
  | cons x xs ih =>
    rw [List.flatMap_cons]
    exact (hwrites h x).append (ih (h.put (name x) (subject x)))

/-- The last of the things that are put under a name stays there. -/
theorem get?_foldl_put (xs : List α) (s : Store) (uri : String) :
    (xs.foldl (fun s x => s.put (name x) (subject x)) s).subjects.get? uri =
      ((xs.reverse.find? fun x => name x = uri).map subject).or (s.subjects.get? uri) := by
  induction xs generalizing s with
  | nil => rfl
  | cons x xs ih =>
    rw [List.foldl_cons, ih, List.reverse_cons, List.find?_append]
    cases xs.reverse.find? fun x => name x = uri with
    | some last => rfl
    | none =>
      rw [Option.map_none, Option.none_or, Option.none_or, List.find?_singleton, put, Dict.get?_insert]
      by_cases huri : name x = uri
      · simp [huri]
      · simp [huri, Ne.symm huri]

end Puts

end Store

namespace Filesystem

/-! ## The entries -/

theorem filledLines_eq (output : String) :
    filledLines output = (Text.lines output).filter fun line => line ≠ "" := by
  simp only [filledLines, decide_not, bne, Bool.beq_eq_decide_eq]

theorem toList_append_tab (path rest : String) :
    (path ++ "\t" ++ rest).toList = path.toList ++ '\t' :: rest.toList := by
  simp [String.toList_append]

/-- The line of a link whose target is not listed. -/
theorem symlinkOfLine_of_not_mem {line : String} (h : '\t' ∉ line.toList) :
    symlinkOfLine line = ⟨symlinkKind, line, none⟩ := by
  have hcut : Text.cut? line "\t" = none := by
    have hlist : Text.splitOnce? ['\t'] line.toList = none := Text.splitOnce?_of_not_mem h
    rw [Text.cut?, show "\t".toList = ['\t'] from rfl, hlist, Option.map_none]
  rw [symlinkOfLine, hcut]

/-- The path of a link ends at the first tab, and its target is all that follows. -/
theorem symlinkOfLine_append {path : String} (h : '\t' ∉ path.toList) (target : String) :
    symlinkOfLine (path ++ "\t" ++ target) =
      ⟨symlinkKind, path, if target = "" then none else some target⟩ := by
  have hcut : Text.cut? (path ++ "\t" ++ target) "\t" = some (path, target) := by
    have hlist : Text.splitOnce? ['\t'] (path ++ "\t" ++ target).toList =
        some (path.toList, target.toList) := by
      rw [toList_append_tab, Text.splitOnce?_append h]
    rw [Text.cut?, show "\t".toList = ['\t'] from rfl, hlist]
    simp
  rw [symlinkOfLine, hcut]

/-- Only links have targets, and these are not empty. -/
theorem target_of_mem_foundIn {files directories symlinks target : String} {e : Found}
    (he : e ∈ foundIn files directories symlinks) (htarget : e.target = some target) :
    e.kind = symlinkKind ∧ target ≠ "" := by
  simp only [foundIn, List.mem_append, List.mem_map] at he
  rcases he with (⟨line, -, rfl⟩ | ⟨line, -, rfl⟩) | ⟨line, -, rfl⟩
  · cases htarget
  · cases htarget
  · cases hcut : Text.cut? line "\t" with
    | none =>
      rw [symlinkOfLine, hcut] at htarget
      cases htarget
    | some parts =>
      obtain ⟨path, rest⟩ := parts
      have hline : symlinkOfLine line = ⟨symlinkKind, path, if rest = "" then none else some rest⟩ := by
        rw [symlinkOfLine, hcut]
      rw [hline] at htarget ⊢
      by_cases hempty : rest = ""
      · simp [hempty] at htarget
      · simp only [hempty, if_false, Option.some.injEq] at htarget
        exact ⟨rfl, htarget ▸ hempty⟩

/-! ## Recording them -/

/-- What the store is to know of something found. -/
def Found.subject (e : Found) : Subject where
  kind := e.kind
  name := baseName e.path
  attributes := (pathProperty, e.path) :: (e.target.map fun target => (targetProperty, target)).toList

/-- The store with something found. -/
def recorded (s : Store) (e : Found) : Store := s.put (subjectOf e.path) e.subject

variable {passes : StoreError → Prop} {s : Store}

theorem follows_writes (hs : s.RefusesNothing) (e : Found) :
    Store.Follows passes s e.writes (recorded s e) := by
  obtain ⟨kind, path, target⟩ := e
  cases target with
  | none => exact hs.follows_create (subjectOf path) kind (baseName path) [(pathProperty, path)]
  | some target =>
    exact hs.follows_create (subjectOf path) kind (baseName path)
      [(pathProperty, path), (targetProperty, target)]

theorem follows_recorded (hs : s.RefusesNothing) (entries : List Found) :
    Store.Follows passes s (entries.flatMap Found.writes) (entries.foldl recorded s) :=
  hs.follows_foldl_put follows_writes entries

/-- The last of the entries for a subject. -/
def lastFor (uri : String) (entries : List Found) : Option Found :=
  entries.reverse.find? fun e => subjectOf e.path = uri

/-- The last entry for a subject makes it what it is. -/
theorem get?_recorded (entries : List Found) (s : Store) (uri : String) :
    (entries.foldl recorded s).subjects.get? uri =
      ((lastFor uri entries).map Found.subject).or (s.subjects.get? uri) :=
  Store.get?_foldl_put entries s uri

/-- A subject is what the last entry makes it, however often the entries are recorded. -/
theorem recorded_recorded (entries : List Found) (s : Store) :
    (entries.foldl recorded (entries.foldl recorded s)).subjects = (entries.foldl recorded s).subjects := by
  apply Dict.ext_get?
  intro uri
  rw [get?_recorded, get?_recorded]
  cases lastFor uri entries with
  | some last => rfl
  | none => rfl

theorem subjects_recorded_congr (entries : List Found) {s s' : Store} (h : s.subjects = s'.subjects) :
    (entries.foldl recorded s).subjects = (entries.foldl recorded s').subjects := by
  apply Dict.ext_get?
  intro uri
  rw [get?_recorded, get?_recorded, h]

/-! ## The import -/

section Import

variable {w : World} {source : Source} {files directories symlinks : String}

/-- Where every output is to be had and nothing is refused, the import records all entries. -/
theorem runImport_of_granted (hsource : w.source = some source)
    (hfiles : source.run filesCommand = .ok files)
    (hdirectories : source.run directoriesCommand = .ok directories)
    (hsymlinks : source.run symlinksCommand = .ok symlinks) (hgranted : w.store.RefusesNothing) :
    (runImport w).1 = .ok () ∧
      (runImport w).2.store =
        ((foundIn files directories symlinks).foldl recorded (w.store.setBatch true)).setBatch false ∧
      (runImport w).2.source = some source := by
  have houtput : ∀ command ∈ plan.commands, ∃ output, source.run command = .ok output := by
    simp [plan, hfiles, hdirectories, hsymlinks]
  have hwrites : plan.writes w.store source.output =
      (foundIn files directories symlinks).flatMap Found.writes := by
    simp only [plan, Source.output_of_ok hfiles, Source.output_of_ok hdirectories,
      Source.output_of_ok hsymlinks]
  refine (ends_runImport w).of_follows hsource houtput ?_
  rw [hwrites]
  exact follows_recorded (hgranted.setBatch true) (foundIn files directories symlinks)

theorem refusesNothing_recorded {s : Store} (hs : s.RefusesNothing) (entries : List Found) :
    (entries.foldl recorded s).RefusesNothing := hs.foldl_put entries

end Import

/-- After the import a subject is what the last entry for it tells: its kind and name, its path, the target
    of a link that has one, and nothing else; without an entry it is as before.  Importing the same listings
    again changes no subject.  The entries are the lines that are not empty, those of the files first, then
    those of the directories and those of the links.  The line of a link is cut at its first tab, and only
    links have targets. -/
theorem subjects_imported (w : World) (source : Source) (files directories symlinks : String)
    (hsource : w.source = some source) (hfiles : source.run filesCommand = .ok files)
    (hdirectories : source.run directoriesCommand = .ok directories)
    (hsymlinks : source.run symlinksCommand = .ok symlinks) (hgranted : w.store.RefusesNothing) :
    let imported := filesImport.run w
    let again := filesImport.run imported.2
    let entries := foundIn files directories symlinks
    imported.1 = .ok () ∧
      (∀ uri, imported.2.store.subjects.get? uri =
        match entries.reverse.find? fun e => subjectOf e.path = uri with
        | none => w.store.subjects.get? uri
        | some e => some {
            kind := e.kind
            name := baseName e.path
            attributes := (pathProperty, e.path) ::
              (e.target.map fun target => (targetProperty, target)).toList
            tags := [] }) ∧
      again.1 = .ok () ∧ again.2.store.subjects = imported.2.store.subjects ∧
      (∀ e ∈ entries, ∀ target, e.target = some target → e.kind = symlinkKind ∧ target ≠ "") ∧
      (∀ line, '\t' ∉ line.toList → symlinkOfLine line = ⟨symlinkKind, line, none⟩) ∧
      (∀ path target, '\t' ∉ path.toList → symlinkOfLine (path ++ "\t" ++ target) =
        ⟨symlinkKind, path, if target = "" then none else some target⟩) ∧
      entries =
        ((Text.lines files).filter fun line => line ≠ "").map (fun path => ⟨fileKind, path, none⟩) ++
          ((Text.lines directories).filter fun line => line ≠ "").map
            (fun path => ⟨directoryKind, path, none⟩) ++
          ((Text.lines symlinks).filter fun line => line ≠ "").map symlinkOfLine := by
  intro imported again entries
  obtain ⟨hdone, hstore, hsame⟩ :=
    runImport_of_granted hsource hfiles hdirectories hsymlinks hgranted
  have hgranted' : imported.2.store.RefusesNothing := by
    rw [show imported.2.store = _ from hstore]
    exact refusesNothing_recorded (hgranted.setBatch true) entries
  obtain ⟨hdone', hstore', -⟩ :=
    runImport_of_granted hsame hfiles hdirectories hsymlinks hgranted'
  have hbegun : ∀ s : Store, ((entries.foldl recorded (s.setBatch true)).setBatch false).subjects =
      (entries.foldl recorded s).subjects := by
    intro s
    have hsame : (s.setBatch true).subjects = s.subjects := rfl
    exact subjects_recorded_congr entries hsame
  have hsubjects : imported.2.store.subjects = (entries.foldl recorded w.store).subjects :=
    (congrArg Store.subjects hstore).trans (hbegun w.store)
  have hsubjects' : again.2.store.subjects = (entries.foldl recorded imported.2.store).subjects :=
    (congrArg Store.subjects hstore').trans (hbegun imported.2.store)
  refine ⟨hdone, ?_, hdone', ?_, fun e he target => target_of_mem_foundIn he,
    fun line => symlinkOfLine_of_not_mem, fun path target hpath => symlinkOfLine_append hpath target, ?_⟩
  · intro uri
    rw [hsubjects, get?_recorded, lastFor]
    cases entries.reverse.find? fun e => subjectOf e.path = uri with
    | none => rfl
    | some e => rfl
  · rw [hsubjects', subjects_recorded_congr entries hsubjects, recorded_recorded, hsubjects]
  · simp only [entries, foundIn, filledLines_eq]

/-- A path that is listed as a file, as a directory and as a link is recorded as the link, without the tags
    and the name that were there before; what is listed once is recorded as what it is. -/
theorem subjects_imported_overlapping :
    let outputs := ((Dict.empty.insert filesCommand "/a\n\n/b/f\n").insert directoriesCommand
      "/a\n/b\n").insert symlinksCommand "/a\tb\tc\n"
    let before : Subject := { kind := fileKind, name := "old", tags := [{ name := "hidden" }] }
    let w : World := {
      store := { subjects := Dict.empty.insert (subjectOf "/a") before }
      source := some (Source.ofOutputs outputs) }
    let known (path : String) := (filesImport.run w).2.store.subjects.get? (subjectOf path)
    (filesImport.run w).1 = .ok () ∧
      known "/a" = some {
        kind := symlinkKind
        name := "a"
        attributes := [(pathProperty, "/a"), (targetProperty, "b\tc")] } ∧
      known "/b" = some { kind := directoryKind, name := "b", attributes := [(pathProperty, "/b")] } ∧
      known "/b/f" = some { kind := fileKind, name := "f", attributes := [(pathProperty, "/b/f")] } ∧
      (filesImport.run (filesImport.run w).2).2.store.subjects = (filesImport.run w).2.store.subjects := by
  intro outputs before w known
  obtain ⟨hdone, hsubjects, -, hagain, -, -, -, hlisted⟩ := subjects_imported w (Source.ofOutputs outputs)
    "/a\n\n/b/f\n" "/a\n/b\n" "/a\tb\tc\n" rfl rfl rfl rfl fun _ _ => rfl
  have hentries : foundIn "/a\n\n/b/f\n" "/a\n/b\n" "/a\tb\tc\n" =
      [⟨fileKind, "/a", none⟩, ⟨fileKind, "/b/f", none⟩, ⟨directoryKind, "/a", none⟩,
        ⟨directoryKind, "/b", none⟩, ⟨symlinkKind, "/a", some "b\tc"⟩] :=
    hlisted.trans (by decide +kernel)
  have hnames : baseName "/a" = "a" ∧ baseName "/b" = "b" ∧ baseName "/b/f" = "f" := by decide +kernel
  have hdistinct : (["/b/f", "/b", "/a"].map subjectOf).Nodup := by decide +kernel
  simp only [List.map_cons, List.map_nil, List.nodup_cons, List.mem_cons, List.not_mem_nil, or_false,
    not_or] at hdistinct
  obtain ⟨⟨hfb, hfa⟩, hba, -⟩ := hdistinct
  have hlink := hsubjects (subjectOf "/a")
  have hdirectory := hsubjects (subjectOf "/b")
  have hfile := hsubjects (subjectOf "/b/f")
  rw [hentries] at hlink hdirectory hfile
  refine ⟨hdone, ?_, ?_, ?_, hagain⟩
  · simpa [hnames] using hlink
  · simpa [hnames, Ne.symm hba] using hdirectory
  · simpa [hnames, Ne.symm hfb, Ne.symm hfa] using hfile

end Filesystem

end Stocktake
