import Mathlib.Algebra.BigOperators.Group.Finset.Sigma
import Mathlib.Algebra.BigOperators.Ring.Finset
import Stocktake.Proofs.Action.TagEdits
import Stocktake.Proofs.Module.PackageImports

/-!
# The tags that the files of packages get

Tagging the files of packages follows the links from packages to files: for every selected record of a
package, each file gets the name of the package as a tag, once for each link to it.  The tags change
neither names nor links, so that every record finds what the imports have left.  Main statement:
`package_tags_of_listings` counts the tags from the listings on.
-/

namespace Stocktake

open Store (Edited)

namespace Packages

variable {l : Listings} {s s' : Store} {w : World}

/-- The tag of the files of a package. -/
def packageTag (name : String) : Tag := { name, detail := "Belongs to package " ++ name }

/-! ## Tagging -/

/-- Files that are known get the tag as often as they are named, and each time is counted. -/
theorem tagFiles_of_known (tag : Tag) (t : Tally) {files : List String}
    (hgranted : w.store.RefusesNothing) (hfiles : ∀ file ∈ files, w.store.contains file = true) :
    (tagFiles tag t files w).1 = { t with affected := t.affected + files.length } ∧
      Edited (fun uri x => x.tagged (List.replicate (files.count uri) tag)) w.store
        (tagFiles tag t files w).2.store := by
  induction files generalizing t w with
  | nil =>
    refine ⟨rfl, (Edited.refl w.store).congr fun uri x _ => ?_⟩
    rw [List.count_nil, List.replicate_zero, Subject.tagged_nil]
  | cons file files ih =>
    have hfile := hfiles file List.mem_cons_self
    rcases Write.edits_tag file tag w.store with ⟨s', hwrite, -, hedited⟩ | ⟨e, -, hfailed⟩
    · rw [tagFiles, World.write_of_ok hwrite]
      obtain ⟨htally, hrest⟩ := ih t.count (w := { w with store := s', writes := _ })
        (hgranted.of_edited hedited) fun other hother => by
          rw [hedited.contains]
          exact hfiles other (List.mem_cons_of_mem _ hother)
      refine ⟨?_, (hedited.trans hrest).congr fun uri x _ => ?_⟩
      · rw [htally, Tally.count, List.length_cons]
        simp only [Nat.add_assoc, Nat.add_comm 1]
      · by_cases huri : uri = file
        · subst huri
          rw [if_pos rfl, Subject.tagged_tagged, List.count_cons_self, List.replicate_succ,
            List.singleton_append]
        · rw [if_neg huri, List.count_cons_of_ne (Ne.symm huri)]
    · rcases hfailed with hrefused | hnone
      · rw [hgranted] at hrefused
        cases hrefused
      · rw [Store.contains, Dict.has, hnone] at hfile
        cases hfile

/-- Tags change nothing of what a record finds. -/
theorem linked_of_tagged {more : String → List Tag} (h : l.Linked s)
    (hedited : Edited (fun uri x => x.tagged (more uri)) s s') : l.Linked s' := by
  have hvalues (uri property : String) :
      s'.attributeValues uri property = s.attributeValues uri property := by
    rw [Store.attributeValues, Store.attributeValues, Store.subject, Store.subject,
      hedited.refused?, hedited.get?]
    cases s.refused? .attributeValues uri with
    | some e => rfl
    | none =>
      cases s.subjects.get? uri with
      | none => rfl
      | some x => rfl
  refine ⟨h.granted.of_edited hedited, fun q hq => ?_, fun p hp => ?_, fun p hp => ?_⟩
  · rw [hedited.contains, h.file q hq]
  · rw [hvalues, h.name p hp]
  · rw [hvalues, h.files p hp]

/-- The tags that a subject gets when the packages are picked in order. -/
def tagsFor (l : Listings) (picked : List String) (uri : String) : List Tag :=
  picked.flatMap fun p => List.replicate ((l.filesOf p).count uri) (packageTag p)

/-- The record is to the subject of a package that is listed. -/
def IsOf (l : Listings) (r : Record) (p : String) : Prop :=
  p ∈ l.names ∧ r.reference = some { uri := subjectOf p }

theorem tagPackage_of_linked (h : l.Linked w.store) {r : Record} {p : String} (hr : IsOf l r p)
    (t : Tally) : tagPackage t r w = tagFiles (packageTag p) t (l.filesOf p) w := by
  obtain ⟨hp, hreference⟩ := hr
  have hfound : packageFiles w.store { uri := subjectOf p } = .ok (some (p, l.filesOf p)) := by
    simp only [packageFiles, Reference.attributeValues, if_true, h.name p hp, h.files p hp]
    rfl
  simp only [tagPackage, hreference, hfound]
  rfl

theorem overRecords_tagPackage {selection : List Record} {picked : List String}
    (hpicked : List.Forall₂ (IsOf l) selection picked) (h : l.Linked w.store) (t : Tally) :
    (overRecords tagPackage t selection w).1 =
        { t with affected := t.affected + (picked.map fun p => (l.filesOf p).length).sum } ∧
      Edited (fun uri x => x.tagged (tagsFor l picked uri)) w.store
        (overRecords tagPackage t selection w).2.store := by
  induction hpicked generalizing t w with
  | nil => exact ⟨rfl, (Edited.refl w.store).congr fun uri x _ => x.tagged_nil.symm⟩
  | @cons r p selection picked hr _ ih =>
    have hfiles : ∀ file ∈ l.filesOf p, w.store.contains file = true := by
      intro file hfile
      obtain ⟨q, hq, rfl⟩ := List.mem_map.1 hfile
      exact h.file q (l.mem_pathsOf.1 hq).2
    obtain ⟨htally, hedited⟩ := tagFiles_of_known (packageTag p) t h.granted hfiles
    rw [overRecords, tagPackage_of_linked h hr t]
    obtain ⟨htally', hedited'⟩ := ih (linked_of_tagged h hedited)
      (tagFiles (packageTag p) t (l.filesOf p) w).1
    refine ⟨?_, (hedited.trans hedited').congr fun uri x _ => ?_⟩
    · rw [htally', htally, List.map_cons, List.sum_cons, Nat.add_assoc]
    · rw [Subject.tagged_tagged, tagsFor, tagsFor, List.flatMap_cons]

/-- The batch around the run changes neither what is found nor what is done. -/
theorem changeTags_tagPackage {selection : List Record} {picked : List String}
    (hpicked : List.Forall₂ (IsOf l) selection picked) (h : l.Linked w.store) :
    (changeTags tagPackage selection w).1 =
        { affected := (picked.map fun p => (l.filesOf p).length).sum } ∧
      Edited (fun uri x => x.tagged (tagsFor l picked uri)) w.store
        (changeTags tagPackage selection w).2.store := by
  have hbegun := Store.edited_setBatch w.store true
  have hlinked : l.Linked (w.write (.batch true)).2.store :=
    linked_of_tagged h (hbegun.congr fun _ x _ => x.tagged_nil.symm)
  obtain ⟨htally, hedited⟩ := overRecords_tagPackage hpicked hlinked {}
  have hended := Store.edited_setBatch
    (overRecords tagPackage {} selection (w.write (.batch true)).2).2.store false
  refine ⟨?_, ?_⟩
  · rw [Nat.zero_add] at htally
    exact htally
  · rw [changeTags, store_postTagsChanged]
    exact (hbegun.trans hedited).trans hended

/-! ## Counting -/

theorem countP_tagsFor (l : Listings) (picked : List String) (uri p : String) :
    (tagsFor l picked uri).countP (fun t => t.name = p) =
      (l.filesOf p).count uri * picked.count p := by
  induction picked with
  | nil => rfl
  | cons p' picked ih =>
    have htags : tagsFor l (p' :: picked) uri =
        List.replicate ((l.filesOf p').count uri) (packageTag p') ++ tagsFor l picked uri := rfl
    rw [htags, List.countP_append, ih, List.countP_replicate, List.count_cons]
    by_cases hp : p' = p
    · subst hp
      simp [packageTag, Nat.mul_add, Nat.add_comm]
    · simp [packageTag, hp]

/-- The tags are those of picked packages, on listed files of theirs. -/
theorem mem_tagsFor {picked : List String} {uri : String} {tag : Tag}
    (h : tag ∈ tagsFor l picked uri) :
    ∃ q ∈ l.paths, ∃ p ∈ picked, uri = Filesystem.subjectOf q ∧ tag = packageTag p := by
  obtain ⟨p, hp, hmem⟩ := List.mem_flatMap.1 h
  obtain ⟨hcount, rfl⟩ := List.mem_replicate.1 hmem
  obtain ⟨q, hq, rfl⟩ := List.mem_map.1 (List.count_pos_iff.1 (Nat.pos_of_ne_zero hcount))
  exact ⟨q, (l.mem_pathsOf.1 hq).2, p, hp, rfl, rfl⟩

/-- A subject without tags before has those that it gets; only subjects that are known get any. -/
theorem tags_of_edited {picked : List String} (h : l.Linked s)
    (huntagged : ∀ uri x, s.subjects.get? uri = some x → x.tags = [])
    (hedited : Edited (fun uri x => x.tagged (tagsFor l picked uri)) s s') (uri : String) :
    ((s'.subjects.get? uri).map Subject.tags).getD [] = tagsFor l picked uri := by
  rw [hedited.get?]
  cases hget : s.subjects.get? uri with
  | some x =>
    rw [Option.map_some, Option.map_some, Option.getD_some, Subject.tagged, huntagged uri x hget,
      List.nil_append]
  | none =>
    refine (List.eq_nil_iff_forall_not_mem.2 fun t ht => ?_).symm
    obtain ⟨q, hq, p, -, rfl, -⟩ := mem_tagsFor ht
    have hknown := h.file q hq
    rw [Store.contains, Dict.has, hget] at hknown
    cases hknown

theorem count_pathsOf (l : Listings) (p q : String) :
    (l.pathsOf p).count q = if q ∈ l.paths then l.links.count (p, q) else 0 := by
  rw [Listings.pathsOf, List.count_eq_countP, List.countP_map, List.countP_filter]
  by_cases hpath : q ∈ l.paths
  · rw [if_pos hpath, List.count_eq_countP]
    refine List.countP_congr fun x _ => ?_
    simp only [Function.comp, Bool.and_eq_true, beq_iff_eq, decide_eq_true_eq, Prod.ext_iff]
    constructor
    · rintro ⟨hq, hp, -⟩
      exact ⟨hp, hq⟩
    · rintro ⟨hp, hq⟩
      exact ⟨hq, hp, hq ▸ hpath⟩
  · rw [if_neg hpath, List.countP_eq_zero]
    intro x _ hx
    simp only [Function.comp, Bool.and_eq_true, beq_iff_eq, decide_eq_true_eq] at hx
    obtain ⟨rfl, -, hlisted⟩ := hx
    exact hpath hlisted

/-- Where digests are distinct, a subject is named as often as its path. -/
theorem count_filesOf {texts : List String} (hdistinct : DistinctDigests texts)
    (hwithin : l.Within texts) {q : String} (hq : q ∈ texts) (p : String) :
    (l.filesOf p).count (Filesystem.subjectOf q) =
      if q ∈ l.paths then l.links.count (p, q) else 0 := by
  rw [← count_pathsOf, Listings.filesOf, List.count_eq_countP, List.count_eq_countP, List.countP_map]
  refine List.countP_congr fun q' hq' => ?_
  have hlink := hwithin.link (l.mem_pathsOf.1 hq').1
  have hsame : Filesystem.subjectOf q' = Filesystem.subjectOf q ↔ q' = q :=
    hdistinct.resourceUri hlink.2 hq
  simpa using hsame

theorem sum_map_eq_sum_count {xs ys : List String} (h : ∀ x ∈ xs, x ∈ ys) (f : String → Nat) :
    (xs.map f).sum = ∑ y ∈ ys.toFinset, xs.count y * f y := by
  rw [Finset.sum_list_map_count]
  change ∑ x ∈ xs.toFinset, xs.count x * f x = _
  refine Finset.sum_subset (fun x hx => ?_) fun y _ hy => ?_
  · exact List.mem_toFinset.2 (h x (List.mem_toFinset.1 hx))
  · rw [List.count_eq_zero_of_not_mem fun hmem => hy (List.mem_toFinset.2 hmem), Nat.zero_mul]

theorem length_filesOf (l : Listings) (p : String) :
    (l.filesOf p).length = ∑ q ∈ l.paths.toFinset, l.links.count (p, q) := by
  have hlisted : ∀ q ∈ l.pathsOf p, q ∈ l.paths := by
    intro q hq
    exact (l.mem_pathsOf.1 hq).2
  have hsum := sum_map_eq_sum_count hlisted fun _ => 1
  rw [List.map_const', List.sum_replicate_nat, Nat.mul_one] at hsum
  rw [Listings.filesOf, List.length_map, hsum]
  refine Finset.sum_congr rfl fun q hq => ?_
  rw [Nat.mul_one, count_pathsOf, if_pos (List.mem_toFinset.1 hq)]

/-! ## Selections -/

theorem exists_picked {selection : List Record}
    (h : ∀ r ∈ selection, ∃ p ∈ l.names, r.reference = some { uri := subjectOf p }) :
    ∃ picked, List.Forall₂ (IsOf l) selection picked := by
  induction selection with
  | nil => exact ⟨[], .nil⟩
  | cons r selection ih =>
    obtain ⟨p, hp, hr⟩ := h r List.mem_cons_self
    obtain ⟨picked, hpicked⟩ := ih fun x hx => h x (List.mem_cons_of_mem _ hx)
    exact ⟨p :: picked, .cons ⟨hp, hr⟩ hpicked⟩

theorem mem_names_of_mem_picked {selection : List Record} {picked : List String}
    (h : List.Forall₂ (IsOf l) selection picked) {p : String} (hp : p ∈ picked) : p ∈ l.names := by
  induction h with
  | nil => cases hp
  | cons hr _ ih =>
    rcases List.mem_cons.1 hp with rfl | hp
    · exact hr.1
    · exact ih hp

/-- Where digests are distinct, a package is picked as often as records of it are selected. -/
theorem count_picked {texts : List String} (hdistinct : DistinctDigests texts)
    (hwithin : l.Within texts) {selection : List Record} {picked : List String}
    (h : List.Forall₂ (IsOf l) selection picked) {p : String} (hp : p ∈ l.names) :
    picked.count p = selection.countP fun r => r.reference = some { uri := subjectOf p } := by
  induction h with
  | nil => rfl
  | @cons r p' selection picked hr _ ih =>
    have hsame : subjectOf p' = subjectOf p ↔ p' = p :=
      hdistinct.resourceUri (hwithin.name hr.1) (hwithin.name hp)
    rw [List.count_cons, List.countP_cons, ih, hr.2]
    simp [hsame]

end Packages

/-- How often the subject of a path gets the tag of a package when records are selected: once for every
    line that tells of the two and every record of the package, if both are listed. -/
def Listings.tagCount (l : Listings) (selection : List Record) (q p : String) : Nat :=
  if q ∈ l.paths ∧ p ∈ l.names then
    l.links.count (p, q) *
      selection.countP fun r => r.reference = some { uri := Packages.subjectOf p }
  else 0

namespace Packages

section Picked

variable {l : Listings} {texts : List String} {selection : List Record} {picked : List String}

theorem count_tagsFor (hdistinct : DistinctDigests texts) (hwithin : l.Within texts)
    (hpicked : List.Forall₂ (IsOf l) selection picked) {q : String} (hq : q ∈ texts) (p : String) :
    (tagsFor l picked (Filesystem.subjectOf q)).countP (fun t => t.name = p) =
      l.tagCount selection q p := by
  rw [countP_tagsFor, count_filesOf hdistinct hwithin hq, Listings.tagCount]
  by_cases hpath : q ∈ l.paths
  · by_cases hname : p ∈ l.names
    · rw [if_pos hpath, if_pos ⟨hpath, hname⟩, count_picked hdistinct hwithin hpicked hname]
    · have hnone : picked.count p = 0 :=
        List.count_eq_zero_of_not_mem fun hp => hname (mem_names_of_mem_picked hpicked hp)
      rw [hnone, Nat.mul_zero, if_neg fun h => hname h.2]
  · rw [if_neg hpath, Nat.zero_mul, if_neg fun h => hpath h.1]

/-- All tags of all picked packages, counted by path and package. -/
theorem sum_length_filesOf (hdistinct : DistinctDigests texts) (hwithin : l.Within texts)
    (hpicked : List.Forall₂ (IsOf l) selection picked) :
    (picked.map fun p => (l.filesOf p).length).sum =
      ∑ q ∈ l.paths.toFinset, ∑ p ∈ l.names.toFinset, l.tagCount selection q p := by
  rw [sum_map_eq_sum_count fun p => mem_names_of_mem_picked hpicked, Finset.sum_comm]
  refine Finset.sum_congr rfl fun p hp => ?_
  have hname := List.mem_toFinset.1 hp
  rw [length_filesOf, Finset.mul_sum]
  refine Finset.sum_congr rfl fun q hq => ?_
  rw [Listings.tagCount, if_pos ⟨List.mem_toFinset.1 hq, hname⟩,
    count_picked hdistinct hwithin hpicked hname, Nat.mul_comm]

end Picked

/-- The action is called on every record of a package, if there is one. -/
theorem invoke_tagFilesAction {selection : List Record} (w : World)
    (h : ∀ r ∈ selection, r.reference.isSome = true) :
    tagFilesAction.invoke selection w =
      if selection = [] then (.error (.actionDisabled tagFilesAction.name), w)
      else tagFilesAction.run tagFilesAction.parameters selection w := by
  cases selection with
  | nil => rfl
  | cons r selection =>
    have henabled : tagFilesAction.isEnabled (r :: selection) = true :=
      List.any_eq_true.2 ⟨r, List.mem_cons_self, h r List.mem_cons_self⟩
    have hpass : tagFilesAction.need.pass (r :: selection) = r :: selection :=
      List.filter_eq_self.2 h
    rw [Action.invoke, if_pos henabled, hpass, if_neg (List.cons_ne_nil r selection)]

end Packages

/-- From an empty store and listings to tags: where the names and paths have distinct digests, every path
    has the tag of a package as often as the listings and the selection tell, there are no other tags, and
    the outcome counts them all.  Nothing being selected, the action is disabled.  Listed are the paths that
    are lines of files or directories or first columns of links, and the names that are first columns. -/
theorem package_tags_of_listings (w : World) (source : Source) (l : Listings) (texts : List String)
    (selection : List Record) (hempty : w.store.subjects = .empty)
    (hgranted : w.store.RefusesNothing) (hsource : w.source = some source)
    (hprinted : l.PrintedBy source) (hwithin : l.Within texts) (hdistinct : DistinctDigests texts)
    (hselection : ∀ r ∈ selection, ∃ p ∈ l.names,
      r.reference = some { uri := Packages.subjectOf p }) :
    let listed := Filesystem.filesImport.run w
    let packaged := Packages.packagesImport.run listed.2
    let linked := Packages.filesImport.run packaged.2
    let action := Packages.tagFilesAction
    let tagged := action.run action.parameters selection linked.2
    let affected := ∑ q ∈ l.paths.toFinset, ∑ p ∈ l.names.toFinset, l.tagCount selection q p
    listed.1 = .ok () ∧ packaged.1 = .ok () ∧ linked.1 = .ok () ∧
      (∀ q ∈ texts, ∀ p,
        (((tagged.2.store.subjects.get? (Filesystem.subjectOf q)).map Subject.tags).getD []).countP
          (fun t => t.name = p) = l.tagCount selection q p) ∧
      (∀ uri x, tagged.2.store.subjects.get? uri = some x → ∀ t ∈ x.tags,
        ∃ q ∈ l.paths, ∃ p ∈ l.names,
          uri = Filesystem.subjectOf q ∧ t = { name := p, detail := "Belongs to package " ++ p }) ∧
      tagged.1 = .ok (.success affected ("Tagged " ++ toString affected ++ " package files")) ∧
      (action.invoke selection linked.2 =
        if selection = [] then (.error (.actionDisabled action.name), linked.2) else tagged) ∧
      (∀ q, q ∈ l.paths ↔ (q ≠ "" ∧ (q ∈ Text.lines l.files ∨ q ∈ Text.lines l.directories)) ∨
        ∃ line ∈ Text.lines l.symlinks, line ≠ "" ∧ FirstColumn q line) ∧
      (∀ p, p ∈ l.names ↔ p ≠ "" ∧ ∃ line ∈ Text.lines l.packages, FirstColumn p line) ∧
      ∀ p q, l.links.count (p, q) = (Text.lines l.packageFiles).countP fun line =>
        Packages.parseFileLine? line = some (p, q) := by
  intro listed packaged linked action tagged affected
  obtain ⟨hlisted, hpackaged, hlinked, hstore, huntagged⟩ :=
    Listings.imports_linked hempty hgranted hsource hprinted hwithin hdistinct
  obtain ⟨picked, hpicked⟩ := Packages.exists_picked hselection
  obtain ⟨htally, hedited⟩ := Packages.changeTags_tagPackage hpicked hstore
  have htags : ∀ uri, ((tagged.2.store.subjects.get? uri).map Subject.tags).getD [] =
      Packages.tagsFor l picked uri := Packages.tags_of_edited hstore huntagged hedited
  refine ⟨hlisted, hpackaged, hlinked, fun q hq p => ?_, fun uri x hx t ht => ?_, ?_, ?_,
    fun _ => l.mem_paths, fun _ => l.mem_names, l.count_links⟩
  · rw [htags, Packages.count_tagsFor hdistinct hwithin hpicked hq]
  · have hx' := htags uri
    rw [hx, Option.map_some, Option.getD_some] at hx'
    obtain ⟨q, hq, p, hp, huri, rfl⟩ := Packages.mem_tagsFor (hx' ▸ ht)
    exact ⟨q, hq, p, Packages.mem_names_of_mem_picked hpicked hp, huri, rfl⟩
  · have houtcome : tagged.1 = .ok (.ofResults
        (changeTags Packages.tagPackage selection linked.2).1.affected
        (changeTags Packages.tagPackage selection linked.2).1.errors
        ("Tagged " ++ toString (changeTags Packages.tagPackage selection linked.2).1.affected ++
          " package files")) := rfl
    rw [houtcome, htally, Packages.sum_length_filesOf hdistinct hwithin hpicked]
    rfl
  · refine Packages.invoke_tagFilesAction linked.2 fun r hr => ?_
    obtain ⟨p, -, hreference⟩ := hselection r hr
    rw [hreference]
    rfl

/-- A path that is told of twice for a package of which two records are selected gets four tags, and a
    directory and a link that are told of once get two each; a path that is not listed gets none, and there is
    no tag of a package that is not listed. -/
theorem package_tags_of_listings_dash :
    let l : Listings := {
      files := "/bin/sh\n"
      directories := "\n/etc\n"
      symlinks := "/bin/rsh\tsh\n"
      packages := "dash\t0.5\n"
      packageFiles :=
        "/var/lib/dpkg/info/dash.list:/bin/sh\n/var/lib/dpkg/info/dash:amd64.list:/bin/sh\n" ++
          "/var/lib/dpkg/info/dash.list:/etc\n/var/lib/dpkg/info/dash.list:/bin/rsh\n" ++
          "/var/lib/dpkg/info/dash.list:/gone\n/var/lib/dpkg/info/bash.list:/bin/sh\n" }
    let outputs := ((((Dict.empty.insert Filesystem.filesCommand l.files).insert
      Filesystem.directoriesCommand l.directories).insert Filesystem.symlinksCommand l.symlinks).insert
      Packages.packagesCommand l.packages).insert Packages.filesCommand l.packageFiles
    let w : World := { source := some (Source.ofOutputs outputs) }
    let dash : Record :=
      { id := 0, display := "dash", reference := some { uri := Packages.subjectOf "dash" } }
    let linked := Packages.filesImport.run
      (Packages.packagesImport.run (Filesystem.filesImport.run w).2).2
    let tagged := Packages.tagFilesAction.invoke [dash, dash] linked.2
    let count (q p : String) :=
      (((tagged.2.store.subjects.get? (Filesystem.subjectOf q)).map Subject.tags).getD []).countP
        fun t => t.name = p
    tagged.1 = .ok (.success 8 "Tagged 8 package files") ∧
      count "/bin/sh" "dash" = 4 ∧ count "/etc" "dash" = 2 ∧ count "/bin/rsh" "dash" = 2 ∧
      count "/gone" "dash" = 0 ∧ count "/bin/sh" "bash" = 0 := by
  intro l outputs w dash linked tagged count
  have hprinted : l.PrintedBy (Source.ofOutputs outputs) := ⟨rfl, rfl, rfl, rfl, rfl⟩
  have hpaths : l.paths = ["/bin/sh", "/etc", "/bin/rsh"] := by decide +kernel
  have hnames : l.names = ["dash"] := by decide +kernel
  have hlinks : l.links = [("dash", "/bin/sh"), ("dash", "/bin/sh"), ("dash", "/etc"),
      ("dash", "/bin/rsh"), ("dash", "/gone"), ("bash", "/bin/sh")] := by
    decide +kernel
  let texts := ["/bin/sh", "/etc", "/bin/rsh", "/gone", "dash", "bash"]
  have hwithin : l.Within texts := by
    refine ⟨?_, ?_, ?_⟩
    · simp [hpaths, texts]
    · simp [hnames, texts]
    · simp [hlinks, texts]
  have hdistinct : DistinctDigests texts := by decide +kernel
  have hselection : ∀ r ∈ [dash, dash], ∃ p ∈ l.names,
      r.reference = some { uri := Packages.subjectOf p } := by
    simp [hnames, dash]
  obtain ⟨-, -, -, hcount, -, hanswer, hinvoke, -⟩ := package_tags_of_listings w
    (Source.ofOutputs outputs) l texts [dash, dash] rfl (fun _ _ => rfl) rfl hprinted hwithin hdistinct
    hselection
  rw [if_neg (List.cons_ne_nil dash [dash])] at hinvoke
  have htagged : tagged = _ := hinvoke
  have hfile : l.tagCount [dash, dash] "/bin/sh" "dash" = 4 := by
    simp [Listings.tagCount, hpaths, hnames, hlinks, dash]
  have hdirectory : l.tagCount [dash, dash] "/etc" "dash" = 2 := by
    simp [Listings.tagCount, hpaths, hnames, hlinks, dash]
  have hlink : l.tagCount [dash, dash] "/bin/rsh" "dash" = 2 := by
    simp [Listings.tagCount, hpaths, hnames, hlinks, dash]
  have htotal :
      ∑ q ∈ l.paths.toFinset, ∑ p ∈ l.names.toFinset, l.tagCount [dash, dash] q p = 8 := by
    rw [hpaths, hnames]
    simp [hfile, hdirectory, hlink]
  simp only [count, htagged]
  refine ⟨?_, ?_, ?_, ?_, ?_, ?_⟩
  · rw [hanswer, htotal]
    rfl
  · exact (hcount "/bin/sh" (by simp [texts]) "dash").trans hfile
  · exact (hcount "/etc" (by simp [texts]) "dash").trans hdirectory
  · exact (hcount "/bin/rsh" (by simp [texts]) "dash").trans hlink
  · exact (hcount "/gone" (by simp [texts]) "dash").trans (by simp [Listings.tagCount, hpaths])
  · exact (hcount "/bin/sh" (by simp [texts]) "bash").trans (by simp [Listings.tagCount, hnames])

end Stocktake
