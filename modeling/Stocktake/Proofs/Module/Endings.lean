import Stocktake.Module.Standard
import Stocktake.Proofs.Store.Edits
import Stocktake.Proofs.Store.Runs

/-!
# How imports and exports end

An import runs commands, turns their outputs into writes, and asks for these in one batch.  It may end
early in many places; wherever it does, batches are off, the listeners have heard of nothing, and the store
holds what the writes before the place have done.  The listeners hear of an import or an export once if it
ends well.  Main statement: `submodules_end`.
-/

namespace Stocktake

/-- The output of a command; empty if it fails. -/
def Source.output (source : Source) (command : String) : String :=
  match source.run command with
  | .ok output => output
  | .error _ => ""

theorem Source.output_of_ok {source : Source} {command output : String}
    (h : source.run command = .ok output) : source.output command = output := by
  rw [Source.output, h]

theorem Source.run_of_ok {source : Source} {command output : String}
    (h : source.run command = .ok output) : source.run command = .ok (source.output command) := by
  rw [output_of_ok h, h]

/-- What an import is to do: the commands whose outputs it needs, in order; the writes that come of the
    store and the outputs; and the refusals that do not end it. -/
structure Import.Plan where
  submodule : Import
  commands : List String
  writes : Store → (String → String) → List Write
  passes : StoreError → Prop

/-- How an import ends: there is no source; or a command fails, and those before it do not; or the writes
    are asked for in one batch, as far as they are not refused.  Before the batch nothing is changed. -/
inductive Import.Plan.Ends (p : Plan) (w : World) : Except ModuleError Unit × World → Prop
  | noSource : w.source = none → p.Ends w (.error .noSource, w)
  | commandFailed {source : Source} {before after : List String} {command : String} {e : SourceError}
      {reports : List Report} :
      w.source = some source → p.commands = before ++ command :: after →
      (∀ earlier ∈ before, source.run earlier = .ok (source.output earlier)) →
      source.run command = .error e → p.Ends w (.error (.source e), { w with reports })
  | recorded {source : Source} {answer : Except StoreError Unit} {s : Store} {w' : World} :
      w.source = some source →
      (∀ command ∈ p.commands, source.run command = .ok (source.output command)) →
      Store.Run p.passes (w.store.setBatch true) (p.writes w.store source.output) answer s →
      w'.store = s.setBatch false →
      w'.beside = (match answer with
        | .ok () => w.post (.imported p.submodule.name)
        | .error _ => w).beside →
      p.Ends w (answer.mapError .store, w')

/-- What an import or an export leaves behind: batches are off, and the listeners have heard of it once if
    it ended well, and of nothing if it did not. -/
structure Announces (notice : Notice) (w : World) (result : Except ModuleError Unit × World) : Prop where
  off : result.2.store.inBatch = false
  told : result.1 = .ok () → result.2.notices = w.notices ++ [notice]
  silent : ∀ e, result.1 = .error e → result.2.notices = w.notices

section Announces

variable {notice : Notice} {w w' : World} {e : ModuleError}

theorem Announces.of_ok (hoff : w'.store.inBatch = false) (htold : w'.notices = w.notices ++ [notice]) :
    Announces notice w (.ok (), w') where
  off := hoff
  told _ := htold
  silent e h := by cases h

theorem Announces.of_error (hoff : w'.store.inBatch = false) (hsilent : w'.notices = w.notices) :
    Announces notice w (.error e, w') where
  off := hoff
  told h := by cases h
  silent _ _ := hsilent

end Announces

namespace Import.Plan

variable {p : Plan} {w : World} {result : Except ModuleError Unit × World}

theorem Ends.announces (hoff : w.store.inBatch = false) (h : p.Ends w result) :
    Announces (.imported p.submodule.name) w result := by
  cases h with
  | noSource => exact .of_error hoff rfl
  | commandFailed => exact .of_error hoff rfl
  | @recorded source answer s w' _ _ _ hstore hbeside =>
    have hclosed : w'.store.inBatch = false := by
      rw [hstore]
      rfl
    have hnotices := World.notices_eq_of_beside hbeside
    cases answer with
    | ok done => exact .of_ok hclosed hnotices
    | error e => exact .of_error hclosed hnotices

/-- An import asks for its writes in a batch, when no more than its progress has been reported, and tells
    the listeners if none of them ends it. -/
theorem ends_inBatch {source : Source} {ready : World} {body : World → Except StoreError Unit × World}
    (hsource : w.source = some source)
    (houtput : ∀ command ∈ p.commands, source.run command = .ok (source.output command))
    (hstore : ready.store = w.store) (hbeside : ready.beside = w.beside)
    (hbody : ∀ begun : World, begun.store = w.store.setBatch true →
      World.Runs p.passes (p.writes w.store source.output) begun (body begun)) :
    p.Ends w
      (match (World.inBatch body ready).1 with
      | .ok () => (.ok (), (World.inBatch body ready).2.post (.imported p.submodule.name))
      | .error e => (.error (.store e), (World.inBatch body ready).2)) := by
  have hbegun : (ready.write (.batch true)).2.store = w.store.setBatch true := by
    rw [← hstore]
    rfl
  have hrun := hbody (ready.write (.batch true)).2 hbegun
  have hasked := hrun.run
  rw [hbegun] at hasked
  have hsame : (World.inBatch body ready).2.beside = w.beside := hrun.beside.trans hbeside
  have hended : (World.inBatch body ready).2.store =
      (body (ready.write (.batch true)).2).2.store.setBatch false := rfl
  have hanswer : (World.inBatch body ready).1 = (body (ready.write (.batch true)).2).1 := rfl
  rw [← hanswer] at hasked
  cases hcase : (World.inBatch body ready).1 with
  | ok done =>
    rw [hcase] at hasked
    have htold := congrArg (World.post · (.imported p.submodule.name)) hsame
    exact .recorded hsource houtput hasked hended htold
  | error e =>
    rw [hcase] at hasked
    exact .recorded hsource houtput hasked hended hsame

/-- Where every output is to be had and all writes can be asked for, an import ends well, with the store
    that the writes leave. -/
theorem Ends.of_follows {source : Source} {s : Store} (h : p.Ends w result)
    (hsource : w.source = some source)
    (houtput : ∀ command ∈ p.commands, ∃ output, source.run command = .ok output)
    (hall : Store.Follows p.passes (w.store.setBatch true) (p.writes w.store source.output) s) :
    result.1 = .ok () ∧ result.2.store = s.setBatch false ∧ result.2.source = some source := by
  cases h with
  | noSource hnone =>
    rw [hsource] at hnone
    cases hnone
  | commandFailed hsome hcommands _ hfailed =>
    rw [hsource] at hsome
    cases hsome
    obtain ⟨output, houtput⟩ := houtput _ (hcommands ▸ List.mem_append_right _ List.mem_cons_self)
    rw [hfailed] at houtput
    cases houtput
  | recorded hsome _ hrun hstore hbeside =>
    rw [hsource] at hsome
    cases hsome
    obtain ⟨rfl, rfl⟩ := Store.Run.eq_of_follows hall hrun
    exact ⟨rfl, hstore, (World.source_eq_of_beside hbeside).trans hsource⟩

end Import.Plan

/-- What was found is recorded by the writes of each thing in order. -/
theorem runs_recordAll {α : Type} (writes : α → List Write) (message : String) (total done : Nat)
    (xs : List α) (w : World) :
    World.Runs Store.never (xs.flatMap writes) w (recordAll writes message total done xs w) := by
  induction xs generalizing done w with
  | nil => exact World.runs_nil w
  | cons x xs ih =>
    have hfirst := World.runs_writeAll (writes x) w
    rw [recordAll, List.flatMap_cons]
    cases hwrites : World.writeAll (writes x) w with
    | mk answer w' =>
      rw [hwrites] at hfirst
      cases answer with
      | ok _ => exact (hfirst.report _).after (ih (done + 1) _)
      | error e => exact hfirst.stopped (xs.flatMap writes)

namespace Filesystem

/-- The import of files, directories and symbolic links. -/
def plan : Import.Plan where
  submodule := filesImport
  commands := [filesCommand, directoriesCommand, symlinksCommand]
  writes _ output :=
    (foundIn (output filesCommand) (output directoriesCommand) (output symlinksCommand)).flatMap
      Found.writes
  passes := Store.never

theorem ends_runImport (w : World) : plan.Ends w (runImport w) := by
  unfold runImport
  cases hsource : w.source with
  | none => exact .noSource hsource
  | some source =>
    simp only
    cases hfiles : source.run filesCommand with
    | error e =>
      have hcommands : plan.commands = [] ++ filesCommand :: [directoriesCommand, symlinksCommand] := rfl
      exact .commandFailed hsource hcommands (by simp) hfiles
    | ok files =>
      cases hdirectories : source.run directoriesCommand with
      | error e =>
        have hcommands : plan.commands = [filesCommand] ++ directoriesCommand :: [symlinksCommand] := rfl
        refine .commandFailed hsource hcommands ?_ hdirectories
        simp [Source.run_of_ok hfiles]
      | ok directories =>
        cases hsymlinks : source.run symlinksCommand with
        | error e =>
          have hcommands : plan.commands = [filesCommand, directoriesCommand] ++ symlinksCommand :: [] :=
            rfl
          refine .commandFailed hsource hcommands ?_ hsymlinks
          simp [Source.run_of_ok hfiles, Source.run_of_ok hdirectories]
        | ok symlinks =>
          have hwrites : plan.writes w.store source.output =
              (foundIn files directories symlinks).flatMap Found.writes := by
            simp only [plan, Source.output_of_ok hfiles, Source.output_of_ok hdirectories,
              Source.output_of_ok hsymlinks]
          refine Import.Plan.ends_inBatch (p := plan) hsource ?_ rfl rfl fun begun _ => ?_
          · simp [plan, Source.run_of_ok hfiles, Source.run_of_ok hdirectories,
              Source.run_of_ok hsymlinks]
          · rw [hwrites]
            exact runs_recordAll ..

end Filesystem

namespace Packages

/-- The import of packages. -/
def packagesPlan : Import.Plan where
  submodule := packagesImport
  commands := [packagesCommand]
  writes _ output :=
    ((Text.lines (output packagesCommand)).filterMap PackageLine.ofLine?).flatMap PackageLine.writes
  passes := Store.never

theorem ends_runImport (w : World) : packagesPlan.Ends w (runImport w) := by
  unfold runImport
  cases hsource : w.source with
  | none => exact .noSource hsource
  | some source =>
    simp only
    cases houtput : source.run packagesCommand with
    | error e =>
      have hcommands : packagesPlan.commands = [] ++ packagesCommand :: [] := rfl
      exact .commandFailed hsource hcommands (by simp) houtput
    | ok output =>
      refine Import.Plan.ends_inBatch (p := packagesPlan) hsource ?_ rfl rfl fun begun _ => ?_
      · simp [packagesPlan, Source.run_of_ok houtput]
      · simp only [packagesPlan, Source.output_of_ok houtput]
        exact runs_recordAll ..

/-- Whether the package and the file of a line are both known. -/
def isKnown (s : Store) (link : String × String) : Bool :=
  s.contains (subjectOf link.1) && s.contains (Vocabulary.resourceUri "file" link.2)

/-- The link from a package to a file. -/
def linkWrite (link : String × String) : Write :=
  .link (subjectOf link.1) fileProperty (Vocabulary.resourceUri "file" link.2)

/-- The errors that links are not ended by. -/
def passesLink (e : StoreError) : Prop := ∃ uri, e = .notFound uri

/-- The import of the files of packages: links between subjects that are known. -/
def filesPlan : Import.Plan where
  submodule := filesImport
  commands := [filesCommand]
  writes s output :=
    (((Text.lines (output filesCommand)).filterMap parseFileLine?).filter (isKnown s)).map linkWrite
  passes := passesLink

/-- Links make no subject known. -/
theorem isKnown_of_edited {edit : String → Subject → Subject} {s s' : Store}
    (h : Store.Edited edit s s') : isKnown s' = isKnown s := by
  funext link
  rw [isKnown, isKnown, h.contains, h.contains]

theorem runs_linkFile (name path : String) (w : World) :
    World.Runs passesLink (([(name, path)].filter (isKnown w.store)).map linkWrite) w
        (linkFile name path w) ∧
      isKnown (linkFile name path w).2.store = isKnown w.store := by
  have hcondition : (w.store.contains (subjectOf name) &&
      w.store.contains (Vocabulary.resourceUri "file" path)) = isKnown w.store (name, path) := rfl
  have hlink : Write.link (subjectOf name) fileProperty (Vocabulary.resourceUri "file" path) =
      linkWrite (name, path) := rfl
  simp only [linkFile, hcondition, hlink]
  rw [List.filter_cons, List.filter_nil]
  by_cases hknown : isKnown w.store (name, path) = true
  · rw [if_pos hknown, if_pos hknown]
    have hbeside := w.beside_write (linkWrite (name, path))
    cases hwrite : w.store.write (linkWrite (name, path)) with
    | ok s =>
      rw [World.write_of_ok hwrite] at hbeside ⊢
      exact ⟨⟨.of_done hwrite, hbeside⟩, isKnown_of_edited (Store.edited_link hwrite)⟩
    | error e =>
      rw [World.write_of_error hwrite] at hbeside ⊢
      by_cases hpasses : passesLink e
      · obtain ⟨uri, rfl⟩ := hpasses
        exact ⟨⟨.of_passed hwrite ⟨uri, rfl⟩, hbeside⟩, rfl⟩
      · cases e with
        | notFound uri => exact absurd ⟨uri, rfl⟩ hpasses
        | query reason => exact ⟨⟨.of_refused hwrite hpasses, hbeside⟩, rfl⟩
        | detached => exact ⟨⟨.of_refused hwrite hpasses, hbeside⟩, rfl⟩
        | unsupported operation => exact ⟨⟨.of_refused hwrite hpasses, hbeside⟩, rfl⟩
  · rw [if_neg hknown, if_neg hknown]
    exact ⟨World.runs_nil w, rfl⟩

theorem runs_linkFiles (message : String) (total done : Nat) (links : List (String × String))
    (w : World) :
    World.Runs passesLink ((links.filter (isKnown w.store)).map linkWrite) w
      (linkFiles message total done links w) := by
  induction links generalizing done w with
  | nil => exact World.runs_nil w
  | cons link links ih =>
    obtain ⟨name, path⟩ := link
    obtain ⟨hfirst, hknown⟩ := runs_linkFile name path w
    have hwrites : (((name, path) :: links).filter (isKnown w.store)).map linkWrite =
        ([(name, path)].filter (isKnown w.store)).map linkWrite ++
          (links.filter (isKnown w.store)).map linkWrite := by
      rw [← List.map_append, ← List.filter_append, List.singleton_append]
    rw [hwrites, linkFiles]
    cases hlinked : linkFile name path w with
    | mk answer w' =>
      rw [hlinked] at hfirst hknown
      cases answer with
      | ok _ =>
        have hrest := ih (done + 1) (w'.report (.steps (done + 1) total message))
        have hsame : isKnown (w'.report (.steps (done + 1) total message)).store = isKnown w.store :=
          hknown
        rw [hsame] at hrest
        exact (hfirst.report _).after hrest
      | error e => exact hfirst.stopped _

theorem ends_runFilesImport (w : World) : filesPlan.Ends w (runFilesImport w) := by
  unfold runFilesImport
  cases hsource : w.source with
  | none => exact .noSource hsource
  | some source =>
    simp only
    cases houtput : source.run filesCommand with
    | error e =>
      have hcommands : filesPlan.commands = [] ++ filesCommand :: [] := rfl
      exact .commandFailed hsource hcommands (by simp) houtput
    | ok output =>
      refine Import.Plan.ends_inBatch (p := filesPlan) hsource ?_ rfl rfl fun begun hbegun => ?_
      · simp [filesPlan, Source.run_of_ok houtput]
      · have hknown : isKnown begun.store = isKnown w.store := by
          rw [hbegun]
          exact isKnown_of_edited (Store.edited_setBatch w.store true)
        simp only [filesPlan, Source.output_of_ok houtput, ← hknown]
        exact runs_linkFiles ..

/-- The file that parameters name for the list. -/
def exportPath (parameters : List Parameter) : Option String :=
  (Parameter.fileNamed fileParameter.name parameters).bind FileParameter.path

/-- The tags that parameters name for the list. -/
def exportTags (parameters : List Parameter) : List String :=
  ((Parameter.textNamed tagsParameter.name parameters).getD tagsParameter).values

/-- How the export ends: no file is named, or the query fails, or the file cannot be written; or the file is
    written.  Only then is more changed than what is reported. -/
inductive ExportEnds (parameters : List Parameter) (w : World) :
    Except ModuleError Unit × World → Prop
  | noFile : exportPath parameters = none →
      ExportEnds parameters w (.error (.missingParameter fileParameter.name), w)
  | queryFailed {path : String} {e : StoreError} {reports : List Report} :
      exportPath parameters = some path →
      w.store.select (selectionQuery (exportTags parameters)) = .error e →
      ExportEnds parameters w (.error (.store e), { w with reports })
  | notWritten {path : String} {rows : List Row} {octets : List UInt8} {reports : List Report} :
      exportPath parameters = some path →
      w.store.select (selectionQuery (exportTags parameters)) = .ok rows →
      w.files.write? w.workingDirectory path octets = none →
      ExportEnds parameters w (.error .io, { w with reports })
  | written {path : String} {rows : List Row} {octets : List UInt8} {files : FileTree}
      {reports : List Report} :
      exportPath parameters = some path →
      w.store.select (selectionQuery (exportTags parameters)) = .ok rows →
      w.files.write? w.workingDirectory path octets = some files →
      ExportEnds parameters w (.ok (), ({ w with files, reports } : World).post (.exported exportName))

theorem ends_runExport (parameters : List Parameter) (w : World) :
    ExportEnds parameters w (runExport parameters w) := by
  have hfile : (Parameter.fileNamed fileParameter.name parameters).bind FileParameter.path =
      exportPath parameters := rfl
  have htags : ((Parameter.textNamed tagsParameter.name parameters).getD tagsParameter).values =
      exportTags parameters := rfl
  simp only [runExport, hfile, htags]
  cases hpath : exportPath parameters with
  | none => exact .noFile hpath
  | some path =>
    simp only [exportTo]
    cases hselect : (w.report _).store.select (selectionQuery (exportTags parameters)) with
    | error e => exact .queryFailed hpath hselect
    | ok rows =>
      simp only
      split
      · rename_i hwrite
        exact .notWritten hpath hselect hwrite
      · rename_i files hwrite
        exact .written hpath hselect hwrite

theorem ExportEnds.announces {parameters : List Parameter} {w : World}
    {result : Except ModuleError Unit × World} (hoff : w.store.inBatch = false)
    (h : ExportEnds parameters w result) : Announces (.exported selectionExport.name) w result := by
  cases h with
  | noFile => exact .of_error hoff rfl
  | queryFailed => exact .of_error hoff rfl
  | notWritten => exact .of_error hoff rfl
  | written => exact .of_ok hoff rfl

end Packages

/-- What the imports of the modules that are always there are to do. -/
def standardPlans : List Import.Plan := [Filesystem.plan, Packages.packagesPlan, Packages.filesPlan]

/-- Each import and the export leaves batches off, whatever happens, and is announced if and only if it
    ends well.  Where no output is to be had, nothing is changed; and where a write ends an import, the
    store holds what the writes before it have done. -/
theorem submodules_end (hiddenTag : String) (w : World) (hoff : w.store.inBatch = false) :
    (Catalog.standard hiddenTag).imports = standardPlans.map Import.Plan.submodule ∧
      (∀ p ∈ standardPlans,
        Announces (.imported p.submodule.name) w (p.submodule.run w) ∧ p.Ends w (p.submodule.run w)) ∧
      (Catalog.standard hiddenTag).exports = [Packages.selectionExport] ∧
      ∀ parameters,
        Announces (.exported Packages.selectionExport.name) w
            (Packages.selectionExport.run parameters w) ∧
          Packages.ExportEnds parameters w (Packages.selectionExport.run parameters w) := by
  refine ⟨rfl, ?_, rfl, ?_⟩
  · intro p hp
    have hends : p.Ends w (p.submodule.run w) := by
      simp only [standardPlans, List.mem_cons, List.not_mem_nil, or_false] at hp
      rcases hp with rfl | rfl | rfl
      · exact Filesystem.ends_runImport w
      · exact Packages.ends_runImport w
      · exact Packages.ends_runFilesImport w
    exact ⟨hends.announces hoff, hends⟩
  · intro parameters
    have hends := Packages.ends_runExport parameters w
    exact ⟨hends.announces hoff, hends⟩

/-- The listing of directories is not to be had, and no import of files begins; the export goes well. -/
theorem submodules_end_noDirectories :
    let outputs := (Dict.empty.insert Filesystem.filesCommand "/a\n").insert Filesystem.symlinksCommand ""
    let w : World := { source := some (Source.ofOutputs outputs) }
    let imported := Filesystem.filesImport.run w
    let named := [.file { Packages.fileParameter with path := some "list" }, .text Packages.tagsParameter]
    let exported := Packages.selectionExport.run named w
    w.store.inBatch = false ∧
      imported.1 = .error (.source (.failed Filesystem.directoriesCommand (some 127) "unknown command")) ∧
      imported.2.notices = [] ∧ imported.2.store.inBatch = false ∧
      exported.1 = .ok () ∧ exported.2.notices = [.exported "dpkg selection list"] := by
  intro outputs w imported named exported
  obtain ⟨-, himports, -, hexport⟩ := submodules_end "hidden" w rfl
  have hfailed : imported.1 =
      .error (.source (.failed Filesystem.directoriesCommand (some 127) "unknown command")) := by
    rfl
  have hwritten : exported.1 = .ok () := by
    have hgood : exported.1.isOk = true := by decide +kernel
    cases hanswer : exported.1 with
    | ok done => rfl
    | error e =>
      rw [hanswer] at hgood
      cases hgood
  obtain ⟨himported, -⟩ := himports Filesystem.plan List.mem_cons_self
  exact ⟨rfl, hfailed, himported.silent _ hfailed, himported.off, hwritten,
    (hexport named).1.told hwritten⟩

end Stocktake
