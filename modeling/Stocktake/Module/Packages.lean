import Stocktake.Module.Recording
import Stocktake.Module.Rows

/-!
# The packages module

Installed packages and the files they own: a view, two imports, an export, an action that tags the
files of packages, and a filter.
-/

namespace Stocktake.Packages

/-- The kind of packages. -/
def packageKind : String := Vocabulary.uri "Package"

/-- The property of the name of a package. -/
def nameProperty : String := "http://inventag.local/packageName"

/-- The property of a version. -/
def versionProperty : String := "http://inventag.local/packageVersion"

/-- The property of a section. -/
def sectionProperty : String := "http://inventag.local/packageSection"

/-- The property that tells whether a package is essential. -/
def essentialProperty : String := "http://inventag.local/packageEssential"

/-- The property of a priority. -/
def priorityProperty : String := "http://inventag.local/packagePriority"

/-- The property of dependencies. -/
def dependenciesProperty : String := "http://inventag.local/packageDependencies"

/-- The property that leads from a package to a file it installed. -/
def fileProperty : String := "http://inventag.local/packageFile"

/-- The query for all packages. -/
def packagesQuery : String :=
  "SELECT DISTINCT ?resource ?name ?version WHERE \x7b ?resource a <http://inventag.local/Package> . " ++
    "?resource <http://inventag.local/packageName> ?name . " ++
    "?resource <http://inventag.local/packageVersion> ?version \x7d"

/-- The query for all packages with all that is known of them. -/
def detailsQuery : String :=
  "SELECT DISTINCT ?resource ?name ?version ?section ?essential ?priority ?dependencies WHERE \x7b " ++
    "?resource a <http://inventag.local/Package> . " ++
    "?resource <http://inventag.local/packageName> ?name . " ++
    "?resource <http://inventag.local/packageVersion> ?version . " ++
    "?resource <http://inventag.local/packageSection> ?section . " ++
    "?resource <http://inventag.local/packageEssential> ?essential . " ++
    "?resource <http://inventag.local/packagePriority> ?priority . " ++
    "?resource <http://inventag.local/packageDependencies> ?dependencies \x7d"

/-- The query of the filter for the files of a package, or for the packages of a file. -/
def filterTemplate : String :=
  "ASK \x7b \x7b ?package <http://inventag.local/packageName> ?pattern . " ++
    "?package <http://inventag.local/packageFile> ?uri \x7d UNION " ++
    "\x7b ?uri <http://inventag.local/packageFile> ?file . " ++
    "?file <http://inventag.local/path> ?pattern \x7d \x7d"

/-- The command that lists packages. -/
def packagesCommand : String :=
  "dpkg-query -W -f='$\x7bPackage\x7d\\t$\x7bVersion\x7d\\t$\x7bSection\x7d\\t" ++
    "$\x7bEssential\x7d\\t$\x7bPriority\x7d\\t$\x7bDepends\x7d\\n'"

/-- The command that lists the files of packages. -/
def filesCommand : String := "grep -H '' /var/lib/dpkg/info/*.list 2>/dev/null || true"

/-- The columns of the table of packages after the name, and the variables that they show. -/
def detailColumns : List (String × String) :=
  [("Version", "version"), ("Section", "section"), ("Essential", "essential"),
    ("Priority", "priority"), ("Dependencies", "dependencies")]

/-- The columns of the table of packages. -/
def columns : List String := "Name" :: detailColumns.map Prod.fst

/-- The record of a package in the table. -/
def detailsDraft? (row : Row) : Option Draft := do
  let uri ← row.get? "resource"
  let name ← row.get? "name"
  let fields := ("Name", name) ::
    detailColumns.map fun (column, variableName) => (column, (row.get? variableName).getD "")
  pure { display := name, reference := some { uri }, fields := .ofList fields }

/-- The record of a package in the list. -/
def packageDraft? (row : Row) : Option Draft := do
  let uri ← row.get? "resource"
  let name ← row.get? "name"
  let version := (row.get? "version").getD ""
  pure { display := name ++ " (" ++ version ++ ")", reference := some { uri } }

/-- The view on every package. -/
def packagesView (actions : List (Action World)) : View where
  name := "Packages"
  description := "Every imported package"
  shapes := [.list, .table]
  actions := actions
  produce store cache
    | .table =>
      (store.select detailsQuery).map fun rows =>
        issueTable cache (some columns) (sortDrafts (rows.filterMap detailsDraft?))
    | _ =>
      (store.select packagesQuery).map fun rows =>
        issueList cache (sortDrafts (rows.filterMap packageDraft?))

/-! ## Tagging the files of packages -/

/-- The name of a package and the names of its files; `none` if it has no name. -/
def packageFiles (store : Store) (reference : Reference) :
    Except StoreError (Option (String × List String)) :=
  match reference.attributeValues store nameProperty with
  | .error e => .error e
  | .ok [] => .ok none
  | .ok (name :: _) =>
    (reference.attributeValues store fileProperty).map fun files => some (name, files)

/-- Adds a tag to files; one that is not there is passed over. -/
def tagFiles (tag : Tag) : Tally → List String → World → Tally × World
  | t, [], w => (t, w)
  | t, file :: rest, w =>
    match w.write (.tag file tag) with
    | (.ok (), w) => tagFiles tag t.count rest w
    | (.error (.notFound _), w) => tagFiles tag t rest w
    | (.error e, w) => tagFiles tag (t.fail file e) rest w

/-- Tags the files of one package with its name. -/
def tagPackage (t : Tally) (r : Record) (w : World) : Tally × World :=
  match r.reference with
  | none => (t, w)
  | some reference =>
    match packageFiles w.store reference with
    | .error e => (t.fail r.display e, w)
    | .ok none => (t, w)
    | .ok (some (name, files)) =>
      tagFiles { name, detail := "Belongs to package " ++ name } t files w

/-- Tags the files of packages with the names of the packages. -/
def tagPackages (records : List Record) (w : World) : Outcome × World :=
  let (t, w) := changeTags tagPackage records w
  (.ofResults t.affected t.errors ("Tagged " ++ toString t.affected ++ " package files"), w)

/-- The action that tags the files of packages. -/
def tagFilesAction : Action World where
  name := "Tag package files"
  description := "Tag the files of the selected packages with the package name"
  need := .resources
  run _ records w :=
    let (outcome, w) := tagPackages records w
    (.ok outcome, w)

/-! ## Importing packages -/

/-- What is told of a package. -/
structure PackageLine where
  name : String
  version : String := ""
  sectionName : String := ""
  essential : String := ""
  priority : String := ""
  dependencies : String := ""
  deriving DecidableEq, Repr

/-- The package of a line: the parts between tabs in order, missing ones being empty.  Without a name
    there is no package. -/
def PackageLine.ofLine? (line : String) : Option PackageLine :=
  let parts := Text.pieces line "\t"
  let part := fun (i : Nat) => parts.getD i ""
  if part 0 = "" then none
  else some ⟨part 0, part 1, part 2, part 3, part 4, part 5⟩

/-- The name of the subject for a package. -/
def subjectOf (name : String) : String := Vocabulary.resourceUri "package" name

/-- The writes that record a package. -/
def PackageLine.writes (p : PackageLine) : List Write :=
  let uri := subjectOf p.name
  [.create uri packageKind p.name,
    .attribute uri nameProperty p.name,
    .attribute uri versionProperty p.version,
    .attribute uri sectionProperty p.sectionName,
    .attribute uri essentialProperty p.essential,
    .attribute uri priorityProperty p.priority,
    .attribute uri dependenciesProperty p.dependencies]

/-- How the import of packages is called. -/
def importName : String := "Packages (dpkg)"

/-- Imports packages. -/
def runImport (w : World) : Except ModuleError Unit × World :=
  match w.source with
  | none => (.error .noSource, w)
  | some source =>
    let w := w.report (.clamped .zero "Loading package information from the data source")
    match source.run packagesCommand with
    | .error e => (.error (.source e), w)
    | .ok output =>
      let message := "Importing packages"
      recordBatch importName message PackageLine.writes
        ((Text.lines output).filterMap PackageLine.ofLine?)
        (w.report (.clamped .zero message))

/-- The import of packages. -/
def packagesImport : Import where
  name := importName
  description := "Import installed packages through dpkg"
  run := runImport

/-! ## Importing the files of packages -/

/-- The package and the path of a line `list-file:path`.  The list is named after the package, with
    the architecture after a colon; the root directory is no file of a package. -/
def parseFileLine? (line : String) : Option (String × String) := do
  let (list, path) ← Text.cut? line ".list:"
  let base := Text.afterLast (· == '/') list.toList
  let name := String.ofList (base.takeWhile (· != ':'))
  if name = "" ∨ !Text.startsWith path "/" ∨ path = "/." then none else pure (name, path)

/-- Links a package to a file, if both are known.  A subject that is not there is passed over. -/
def linkFile (name path : String) (w : World) : Except StoreError Unit × World :=
  let package := subjectOf name
  let file := Vocabulary.resourceUri "file" path
  if w.store.contains package && w.store.contains file then
    match w.write (.link package fileProperty file) with
    | (.error (.notFound _), w) => (.ok (), w)
    | result => result
  else (.ok (), w)

/-- Links packages to files in order, up to the first link that is refused. -/
def linkFiles (message : String) (total : Nat) :
    (done : Nat) → List (String × String) → World → Except StoreError Unit × World
  | _, [], w => (.ok (), w)
  | done, (name, path) :: rest, w =>
    match linkFile name path w with
    | (.ok (), w) =>
      linkFiles message total (done + 1) rest (w.report (.steps (done + 1) total message))
    | (.error e, w) => (.error e, w)

/-- How the import of the files of packages is called. -/
def filesImportName : String := "Package files (dpkg)"

/-- Imports the files of packages. -/
def runFilesImport (w : World) : Except ModuleError Unit × World :=
  match w.source with
  | none => (.error .noSource, w)
  | some source =>
    let w := w.report (.clamped .zero "Loading package file lists from the data source")
    match source.run filesCommand with
    | .error e => (.error (.source e), w)
    | .ok output =>
      let message := "Linking packages to their files"
      let links := (Text.lines output).filterMap parseFileLine?
      let w := w.report (.clamped .zero message)
      let (r, w) := w.inBatch (linkFiles message (max links.length 1) 0 links)
      match r with
      | .ok () => (.ok (), w.post (.imported filesImportName))
      | .error e => (.error (.store e), w)

/-- The import of the files of packages. -/
def filesImport : Import where
  name := filesImportName
  description := "Link imported packages to the imported files they installed"
  run := runFilesImport

/-! ## Exporting a selection list -/

/-- The condition that a tag has one of the names. -/
def tagCondition (tags : List String) : String :=
  if tags.isEmpty then ""
  else
    "?resource <http://inventag.local/tag> ?t . " ++
      "?t <http://inventag.local/tagName> ?tagName . FILTER (" ++
      Text.join " || " (tags.map fun tag => "?tagName = " ++ Vocabulary.literal tag) ++ ") "

/-- The query for the names of packages, or of those with one of the tags. -/
def selectionQuery (tags : List String) : String :=
  "SELECT DISTINCT ?name WHERE \x7b ?resource a <http://inventag.local/Package> . " ++
    "?resource <http://inventag.local/packageName> ?name . " ++ tagCondition tags ++ "\x7d"

/-- The lines of a selection list: how many packages there are, and every package to be installed. -/
def selectionLines (names : List String) : List String :=
  ("# Packages: " ++ toString names.length) :: names.map fun name => name ++ " install"

/-- Where the list is written. -/
def fileParameter : FileParameter where
  name := "File"
  description := "The package list is written to this file"
  saves := true

/-- The tags of the packages that are listed. -/
def tagsParameter : TextParameter where
  name := "Only these tags"
  description :=
    "When set, only packages carrying at least one of these tags are exported"
  separator := some ","
  choices := some .tagNames

/-- How the export is called. -/
def exportName : String := "dpkg selection list"

/-- Writes the list of the packages with one of the tags to a file. -/
def exportTo (path : String) (tags : List String) (w : World) : Except ModuleError Unit × World :=
  let w := w.report (.clamped .zero "Querying packages")
  match w.store.select (selectionQuery tags) with
  | .error e => (.error (.store e), w)
  | .ok rows =>
    let names := sortByKey Text.lowercase (rows.filterMap fun row => row.get? "name")
    let text := String.join ((selectionLines names).map fun line => line ++ "\n")
    match w.files.write? w.workingDirectory path (Text.octets text) with
    | none => (.error .io, w)
    | some files =>
      let w := { w with files }
      let w := w.report (.clamped .one "Package list written")
      (.ok (), w.post (.exported exportName))

/-- Writes the list that the parameters ask for. -/
def runExport (parameters : List Parameter) (w : World) : Except ModuleError Unit × World :=
  let tags := (Parameter.textNamed tagsParameter.name parameters).getD tagsParameter
  match (Parameter.fileNamed fileParameter.name parameters).bind FileParameter.path with
  | none => (.error (.missingParameter fileParameter.name), w)
  | some path => exportTo path tags.values w

/-- The export. -/
def selectionExport : Export where
  name := exportName
  description := "Export packages as a list for 'dpkg --set-selections'"
  parameters := [.file fileParameter, .text tagsParameter]
  run := runExport

/-- The filter for the files of a package. -/
def filesFilter : DecideFactory :=
  .askTemplate "dpkg" "Package files"
    "Files belonging to the named package, or packages containing the file at this path"
    filterTemplate

/-- The module. -/
def module (hiddenTag : String) : Module where
  name := "Packages"
  description := "Installed software packages and the files they own"
  views := [(packagesView (Action.standard hiddenTag)).withAction tagFilesAction]
  imports := [packagesImport, filesImport]
  exports := [selectionExport]
  filters := [filesFilter]

end Stocktake.Packages
