import Stocktake.Module.Basic
import Stocktake.Module.Recording
import Stocktake.Module.Rows

/-!
# The filesystem module

Views on imported files, directories and symbolic links, and the import of them.
-/

namespace Stocktake.Filesystem

/-- The kind of files. -/
def fileKind : String := Vocabulary.uri "File"

/-- The kind of directories. -/
def directoryKind : String := Vocabulary.uri "Directory"

/-- The kind of symbolic links. -/
def symlinkKind : String := Vocabulary.uri "Symlink"

/-- The property of the path of a file. -/
def pathProperty : String := "http://inventag.local/path"

/-- The property of the target of a link. -/
def targetProperty : String := "http://inventag.local/target"

/-- The query for all files and directories. -/
def filesQuery : String :=
  "SELECT DISTINCT ?resource ?path WHERE \x7b ?resource <http://inventag.local/path> ?path . " ++
    "\x7b ?resource a <http://inventag.local/File> \x7d UNION " ++
    "\x7b ?resource a <http://inventag.local/Directory> \x7d \x7d"

/-- The query for all symbolic links. -/
def symlinksQuery : String :=
  "SELECT ?resource ?path ?target WHERE \x7b ?resource a <http://inventag.local/Symlink> . " ++
    "?resource <http://inventag.local/path> ?path . " ++
    "OPTIONAL \x7b ?resource <http://inventag.local/target> ?target \x7d \x7d"

/-- The command that lists files. -/
def filesCommand : String := "find / -xdev -type f 2>/dev/null || true"

/-- The command that lists directories. -/
def directoriesCommand : String := "find / -xdev -type d 2>/dev/null || true"

/-- The command that lists symbolic links with their targets. -/
def symlinksCommand : String :=
  "find / -xdev -type l -printf '%p\\t%l\\n' 2>/dev/null || true"

/-- The last part of a path, or the path itself if it has no parts. -/
def baseName (path : String) : String := ((Text.segments path).getLast?).getD path

/-- A record of a path as it stands in a tree: displayed by the last part. -/
def segmentDraft (d : Draft) : Draft := { d with display := baseName d.display, tags := [] }

/-- The records of the answer to a query for paths. -/
def pathDrafts (rows : List Row) : List Draft :=
  sortDrafts (rowDrafts "path" (some "resource") rows)

/-- The tree of records of paths. -/
def draftTree (ds : List Draft) : Tree Draft :=
  pathTree plainDraft "/" (ds.map fun d => (d.display, segmentDraft d))

/-- A view on paths. -/
def pathView (name description query : String) (actions : List (Action World)) : View where
  name := name
  description := description
  shapes := [.list, .tree]
  actions := actions
  produce store cache shape :=
    (store.select query).map fun rows =>
      let ds := pathDrafts rows
      match shape with
      | .tree => issueContainerTree cache ((draftTree ds).map .inl)
      | _ => issueList cache ds

/-- What was found at a path. -/
structure Found where
  kind : String
  path : String
  target : Option String := none
  deriving DecidableEq, Repr

/-- The lines of an output that are not empty. -/
def filledLines (output : String) : List String := (Text.lines output).filter fun l => l != ""

/-- The symbolic link of a line: path and target stand around the first tab. -/
def symlinkOfLine (line : String) : Found :=
  match Text.cut? line "\t" with
  | none => ⟨symlinkKind, line, none⟩
  | some (path, target) => ⟨symlinkKind, path, if target = "" then none else some target⟩

/-- What the three outputs tell of, files first and links last. -/
def foundIn (files directories symlinks : String) : List Found :=
  (filledLines files).map (⟨fileKind, ·, none⟩) ++
    (filledLines directories).map (⟨directoryKind, ·, none⟩) ++
    (filledLines symlinks).map symlinkOfLine

/-- The name of the subject for a path. -/
def subjectOf (path : String) : String := Vocabulary.resourceUri "file" path

/-- The writes that record something found: its subject anew, the path, and the target of a link. -/
def Found.writes (f : Found) : List Write :=
  let uri := subjectOf f.path
  [.create uri f.kind (baseName f.path), .attribute uri pathProperty f.path] ++
    (f.target.map fun target => .attribute uri targetProperty target).toList

/-- How the import is called. -/
def importName : String := "Files and directories"

/-- Imports files, directories and symbolic links. -/
def runImport (w : World) : Except ModuleError Unit × World :=
  match w.source with
  | none => (.error .noSource, w)
  | some source =>
    let w := w.report (.clamped .zero "Loading file system listings from the data source")
    match source.run filesCommand, source.run directoriesCommand, source.run symlinksCommand with
    | .error e, _, _ => (.error (.source e), w)
    | _, .error e, _ => (.error (.source e), w)
    | _, _, .error e => (.error (.source e), w)
    | .ok files, .ok directories, .ok symlinks =>
      let message := "Importing file system entries"
      recordBatch importName message Found.writes (foundIn files directories symlinks)
        (w.report (.clamped .zero message))

/-- The import. -/
def filesImport : Import where
  name := importName
  description := "Import files, directories and symlinks found on the data source"
  run := runImport

/-- The module. -/
def module (hiddenTag : String) : Module where
  name := "Filesystem"
  description := "Files and directories of the inspected system"
  views := [
    pathView "Files and directories" "Every imported file and directory" filesQuery
      (Action.standard hiddenTag),
    pathView "Symlinks" "Every imported symbolic link" symlinksQuery (Action.standard hiddenTag)]
  imports := [filesImport]

end Stocktake.Filesystem
