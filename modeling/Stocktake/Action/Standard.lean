import Stocktake.Action.Basic

/-!
# The actions of every view

Hiding and tagging records, copying them, and removing their tags.  The writes of one action stand in
one batch, and listeners hear of the changed tags once, after it.
-/

namespace Stocktake

/-- What a run over records has come to. -/
structure Tally where
  affected : Nat := 0
  errors : List String := []
  deriving DecidableEq, Repr, Inhabited

/-- One more affected record. -/
def Tally.count (t : Tally) : Tally := { t with affected := t.affected + 1 }

/-- One more error, told with what it happened to. -/
def Tally.fail (t : Tally) (what : String) (e : StoreError) : Tally :=
  { t with errors := t.errors ++ [what ++ ": " ++ e.message] }

/-- Tells of changed tags, if any were changed. -/
def World.postTagsChanged (w : World) (count : Nat) : World :=
  if count > 0 then w.post (.tagsChanged count) else w

/-- Asks for a write on behalf of a reference, whose store has to be there. -/
def Reference.write (reference : Reference) (x : Write) (w : World) : Except StoreError Unit × World :=
  if reference.attached then w.write x else (.error .detached, w)

/-- Adds tags to a subject, up to the first that is refused. -/
def Reference.addTags (reference : Reference) : List Tag → World → Except StoreError Unit × World
  | [], w => (.ok (), w)
  | tag :: rest, w =>
    match reference.write (.tag reference.uri tag) w with
    | (.ok (), w) => reference.addTags rest w
    | (.error e, w) => (.error e, w)

/-- Adds tags to the subject of one record; a subject that is not there is passed over. -/
def tagRecord (tags : List Tag) (t : Tally) (r : Record) (w : World) : Tally × World :=
  match r.reference with
  | none => (t, w)
  | some reference =>
    match reference.addTags tags w with
    | (.ok (), w) => (t.count, w.refresh r)
    | (.error (.notFound _), w) => (t, w)
    | (.error e, w) => (t.fail r.display e, w)

/-- Does something with every record in order. -/
def overRecords (step : Tally → Record → World → Tally × World) :
    Tally → List Record → World → Tally × World
  | t, [], w => (t, w)
  | t, r :: rest, w =>
    let (t, w) := step t r w
    overRecords step t rest w

/-- Does something with every record in one batch, and tells of changed tags after it. -/
def changeTags (step : Tally → Record → World → Tally × World) (records : List Record) (w : World) :
    Tally × World :=
  let (t, w) := w.inBatch (overRecords step {} records)
  (t, w.postTagsChanged t.affected)

/-- Adds tags to the subjects of records. -/
def tagRecords (tags : List Tag) (details : String) (records : List Record) (w : World) :
    Outcome × World :=
  let (t, w) := changeTags (tagRecord tags) records w
  (.ofResults t.affected t.errors details, w)

/-- Removes the tags of the subject of one record. -/
def untagRecord (t : Tally) (r : Record) (w : World) : Tally × World :=
  match r.reference with
  | none => (t, w)
  | some reference =>
    match reference.write (.remove reference.uri Vocabulary.tagProperty) w with
    | (.ok (), w) => (t.count, { w with cache := w.cache.set r.id [] })
    | (.error e, w) => (t.fail r.display e, w)

/-- Removes the tags of the subjects of records. -/
def untagRecords (records : List Record) (w : World) : Outcome × World :=
  let (t, w) := changeTags untagRecord records w
  (.ofResults t.affected t.errors "Removed all tags", w)

namespace Action

/-- Adds the tag that hides records from ordinary queries. -/
def hide (hiddenTag : String) : Action World where
  name := "Hide"
  description := "Hide the selected resources from default views"
  need := .resources
  run _ records w :=
    let (outcome, w) := tagRecords [{ name := hiddenTag }] ("Tagged as " ++ hiddenTag) records w
    (.ok outcome, w)

/-- The names of tags to add. -/
def tagNamesParameter : TextParameter where
  name := "Tags"
  description := "Comma-separated tag names"
  separator := some ","
  choices := some .tagNames

/-- The rationale of tags to add. -/
def tagDetailParameter : TextParameter where
  name := "Detail"
  description := "Why the tags apply"
  multiline := true

/-- Adds the given tags to records. -/
def addTags (names : List String) (detail : String) (records : List Record) (w : World) :
    Outcome × World :=
  if names.isEmpty then (.failed "No tags specified", w)
  else
    tagRecords (names.map fun name => { name, detail }) ("Added tags: " ++ Text.join ", " names)
      records w

/-- Adds the tags that the parameters name. -/
def tag : Action World where
  name := "Tag"
  description := "Attach tags to the selected resources"
  need := .resources
  parameters := [.text tagNamesParameter, .text tagDetailParameter]
  run parameters records w :=
    let names := (Parameter.textNamed tagNamesParameter.name parameters).getD tagNamesParameter
    let detail := (Parameter.textNamed tagDetailParameter.name parameters).getD tagDetailParameter
    let (outcome, w) := addTags names.values detail.value records w
    (.ok outcome, w)

/-- Copies texts, one in a line. -/
def copyLines (lines : List String) (details : String) (w : World) :
    Except ModuleError Outcome × World :=
  match w.copy (Text.join "\n" lines) with
  | (.ok (), w) => (.ok (.success lines.length details), w)
  | (.error e, w) => (.error e, w)

/-- Copies records with their fields. -/
def copyText : Action World where
  name := "Copy text"
  description := "Copy the selected rows to the clipboard, one per line"
  need := .selection
  run _ records w :=
    copyLines (records.map fun r => (r.read w.cache).line) "Copied text to clipboard" w

/-- Copies the names of the subjects of records. -/
def copyUri : Action World where
  name := "Copy URI"
  description := "Copy the store URIs of the selected resources"
  need := .resources
  run _ records w := copyLines (records.filterMap Record.uri) "Copied URIs to clipboard" w

/-- Removes the tags of records. -/
def removeTags : Action World where
  name := "Remove all tags"
  description := "Remove every tag from the selected resources"
  need := .resources
  run _ records w :=
    let (outcome, w) := untagRecords records w
    (.ok outcome, w)

/-- The actions of every view. -/
def standard (hiddenTag : String) : List (Action World) :=
  [hide hiddenTag, tag, copyText, copyUri, removeTags]

end Action

end Stocktake
