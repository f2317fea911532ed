import Stocktake.Container.Basic
import Stocktake.Json.Reader

/-!
# Records written as JSON

A record is an object with a text `display` and possibly a `uri`, `fields`, `tags` and `children`; or
an array of these five in this order, of which all but the first may be missing at the end.  A text
holds one record or an array of records.
-/

namespace Stocktake

/-- A record as it is written, with the records below it. -/
inductive RecordInput
  | record (display : String) (uri : Option String) (fields : Dict String) (tags : List String)
      (children : List RecordInput)
  deriving Inhabited

namespace RecordInput

/-- The members of an object that belong to a record. -/
structure Members where
  display : Option Json := none
  uri : Option Json := none
  fields : Option Json := none
  tags : Option Json := none
  children : Option (List RecordInput) := none

/-- A text or null. -/
def uri? : Option Json → Option (Option String)
  | none => some none
  | some .null => some none
  | some (.string u) => some (some u)
  | some _ => none

/-- An object of texts. -/
def fields? : Option Json → Option (Dict String)
  | none => some .empty
  | some j => j.stringMembers?.map Dict.ofList

/-- An array of texts. -/
def tags? : Option Json → Option (List String)
  | none => some []
  | some j => j.strings?

/-- The record that the members make. -/
def Members.record? (m : Members) : Option RecordInput := do
  let display ← m.display.bind Json.string?
  let uri ← uri? m.uri
  let fields ← fields? m.fields
  let tags ← tags? m.tags
  pure (.record display uri fields tags (m.children.getD []))

/-- The value, unless there is one already. -/
def once {α : Type} (old : Option α) (new : α) : Option (Option α) :=
  if old.isSome then none else some (some new)

mutual

/-- The record that a value stands for. -/
def ofJson? : Json → Option RecordInput
  | .object members => (ofMembers? {} members).bind Members.record?
  | .array items => ofItems? 0 {} items
  | _ => none

/-- Adds the members of an object; one that belongs to a record may not come twice, and others do not
    count. -/
def ofMembers? (m : Members) : List (String × Json) → Option Members
  | [] => some m
  | (key, value) :: rest =>
    if key = "display" then
      (once m.display value).bind fun x => ofMembers? { m with display := x } rest
    else if key = "uri" then
      (once m.uri value).bind fun x => ofMembers? { m with uri := x } rest
    else if key = "fields" then
      (once m.fields value).bind fun x => ofMembers? { m with fields := x } rest
    else if key = "tags" then
      (once m.tags value).bind fun x => ofMembers? { m with tags := x } rest
    else if key = "children" then
      match value with
      | .array items =>
        (ofList? items).bind fun children =>
          (once m.children children).bind fun x => ofMembers? { m with children := x } rest
      | _ => none
    else ofMembers? m rest

/-- The record that an array stands for, its items being the members from `position` on. -/
def ofItems? (position : Nat) (m : Members) : List Json → Option RecordInput
  | [] => m.record?
  | item :: rest =>
    match position with
    | 0 => ofItems? 1 { m with display := some item } rest
    | 1 => ofItems? 2 { m with uri := some item } rest
    | 2 => ofItems? 3 { m with fields := some item } rest
    | 3 => ofItems? 4 { m with tags := some item } rest
    | 4 =>
      match item with
      | .array items =>
        (ofList? items).bind fun children => ofItems? 5 { m with children := some children } rest
      | _ => none
    | _ => none

/-- The records that values stand for. -/
def ofList? : List Json → Option (List RecordInput)
  | [] => some []
  | item :: rest =>
    match ofJson? item with
    | none => none
    | some r => (ofList? rest).map (r :: ·)

end

/-- The record itself, without those below it. -/
def draft : RecordInput → Draft
  | .record display uri fields tags _ =>
    { display
      reference := uri.map fun u => { uri := u }
      fields
      tags := tags.map fun name => { name } }

mutual

/-- The tree of a record. -/
def tree : RecordInput → Tree Draft
  | .record display uri fields tags children =>
    .collapsed (draft (.record display uri fields tags [])) (trees children)

/-- The trees of records. -/
def trees : List RecordInput → List (Tree Draft)
  | [] => []
  | r :: rest => tree r :: trees rest

end

mutual

/-- A record and those below it, depth first. -/
def flat : RecordInput → List Draft
  | .record display uri fields tags children =>
    draft (.record display uri fields tags []) :: flatList children

/-- Records and those below them, depth first. -/
def flatList : List RecordInput → List Draft
  | [] => []
  | r :: rest => flat r ++ flatList rest

end

end RecordInput

/-- What a text of records holds. -/
inductive RecordFile
  | many (records : List RecordInput)
  | one (record : RecordInput)
  deriving Inhabited

namespace RecordFile

/-- The records that a value stands for: an array of records, if all its items are records, before
    one record. -/
def ofJson? (j : Json) : Option RecordFile :=
  match j with
  | .array items =>
    match RecordInput.ofList? items with
    | some records => some (.many records)
    | none => (RecordInput.ofJson? j).map .one
  | _ => (RecordInput.ofJson? j).map .one

/-- The records of a text. -/
def read (text : String) : Except JsonError RecordFile := Json.readAs ofJson? text

/-- What stands at the root above an array of records. -/
def arrayRoot : String := "records"

/-- All records, depth first. -/
def drafts : RecordFile → List Draft
  | .many records => RecordInput.flatList records
  | .one record => record.flat

/-- The tree of the records. -/
def tree : RecordFile → Tree Draft
  | .many records => .collapsed { display := arrayRoot } (RecordInput.trees records)
  | .one record => record.tree

/-- The records as a container. -/
def container (cache : TagCache) (shape : Shape) (file : RecordFile) : Container × TagCache :=
  match shape with
  | .list =>
    let (rs, cache) := Draft.issueAll cache file.drafts
    (.list rs, cache)
  | .table =>
    let (rs, cache) := Draft.issueAll cache file.drafts
    (.table ⟨rs, none⟩, cache)
  | .tree =>
    let (root, cache) := issueTree cache (file.tree.map .inl)
    (.tree root, cache)

end RecordFile

/-- The container of the records in a text. -/
def readContainer (cache : TagCache) (text : String) (shape : Shape) :
    Except JsonError (Container × TagCache) :=
  (RecordFile.read text).map (RecordFile.container cache shape)

end Stocktake
