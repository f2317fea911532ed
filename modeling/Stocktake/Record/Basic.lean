import Stocktake.Store.Basic

/-!
# Records

What a view shows: a display text, named fields, tags, and possibly a reference to a subject of the
store.  The same record may stand in several containers at once, and its tags are looked up anew
whenever a container is read; so a record carries a number, and its tags stand under that number in
a `TagCache`.  A `Draft` is a record that has no number yet, and a `Reading` is all that can be seen
of a record at one moment: records are equal when their readings are.
-/

namespace Stocktake

/-- A reference to a subject.  It holds on to no store: the store may be gone. -/
structure Reference where
  uri : String
  attached : Bool := true
  deriving DecidableEq, Repr

/-- A record as a container holds it. -/
structure Record where
  id : Nat
  display : String
  reference : Option Reference := none
  fields : Dict String := .empty
  deriving DecidableEq, Repr, Inhabited

/-- A record before it is handed out. -/
structure Draft where
  display : String
  reference : Option Reference := none
  fields : Dict String := .empty
  tags : List Tag := []
  deriving DecidableEq, Repr, Inhabited

/-- What can be seen of a record. -/
structure Reading where
  display : String
  uri : Option String := none
  fields : Dict String := .empty
  tags : List Tag := []
  deriving DecidableEq, Repr, Inhabited

/-- The tags last seen of every record, by the numbers of the records. -/
structure TagCache where
  entries : Array (List Tag) := #[]
  deriving Repr, Inhabited

namespace TagCache

/-- The tags under a number. -/
def get (c : TagCache) (id : Nat) : List Tag := c.entries.getD id []

/-- The cache with other tags under a number. -/
def set (c : TagCache) (id : Nat) (tags : List Tag) : TagCache :=
  if id < c.entries.size then ⟨c.entries.setIfInBounds id tags⟩
  else ⟨(c.entries ++ Array.replicate (id - c.entries.size) []).push tags⟩

theorem get_set (c : TagCache) (id other : Nat) (tags : List Tag) :
    (c.set id tags).get other = if other = id then tags else c.get other := by
  unfold set get
  simp only [Array.getD_eq_getD_getElem?]
  split
  · rename_i h
    simp only [Array.getElem?_setIfInBounds, h]
    by_cases ho : id = other
    · subst ho; simp
    · simp [ho, Ne.symm ho]
  · rename_i h
    rw [Array.getElem?_push]
    have hs : (c.entries ++ Array.replicate (id - c.entries.size) ([] : List Tag)).size = id := by
      simp only [Array.size_append, Array.size_replicate]
      omega
    rw [hs]
    by_cases ho : other = id
    · simp [ho]
    · simp only [ho, if_false]
      by_cases hlt : other < c.entries.size
      · rw [Array.getElem?_append_left hlt]
      · rw [Array.getElem?_append_right (by omega), Array.getElem?_eq_none (by omega : c.entries.size ≤ other)]
        rw [Array.getElem?_replicate]
        split <;> simp

/-- Puts tags under a new number. -/
def push (c : TagCache) (tags : List Tag) : Nat × TagCache :=
  (c.entries.size, ⟨c.entries.push tags⟩)

end TagCache

/-- The name of the subject that a reference points at. -/
def Record.uri (r : Record) : Option String := r.reference.map Reference.uri

/-- The subject of a draft. -/
def Draft.uri (d : Draft) : Option String := d.reference.map Reference.uri

/-- What is seen of a record, with its tags as last seen. -/
def Record.read (cache : TagCache) (r : Record) : Reading :=
  ⟨r.display, r.uri, r.fields, cache.get r.id⟩

/-- What is seen of a draft. -/
def Draft.read (d : Draft) : Reading := ⟨d.display, d.uri, d.fields, d.tags⟩

/-- Hands out a draft: its tags get the next free number. -/
def Draft.issue (cache : TagCache) (d : Draft) : Record × TagCache :=
  let (id, cache) := cache.push d.tags
  (⟨id, d.display, d.reference, d.fields⟩, cache)

/-- Hands out drafts in order. -/
def Draft.issueAll (cache : TagCache) : List Draft → List Record × TagCache
  | [] => ([], cache)
  | d :: rest =>
    let (r, cache) := d.issue cache
    let (rs, cache) := Draft.issueAll cache rest
    (r :: rs, cache)

/-- Adds a value to a field: after a comma, if the field has a text already. -/
def appendField (fields : Dict String) (name value : String) : Dict String :=
  match fields.get? name with
  | none => fields.insert name value
  | some old => fields.insert name (if old = "" then value else old ++ ", " ++ value)

/-- Adds a value to a field of a draft. -/
def Draft.appendField (d : Draft) (name value : String) : Draft :=
  { d with fields := Stocktake.appendField d.fields name value }

namespace Reference

/-- The tags of the subject. -/
def tags (store : Store) (r : Reference) : Except StoreError (List Tag) :=
  if r.attached then store.tags r.uri else .error .detached

/-- The values of a property of the subject. -/
def attributeValues (store : Store) (r : Reference) (property : String) :
    Except StoreError (List String) :=
  if r.attached then store.attributeValues r.uri property else .error .detached

end Reference

/-- The tags that a look at the store gives a record: those of its subject, or the ones seen last if
    it has no subject or the store does not tell. -/
def Record.freshTags (store : Store) (cache : TagCache) (r : Record) : List Tag :=
  match r.reference with
  | none => cache.get r.id
  | some reference =>
    match reference.tags store with
    | .ok tags => tags
    | .error _ => cache.get r.id

/-- Looks up the tags of a record. -/
def Record.refresh (store : Store) (cache : TagCache) (r : Record) : TagCache :=
  match r.reference with
  | none => cache
  | some reference =>
    match reference.tags store with
    | .ok tags => cache.set r.id tags
    | .error _ => cache

/-- Looks up the tags of records in order. -/
def Record.refreshAll (store : Store) (cache : TagCache) (rs : List Record) : TagCache :=
  rs.foldl (Record.refresh store) cache

theorem Record.get_refresh (store : Store) (cache : TagCache) (r : Record) :
    (r.refresh store cache).get r.id = r.freshTags store cache := by
  unfold Record.refresh Record.freshTags
  split
  · rfl
  · split
    · rw [TagCache.get_set, if_pos rfl]
    · rfl

theorem Record.get_refresh_of_ne (store : Store) (cache : TagCache) (r : Record) {id : Nat}
    (h : id ≠ r.id) : (r.refresh store cache).get id = cache.get id := by
  unfold Record.refresh
  split
  · rfl
  · split
    · rw [TagCache.get_set, if_neg h]
    · rfl

/-- The text of a record: its display, and the names of its tags in parentheses. -/
def Reading.text (r : Reading) : String :=
  if r.tags = [] then r.display
  else r.display ++ " (" ++ Text.join ", " (r.tags.map Tag.name) ++ ")"

/-- The display and the values of the fields, in the order of their names, between tabs. -/
def Reading.line (r : Reading) : String := Text.join "\t" (r.display :: r.fields.values)

end Stocktake
