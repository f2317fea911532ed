import Mathlib
import Stocktake.Container.Input

/-!
# Which texts hold records

A record is described as an object: a text `display`, and possibly a text or null `uri`, texts `fields`,
texts `tags` and records `children`.  That is taken, but an array of the values of these five in this
order, which may stop after any of them, is taken as well, so that a list of names is read as one record.
`IsRecord` says both, with the arrays and without.  Main statements: `exists_readContainer_iff`, a text is
taken in any shape if and only if it holds a record or an array of records, the arrays counting;
`bareName_taken`, without them that is not so.
-/

namespace Stocktake

namespace Json

/-- The values under a name among the members of an object. -/
def under (name : String) (members : List (String × Json)) : List Json :=
  (members.filter fun member => member.1 == name).map Prod.snd

theorem under_cons_self (name : String) (value : Json) (rest : List (String × Json)) :
    under name ((name, value) :: rest) = value :: under name rest := by
  simp [under]

theorem under_cons_of_ne {name key : String} (h : key ≠ name) (value : Json)
    (rest : List (String × Json)) : under name ((key, value) :: rest) = under name rest := by
  simp [under, h]

/-- A text. -/
def IsText (j : Json) : Prop := ∃ s, j = .string s

/-- A text or null. -/
def IsTextOrNull (j : Json) : Prop := j = .null ∨ j.IsText

/-- An array. -/
def IsArray (j : Json) : Prop := ∃ items, j = .array items

/-- An object of texts. -/
def IsTextObject (j : Json) : Prop := ∃ members, j = .object members ∧ ∀ m ∈ members, m.2.IsText

/-- An array of texts. -/
def IsTextArray (j : Json) : Prop := ∃ items, j = .array items ∧ ∀ item ∈ items, item.IsText

/-- The text is this value, and there are only blanks behind it. -/
def Spells (text : String) (j : Json) : Prop :=
  ∃ rest, readStart text.toList = .ok (j, rest) ∧ (skipSpace rest).isEmpty = true

theorem exists_readAs_iff {α : Type} (decode : Json → Option α) (text : String) :
    (∃ x, readAs decode text = .ok x) ↔ ∃ j, Spells text j ∧ (decode j).isSome = true := by
  unfold readAs Spells
  cases readStart text.toList with
  | error e => simp
  | ok answer =>
    obtain ⟨j, rest⟩ := answer
    have hspelled : (∃ j', (∃ rest', Except.ok (ε := JsonError) (j, rest) = .ok (j', rest') ∧
        (skipSpace rest').isEmpty = true) ∧ (decode j').isSome = true) ↔
        (skipSpace rest).isEmpty = true ∧ (decode j).isSome = true := by
      constructor
      · rintro ⟨_, ⟨_, ⟨⟩, hrest⟩, hdecode⟩
        exact ⟨hrest, hdecode⟩
      · rintro ⟨hrest, hdecode⟩
        exact ⟨j, ⟨rest, rfl, hrest⟩, hdecode⟩
    rw [hspelled]
    cases hdecode : decode j with
    | none => simp [hdecode]
    | some x => by_cases hrest : (skipSpace rest).isEmpty = true <;> simp [hdecode, hrest]

end Json

/-- One value at most, and that of the form. -/
def AtMostOne {α : Type} (form : α → Prop) : List α → Prop
  | [] => True
  | [a] => form a
  | _ => False

namespace AtMostOne

variable {α β : Type} {form : α → Prop}

@[simp] theorem nil : AtMostOne form [] := trivial

@[simp] theorem singleton (a : α) : AtMostOne form [a] ↔ form a := Iff.rfl

@[simp] theorem not_cons_cons (a b : α) (l : List α) : ¬ AtMostOne form (a :: b :: l) := id

theorem of_mem {l : List α} (h : AtMostOne form l) {a : α} (ha : a ∈ l) : form a := by
  rcases l with _ | ⟨b, _ | ⟨c, l⟩⟩
  · cases ha
  · obtain rfl := List.mem_singleton.1 ha
    exact h
  · cases h

theorem map_iff (f : α → β) (form : β → Prop) (l : List α) :
    AtMostOne form (l.map f) ↔ AtMostOne (fun a => form (f a)) l := by
  rcases l with _ | ⟨a, _ | ⟨b, l⟩⟩ <;> exact Iff.rfl

/-- The form of the only value can be split. -/
theorem and_iff (form form' : α → Prop) (l : List α) :
    AtMostOne (fun a => form a ∧ form' a) l ↔ AtMostOne form l ∧ ∀ a ∈ l, form' a := by
  rcases l with _ | ⟨a, _ | ⟨b, l⟩⟩
  · simp
  · simp
  · simp

end AtMostOne

namespace RecordInput

open Json

/-- The names of the members of a record, in the order in which an array has their values. -/
def memberNames : List String := ["display", "uri", "fields", "tags", "children"]

/-- The members of an object; and where arrays count, those of an array of at most five values. -/
def membersOf? (arrays : Bool) : Json → Option (List (String × Json))
  | .object members => some members
  | .array items =>
    if arrays ∧ items.length ≤ memberNames.length then some (memberNames.zip items) else none
  | _ => none

/-- A value that describes a record.  None of the members of a record comes twice; other members do not
    count. -/
inductive IsRecord (arrays : Bool) : Json → Prop
  | intro {j : Json} {members : List (String × Json)} (hmembers : membersOf? arrays j = some members)
      (display : ∃ s, under "display" members = [.string s])
      (uri : AtMostOne IsTextOrNull (under "uri" members))
      (fields : AtMostOne IsTextObject (under "fields" members))
      (tags : AtMostOne IsTextArray (under "tags" members))
      (children : AtMostOne IsArray (under "children" members))
      (below : ∀ items, .array items ∈ under "children" members → ∀ item ∈ items, IsRecord arrays item) :
      IsRecord arrays j

/-- Where arrays count, nothing is lost. -/
theorem IsRecord.mono {j : Json} (h : IsRecord false j) : IsRecord true j := by
  induction h with
  | @intro j members hmembers display uri fields tags children _ ih =>
    have hobject : membersOf? true j = some members := by
      cases j with
      | object => exact hmembers
      | array => simp [membersOf?] at hmembers
      | _ => cases hmembers
    exact .intro hobject display uri fields tags children ih

section Forms

theorem isSome_string? (j : Json) : j.string?.isSome = true ↔ j.IsText := by
  cases j <;> simp [string?, IsText]

theorem isSome_mapM {α β : Type} (f : α → Option β) (l : List α) :
    (l.mapM f).isSome = true ↔ ∀ a ∈ l, (f a).isSome = true := by
  induction l with
  | nil => simp
  | cons a l ih =>
    rw [List.mapM_cons]
    cases ha : f a with
    | none => simp [ha]
    | some b => simp [ha, ← ih, Option.isSome_bind]

theorem isSome_uri? (v : Json) : (uri? (some v)).isSome = true ↔ v.IsTextOrNull := by
  cases v <;> simp [uri?, IsTextOrNull, IsText]

theorem isSome_fields? (v : Json) : (fields? (some v)).isSome = true ↔ v.IsTextObject := by
  cases v with
  | object members =>
    simp only [fields?, stringMembers?, object?, IsTextObject, Option.isSome_map, Option.bind_some,
      isSome_mapM, isSome_string?]
    simp
  | _ => simp [fields?, stringMembers?, object?, IsTextObject]

theorem isSome_tags? (v : Json) : (tags? (some v)).isSome = true ↔ v.IsTextArray := by
  cases v with
  | array items =>
    simp only [tags?, strings?, array?, IsTextArray, Option.bind_some, isSome_mapM, isSome_string?]
    simp
  | _ => simp [tags?, strings?, array?, IsTextArray]

theorem isSome_ofList? (items : List Json) :
    (ofList? items).isSome = true ↔ ∀ item ∈ items, (ofJson? item).isSome = true := by
  induction items with
  | nil => simp [ofList?]
  | cons item rest ih =>
    rw [ofList?]
    cases hitem : ofJson? item with
    | none => simp [hitem]
    | some r => simpa [hitem] using ih

end Forms

section Objects

/-- The records of an array. -/
def recordsOf? (v : Json) : Option (List RecordInput) := v.array?.bind ofList?

theorem isSome_recordsOf? (v : Json) : (recordsOf? v).isSome = true ↔
    v.IsArray ∧ ∀ items, v = .array items → ∀ item ∈ items, (ofJson? item).isSome = true := by
  cases v with
  | array items => simp [recordsOf?, array?, IsArray, isSome_ofList?]
  | _ => simp [recordsOf?, array?, IsArray]

variable (m : Members) (value : Json) (rest : List (String × Json))

theorem ofMembers?_display : ofMembers? m (("display", value) :: rest) =
    (once m.display value).bind fun x => ofMembers? { m with display := x } rest := by
  cases value <;> rfl

theorem ofMembers?_uri : ofMembers? m (("uri", value) :: rest) =
    (once m.uri value).bind fun x => ofMembers? { m with uri := x } rest := by
  cases value <;> rfl

theorem ofMembers?_fields : ofMembers? m (("fields", value) :: rest) =
    (once m.fields value).bind fun x => ofMembers? { m with fields := x } rest := by
  cases value <;> rfl

theorem ofMembers?_tags : ofMembers? m (("tags", value) :: rest) =
    (once m.tags value).bind fun x => ofMembers? { m with tags := x } rest := by
  cases value <;> rfl

theorem ofMembers?_children : ofMembers? m (("children", value) :: rest) =
    (recordsOf? value).bind fun children =>
      (once m.children children).bind fun x => ofMembers? { m with children := x } rest := by
  cases value <;> rfl

theorem ofMembers?_of_not_mem {key : String} (h : key ∉ memberNames) :
    ofMembers? m ((key, value) :: rest) = ofMembers? m rest := by
  simp only [memberNames, List.mem_cons, List.not_mem_nil, or_false, not_or] at h
  obtain ⟨hdisplay, huri, hfields, htags, hchildren⟩ := h
  cases value <;> simp [ofMembers?, hdisplay, huri, hfields, htags, hchildren]

theorem isSome_record? : m.record?.isSome = true ↔
    (∃ s, m.display.toList = [.string s]) ∧ AtMostOne IsTextOrNull m.uri.toList ∧
      AtMostOne IsTextObject m.fields.toList ∧ AtMostOne IsTextArray m.tags.toList := by
  obtain ⟨display, uri, fields, tags, children⟩ := m
  have hdisplay : (∃ s, display.toList = [.string s]) ↔ (display.bind Json.string?).isSome = true := by
    rcases display with _ | v
    · simp
    · cases v <;> simp [string?]
  have huri : AtMostOne IsTextOrNull uri.toList ↔ (uri? uri).isSome = true := by
    rcases uri with _ | v
    · simp [uri?]
    · exact (isSome_uri? v).symm
  have hfields : AtMostOne IsTextObject fields.toList ↔ (fields? fields).isSome = true := by
    rcases fields with _ | v
    · simp [fields?]
    · exact (isSome_fields? v).symm
  have htags : AtMostOne IsTextArray tags.toList ↔ (tags? tags).isSome = true := by
    rcases tags with _ | v
    · simp [tags?]
    · exact (isSome_tags? v).symm
  simp only [hdisplay, huri, hfields, htags]
  unfold Members.record?
  cases display.bind Json.string? <;> cases uri? uri <;> cases fields? fields <;> cases tags? tags <;> simp

/-- What is read of the members of an object on top of earlier ones makes a record. -/
theorem isSome_record_ofMembers? (m : Members) (members : List (String × Json)) :
    ((ofMembers? m members).bind Members.record?).isSome = true ↔
      (∃ s, m.display.toList ++ under "display" members = [.string s]) ∧
      AtMostOne IsTextOrNull (m.uri.toList ++ under "uri" members) ∧
      AtMostOne IsTextObject (m.fields.toList ++ under "fields" members) ∧
      AtMostOne IsTextArray (m.tags.toList ++ under "tags" members) ∧
      AtMostOne (fun read : Option (List RecordInput) => read.isSome = true)
        (m.children.toList.map some ++ (under "children" members).map recordsOf?) := by
  induction members generalizing m with
  | nil =>
    have hchildren : AtMostOne (fun read : Option (List RecordInput) => read.isSome = true)
        (m.children.toList.map some) := by
      cases m.children <;> simp
    simp [ofMembers?, under, isSome_record?, hchildren]
  | cons member rest ih =>
    obtain ⟨key, value⟩ := member
    by_cases hknown : key ∈ memberNames
    · simp only [memberNames, List.mem_cons, List.not_mem_nil, or_false] at hknown
      -- A name that was there already is refused; else its value joins what was read.
      rcases hknown with rfl | rfl | rfl | rfl | rfl
      · rw [ofMembers?_display]
        cases hm : m.display <;> simp [once, ih, under_cons_self, under_cons_of_ne]
      · rw [ofMembers?_uri]
        cases hm : m.uri <;> simp [once, ih, under_cons_self, under_cons_of_ne]
      · rw [ofMembers?_fields]
        cases hm : m.fields <;> simp [once, ih, under_cons_self, under_cons_of_ne]
      · rw [ofMembers?_tags]
        cases hm : m.tags <;> simp [once, ih, under_cons_self, under_cons_of_ne]
      · rw [ofMembers?_children]
        cases hvalue : recordsOf? value with
        | none =>
          have hrefused : ¬ AtMostOne (fun read : Option (List RecordInput) => read.isSome = true)
              (m.children.toList.map some ++ (under "children" (("children", value) :: rest)).map
                recordsOf?) := by
            intro h
            have hmem : none ∈ m.children.toList.map some ++
                (under "children" (("children", value) :: rest)).map recordsOf? := by
              simp [under_cons_self, hvalue]
            simpa using h.of_mem hmem
          simp [hrefused]
        | some records =>
          cases hm : m.children <;> simp [once, ih, under_cons_self, under_cons_of_ne, hvalue]
    · rw [ofMembers?_of_not_mem m value rest hknown, ih]
      simp only [memberNames, List.mem_cons, List.not_mem_nil, or_false, not_or] at hknown
      obtain ⟨hdisplay, huri, hfields, htags, hchildren⟩ := hknown
      rw [under_cons_of_ne hdisplay, under_cons_of_ne huri, under_cons_of_ne hfields,
        under_cons_of_ne htags, under_cons_of_ne hchildren]

/-- An object is read as a record if each of the five members is of its form. -/
theorem isSome_ofJson?_object (members : List (String × Json)) :
    (ofJson? (.object members)).isSome = true ↔
      (∃ s, under "display" members = [.string s]) ∧
      AtMostOne IsTextOrNull (under "uri" members) ∧
      AtMostOne IsTextObject (under "fields" members) ∧
      AtMostOne IsTextArray (under "tags" members) ∧
      AtMostOne (fun v => (recordsOf? v).isSome = true) (under "children" members) := by
  rw [ofJson?, isSome_record_ofMembers?]
  simp only [Option.toList_none, List.nil_append, List.map_nil, AtMostOne.map_iff]

end Objects

section Arrays

/-- The fifth item of an array is that of the records below. -/
theorem ofItems?_four (m : Members) (item : Json) (rest : List Json) :
    ofItems? 4 m (item :: rest) = (recordsOf? item).bind fun children =>
      ofItems? 5 { m with children := some children } rest := by
  cases item <;> rfl

/-- An array is read like an object of the members that its values are in order. -/
theorem ofJson?_array (items : List Json) : ofJson? (.array items) =
    if items.length ≤ memberNames.length then ofJson? (.object (memberNames.zip items)) else none := by
  rcases items with _ | ⟨display, _ | ⟨uri, _ | ⟨fields, _ | ⟨tags, _ | ⟨children, _ | ⟨sixth, rest⟩⟩⟩⟩⟩⟩
  case cons.cons.cons.cons.cons.cons =>
    have hlong : ¬ (display :: uri :: fields :: tags :: children :: sixth :: rest).length ≤
        memberNames.length := by
      simp [memberNames]
    rw [if_neg hlong]
    show ofItems? 4 _ (children :: sixth :: rest) = none
    rw [ofItems?_four]
    cases recordsOf? children with
    | none => rfl
    | some records => rfl
  case cons.cons.cons.cons.cons.nil =>
    rw [if_pos (by simp [memberNames])]
    show ofItems? 4 _ [children] = (ofMembers? _ [("children", children)]).bind Members.record?
    rw [ofItems?_four, ofMembers?_children]
    cases recordsOf? children with
    | none => rfl
    | some records => rfl
  all_goals
    rw [if_pos (by simp [memberNames])]
    rfl

end Arrays

/-- Which values are read as records, in terms of the values below them. -/
theorem isSome_ofJson?_iff (j : Json) : (ofJson? j).isSome = true ↔
    ∃ members, membersOf? true j = some members ∧
      (ofJson? (.object members)).isSome = true := by
  cases j with
  | object members => simp [membersOf?]
  | array items =>
    rw [ofJson?_array]
    by_cases hlength : items.length ≤ memberNames.length
    · simp [membersOf?, hlength]
    · simp [membersOf?, hlength]
  | _ => simp [membersOf?, ofJson?]

/-- What stands below the members of a value is smaller than the value. -/
theorem sizeOf_lt_of_membersOf? {arrays : Bool} {j : Json} {members : List (String × Json)}
    (h : membersOf? arrays j = some members) {v : Json} {name : String} (hv : v ∈ under name members) :
    sizeOf v < sizeOf j := by
  obtain ⟨⟨key, v'⟩, hmember, rfl⟩ := List.mem_map.1 hv
  have hmember := (List.mem_filter.1 hmember).1
  cases j with
  | object members' =>
    obtain rfl := Option.some.inj h
    have hlt := List.sizeOf_lt_of_mem hmember
    simp only [Prod.mk.sizeOf_spec] at hlt
    simp only [Json.object.sizeOf_spec]
    omega
  | array items =>
    rw [membersOf?] at h
    split at h
    · obtain rfl := Option.some.inj h
      have hlt := List.sizeOf_lt_of_mem (List.of_mem_zip hmember).2
      simp only [Json.array.sizeOf_spec]
      omega
    · cases h
  | _ => cases h

theorem isRecord_of_isSome (j : Json) (h : (ofJson? j).isSome = true) : IsRecord true j := by
  obtain ⟨members, hmembers, hobject⟩ := (isSome_ofJson?_iff j).1 h
  obtain ⟨hdisplay, huri, hfields, htags, hchildren⟩ := (isSome_ofJson?_object members).1 hobject
  simp only [isSome_recordsOf?, AtMostOne.and_iff] at hchildren
  obtain ⟨harray, hbelow⟩ := hchildren
  refine .intro hmembers hdisplay huri hfields htags harray ?_
  intro items hitems item hitem
  exact isRecord_of_isSome item (hbelow _ hitems items rfl item hitem)
termination_by sizeOf j
decreasing_by
  have hitems := sizeOf_lt_of_membersOf? hmembers hitems
  have hitem := List.sizeOf_lt_of_mem hitem
  simp only [Json.array.sizeOf_spec] at hitems
  omega

theorem isSome_of_isRecord {j : Json} (h : IsRecord true j) : (ofJson? j).isSome = true := by
  induction h with
  | @intro j members hmembers display uri fields tags children _ ih =>
    have hchildren : AtMostOne (fun v => (recordsOf? v).isSome = true) (under "children" members) := by
      simp only [isSome_recordsOf?, AtMostOne.and_iff]
      refine ⟨children, ?_⟩
      rintro _ hitems items rfl
      exact ih items hitems
    exact (isSome_ofJson?_iff j).2 ⟨members, hmembers, (isSome_ofJson?_object members).2
      ⟨display, uri, fields, tags, hchildren⟩⟩

/-- The values that are read as records are those that describe one, the arrays counting. -/
theorem isSome_ofJson?_iff_isRecord (j : Json) : (ofJson? j).isSome = true ↔ IsRecord true j :=
  ⟨isRecord_of_isSome j, isSome_of_isRecord⟩

end RecordInput

namespace RecordFile

open RecordInput

/-- A value that describes a record or an array of records. -/
def Describes (arrays : Bool) (j : Json) : Prop :=
  IsRecord arrays j ∨ ∃ items, j = .array items ∧ ∀ item ∈ items, IsRecord arrays item

theorem Describes.mono {j : Json} (h : Describes false j) : Describes true j := by
  rcases h with hone | ⟨items, hj, hmany⟩
  · exact .inl hone.mono
  · exact .inr ⟨items, hj, fun item hitem => (hmany item hitem).mono⟩

/-- What is read is what describes records, the arrays counting. -/
theorem isSome_ofJson?_iff (j : Json) : (ofJson? j).isSome = true ↔ Describes true j := by
  unfold ofJson? Describes
  simp only [← isSome_ofJson?_iff_isRecord]
  cases j with
  | array items =>
    have hmany : (∃ items', Json.array items = .array items' ∧
        ∀ item ∈ items', (RecordInput.ofJson? item).isSome = true) ↔ (ofList? items).isSome = true := by
      simp [isSome_ofList?]
    rw [hmany]
    cases hlist : ofList? items with
    | none => simp [hlist]
    | some records => simp [hlist]
  | _ => simp

end RecordFile

/-- A text is taken, in whichever shape, if and only if it holds a record or an array of records, where
    a record may also be an array of its values; and what is described without such arrays is among
    that. -/
theorem exists_readContainer_iff (cache : TagCache) (text : String) (shape : Shape) :
    ((∃ c, readContainer cache text shape = .ok c) ↔
      ∃ j, Json.Spells text j ∧ RecordFile.Describes true j) ∧
    ∀ j, RecordFile.Describes false j → RecordFile.Describes true j := by
  refine ⟨?_, fun j => RecordFile.Describes.mono⟩
  have hread : (∃ c, readContainer cache text shape = .ok c) ↔ ∃ file, RecordFile.read text = .ok file := by
    rw [readContainer]
    cases RecordFile.read text <;> simp [Except.map]
  rw [hread, RecordFile.read, Json.exists_readAs_iff]
  simp only [RecordFile.isSome_ofJson?_iff]

/-- A list of one name is no record and no array of records, if arrays do not count, and is taken. -/
theorem bareName_taken :
    let text := "[\"note\"]"
    let j : Json := .array [.string "note"]
    Json.Spells text j ∧ ¬ RecordFile.Describes false j ∧
      ∃ c, readContainer {} text .list = .ok c := by
  intro text j
  refine ⟨⟨[], by cbv, rfl⟩, ?_, ?_⟩
  · rintro (hone | ⟨items, hitems, hmany⟩)
    · cases hone with
      | intro hmembers => cases hmembers
    · obtain rfl := Json.array.inj hitems
      cases hmany _ List.mem_cons_self with
      | intro hmembers => cases hmembers
  · exact ⟨_, by cbv⟩

end Stocktake
