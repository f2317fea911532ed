import Stocktake.Store.Basic

/-!
# Edits of the store

Most writes make no subject and remove none: each subject that is there afterwards is an edited one that
was there before, and the store refuses what it refused.  Such runs of writes are known by what becomes
of each subject.  A write edits one subject, or it is not done, and then the store refuses it or has no
such subject.
-/

namespace Stocktake

/-- A subject with more tags. -/
def Subject.tagged (x : Subject) (tags : List Tag) : Subject := { x with tags := x.tags ++ tags }

theorem Subject.tagged_nil (x : Subject) : x.tagged [] = x := by
  rw [tagged, List.append_nil]

theorem Subject.tagged_tagged (x : Subject) (tags more : List Tag) :
    (x.tagged tags).tagged more = x.tagged (tags ++ more) := by
  rw [tagged, tagged, tagged, List.append_assoc]

theorem Subject.without_without (x : Subject) (property : String) :
    (x.without property).without property = x.without property := by
  by_cases h : property = Vocabulary.tagProperty
  · simp [without, h]
  · simp [without, h]

namespace Store

/-- The store `s'` holds the subjects of `s`, each of them edited, and refuses what `s` refuses. -/
structure Edited (edit : String → Subject → Subject) (s s' : Store) : Prop where
  refusals : s'.refusals = s.refusals
  get? : ∀ uri, s'.subjects.get? uri = (s.subjects.get? uri).map (edit uri)

section Edited

variable {edit edit' : String → Subject → Subject} {s s' s'' : Store}

theorem Edited.refused? (h : Edited edit s s') (op : Operation) (uri : String) :
    s'.refused? op uri = s.refused? op uri := by
  rw [Store.refused?, Store.refused?, h.refusals]

theorem Edited.contains (h : Edited edit s s') (uri : String) : s'.contains uri = s.contains uri := by
  rw [Store.contains, Store.contains, Dict.has, Dict.has, h.get?, Option.isSome_map]

theorem Edited.refl (s : Store) : Edited (fun _ x => x) s s :=
  ⟨rfl, fun _ => Option.map_id'.symm⟩

theorem Edited.trans (h : Edited edit s s') (h' : Edited edit' s' s'') :
    Edited (fun uri x => edit' uri (edit uri x)) s s'' where
  refusals := h'.refusals.trans h.refusals
  get? uri := by
    rw [h'.get?, h.get?, Option.map_map]
    rfl

/-- It counts only what becomes of the subjects that are there. -/
theorem Edited.congr (h : Edited edit s s')
    (hedit : ∀ uri x, s.subjects.get? uri = some x → edit uri x = edit' uri x) :
    Edited edit' s s' where
  refusals := h.refusals
  get? uri := by
    rw [h.get?]
    cases hx : s.subjects.get? uri with
    | none => rfl
    | some x => rw [Option.map_some, Option.map_some, hedit uri x hx]

theorem edited_setBatch (s : Store) (on : Bool) : Edited (fun _ x => x) s (s.setBatch on) :=
  ⟨rfl, fun _ => Option.map_id'.symm⟩

theorem edited_put {uri : String} {x : Subject} (hx : s.subjects.get? uri = some x)
    (f : Subject → Subject) :
    Edited (fun u y => if u = uri then f y else y) s (s.put uri (f x)) where
  refusals := rfl
  get? u := by
    rw [put, Dict.get?_insert]
    by_cases hu : u = uri
    · simp only [hu, if_true, hx, Option.map_some]
    · simp only [hu, if_false, Option.map_id']

end Edited

end Store

/-- A write edits one subject.  If it is not done, the store refuses the operation for the subject or
    has no such subject. -/
def Write.Edits (op : Operation) (uri : String) (f : Subject → Subject) (x : Write) : Prop :=
  ∀ s : Store,
    (∃ s', s.write x = .ok s' ∧ s.refused? op uri = none ∧
      Store.Edited (fun u y => if u = uri then f y else y) s s') ∨
    ∃ e, s.write x = .error e ∧ (s.refused? op uri = some e ∨ s.subjects.get? uri = none)

theorem Write.edits_tag (uri : String) (tag : Tag) :
    (Write.tag uri tag).Edits .addTag uri fun x => x.tagged [tag] := by
  intro s
  rw [Store.write, Store.addTag, Store.subject]
  cases hrefused : s.refused? .addTag uri with
  | some e => exact .inr ⟨e, rfl, .inl rfl⟩
  | none =>
    cases hx : s.subjects.get? uri with
    | none => exact .inr ⟨_, rfl, .inr rfl⟩
    | some x => exact .inl ⟨_, rfl, rfl, Store.edited_put hx fun y => y.tagged [tag]⟩

theorem Write.edits_remove (uri property : String) :
    (Write.remove uri property).Edits .removeStatements uri fun x => x.without property := by
  intro s
  rw [Store.write, Store.removeStatements]
  cases hrefused : s.refused? .removeStatements uri with
  | some e => exact .inr ⟨e, rfl, .inl rfl⟩
  | none =>
    cases hx : s.subjects.get? uri with
    | none =>
      -- Nothing is to be removed, and no subject is there to be edited.
      refine .inl ⟨s, rfl, rfl, (Store.Edited.refl s).congr ?_⟩
      intro u y hy
      have hne : u ≠ uri := by
        rintro rfl
        rw [hx] at hy
        cases hy
      rw [if_neg hne]
    | some x => exact .inl ⟨_, rfl, rfl, Store.edited_put hx fun y => y.without property⟩

/-- A link that is made edits the subject that it leads from. -/
theorem Store.edited_link {s s' : Store} {uri property value : String}
    (h : s.write (.link uri property value) = .ok s') :
    Edited (fun u y => if u = uri then y.withAttribute property value else y) s s' := by
  rw [write, addResourceAttribute] at h
  cases hrefused : s.refused? .addResourceAttribute uri with
  | some e =>
    rw [hrefused] at h
    cases h
  | none =>
    rw [hrefused] at h
    simp only at h
    split at h
    · cases hx : s.subjects.get? uri with
      | none =>
        rw [hx] at h
        cases h
      | some x =>
        rw [hx] at h
        cases h
        exact edited_put hx fun y => y.withAttribute property value
    · cases h

end Stocktake
