import Mathlib.Data.List.Basic
import Stocktake.Action.Standard
import Stocktake.Proofs.Store.Edits

/-!
# What becomes of the store when tags are changed

The actions that change tags go through records one by one, and each of their steps edits the subject of
one record at most.  Hiding adds the tag to a subject once for each selected record that reaches it, and
removing takes all tags from the subjects that are reached; other subjects stay as they are.  Main
statements: `edited_overRecords`, and `edited_hide` and `edited_removeTags` for the actions.
-/

namespace Stocktake

/-- Whether an operation on behalf of a reference reaches a subject: the reference is to this subject,
    its store is there, and the store does not refuse the operation. -/
def Reference.reaches (s : Store) (op : Operation) (uri : String) (reference : Reference) : Bool :=
  decide (reference = { uri }) && (s.refused? op uri).isNone

/-- Whether an operation on behalf of a record reaches a subject. -/
def Record.reaches (s : Store) (op : Operation) (uri : String) (r : Record) : Bool :=
  r.reference.any (Reference.reaches s op uri)

theorem Reference.reaches_iff {s : Store} {op : Operation} {uri : String} {reference : Reference} :
    reference.reaches s op uri = true ↔ reference = { uri } ∧ s.refused? op uri = none := by
  simp [reaches]

theorem Record.reaches_iff {s : Store} {op : Operation} {uri : String} {r : Record} :
    r.reaches s op uri = true ↔ r.reference = some { uri } ∧ s.refused? op uri = none := by
  cases hr : r.reference with
  | none => simp [reaches, hr]
  | some reference => simp [reaches, hr, Reference.reaches_iff]

open Store (Edited)

/-- What is reached depends on the refusals of the store only. -/
theorem Reference.reaches_congr {s s' : Store} (h : s'.refusals = s.refusals) :
    Reference.reaches s' = Reference.reaches s := by
  funext op uri reference
  rw [reaches, reaches, Store.refused?, Store.refused?, h]

theorem Record.reaches_congr {s s' : Store} (h : s'.refusals = s.refusals) :
    Record.reaches s' = Record.reaches s := by
  funext op uri r
  rw [reaches, reaches, Reference.reaches_congr h]

/-- A write on behalf of a reference is done and edits the subject that is reached, or it is not done and
    no subject that is there is reached. -/
theorem Reference.write_cases {reference : Reference} {op : Operation} {f : Subject → Subject}
    {x : Write} (hx : x.Edits op reference.uri f) (w : World) :
    (∃ w', reference.write x w = (.ok (), w') ∧
      Edited (fun uri y => if reference.reaches w.store op uri then f y else y) w.store w'.store) ∨
    ∃ e w', reference.write x w = (.error e, w') ∧ w'.store = w.store ∧
      ∀ uri y, w.store.subjects.get? uri = some y → reference.reaches w.store op uri = false := by
  obtain ⟨name, attached⟩ := reference
  cases attached with
  | false =>
    refine .inr ⟨.detached, w, rfl, rfl, fun uri y _ => ?_⟩
    rw [reaches, decide_eq_false (by simp), Bool.false_and]
  | true =>
    rw [Reference.write, if_pos rfl, World.write]
    rcases hx w.store with ⟨s', hwrite, hgranted, hedited⟩ | ⟨e, hwrite, hfailed⟩
    · refine .inl ⟨{ w with writes := w.writes ++ [x], store := s' }, by simp only [hwrite], ?_⟩
      refine hedited.congr fun uri y _ => ?_
      by_cases huri : uri = name
      · have hreaches : Reference.reaches w.store op uri ⟨name, true⟩ = true :=
          reaches_iff.2 ⟨by rw [huri], by rw [huri]; exact hgranted⟩
        rw [if_pos huri, if_pos hreaches]
      · have hreaches : ¬ Reference.reaches w.store op uri ⟨name, true⟩ = true := by
          intro h
          exact huri (congrArg Reference.uri (reaches_iff.1 h).1).symm
        rw [if_neg huri, if_neg hreaches]
    · refine .inr ⟨e, { w with writes := w.writes ++ [x] }, by simp only [hwrite], rfl, ?_⟩
      intro uri y hy
      rw [Bool.eq_false_iff]
      intro h
      obtain ⟨heq, hgranted⟩ := reaches_iff.1 h
      obtain rfl : name = uri := congrArg Reference.uri heq
      rcases hfailed with hrefused | hnone
      · simp only [hgranted, reduceCtorEq] at hrefused
      · simp only [hy, reduceCtorEq] at hnone

/-- Tags are added to a subject all or none, since the store refuses them by the subject. -/
theorem Reference.edited_addTags (reference : Reference) (tags : List Tag) (w : World) :
    Edited (fun uri x => if reference.reaches w.store .addTag uri then x.tagged tags else x)
      w.store (reference.addTags tags w).2.store := by
  induction tags generalizing w with
  | nil =>
    rw [addTags]
    refine (Edited.refl w.store).congr fun uri x _ => ?_
    rw [Subject.tagged_nil, ite_self]
  | cons tag tags ih =>
    rw [addTags]
    rcases reference.write_cases (Write.edits_tag reference.uri tag) w with
      ⟨w', hwrite, hedited⟩ | ⟨e, w', hwrite, hstore, hmissed⟩
    · simp only [hwrite]
      refine (hedited.trans (ih w')).congr fun uri x _ => ?_
      rw [reaches_congr hedited.refusals]
      by_cases h : reference.reaches w.store .addTag uri = true
      · rw [if_pos h, if_pos h, if_pos h, Subject.tagged_tagged, List.singleton_append]
      · rw [if_neg h, if_neg h, if_neg h]
    · simp only [hwrite, hstore]
      refine (Edited.refl w.store).congr fun uri x hx => ?_
      rw [hmissed uri x hx, if_neg Bool.false_ne_true]

/-- Whatever the answer to a request for tags is, only the cache is changed after it. -/
theorem store_tagRecord (tags : List Tag) (t : Tally) {r : Record} {reference : Reference}
    (hr : r.reference = some reference) (w : World) :
    (tagRecord tags t r w).2.store = (reference.addTags tags w).2.store := by
  simp only [tagRecord, hr]
  obtain ⟨answer, w'⟩ := reference.addTags tags w
  cases answer with
  | ok done => rfl
  | error e => cases e <;> rfl

theorem edited_tagRecord (tags : List Tag) (t : Tally) (r : Record) (w : World) :
    Edited (fun uri x => if r.reaches w.store .addTag uri then x.tagged tags else x)
      w.store (tagRecord tags t r w).2.store := by
  cases hr : r.reference with
  | none =>
    simp only [tagRecord, Record.reaches, hr]
    exact Edited.refl w.store
  | some reference =>
    rw [store_tagRecord tags t hr]
    simp only [Record.reaches, hr, Option.any_some]
    exact reference.edited_addTags tags w

theorem edited_untagRecord (t : Tally) (r : Record) (w : World) :
    Edited
      (fun uri x => if r.reaches w.store .removeStatements uri then x.without Vocabulary.tagProperty
        else x)
      w.store (untagRecord t r w).2.store := by
  unfold untagRecord Record.reaches
  cases r.reference with
  | none => exact Edited.refl w.store
  | some reference =>
    rcases reference.write_cases (Write.edits_remove reference.uri Vocabulary.tagProperty) w with
      ⟨w', hwrite, hedited⟩ | ⟨e, w', hwrite, hstore, hmissed⟩
    · simp only [hwrite]
      exact hedited
    · simp only [hwrite, hstore]
      refine (Edited.refl w.store).congr fun uri x hx => ?_
      rw [Option.any_some, hmissed uri x hx, if_neg Bool.false_ne_true]

section Runs

variable {step : Tally → Record → World → Tally × World} {edit : Record → String → Subject → Subject}
  {s : Store}

/-- A run over records edits the subjects as its steps do, one after the other. -/
theorem edited_overRecords
    (hstep : ∀ t r w, w.store.refusals = s.refusals → Edited (edit r) w.store (step t r w).2.store)
    (records : List Record) (t : Tally) (w : World) (hw : w.store.refusals = s.refusals) :
    Edited (fun uri x => records.foldl (fun x r => edit r uri x) x) w.store
      (overRecords step t records w).2.store := by
  induction records generalizing t w with
  | nil => exact Edited.refl w.store
  | cons r records ih =>
    have hfirst := hstep t r w hw
    exact hfirst.trans (ih _ _ (hfirst.refusals.trans hw))

theorem store_postTagsChanged (w : World) (count : Nat) :
    (w.postTagsChanged count).store = w.store := by
  unfold World.postTagsChanged
  split
  · rfl
  · rfl

/-- The batch around a run changes no subject. -/
theorem edited_changeTags {w : World}
    (hstep : ∀ t r w', w'.store.refusals = w.store.refusals →
      Edited (edit r) w'.store (step t r w').2.store) (records : List Record) :
    Edited (fun uri x => records.foldl (fun x r => edit r uri x) x) w.store
      (changeTags step records w).2.store := by
  have hbegun := Store.edited_setBatch w.store true
  have hrun := edited_overRecords hstep records {} (w.write (.batch true)).2 hbegun.refusals
  have hended := Store.edited_setBatch
    (overRecords step {} records (w.write (.batch true)).2).2.store false
  have hall := (hbegun.trans hrun).trans hended
  rw [changeTags, store_postTagsChanged]
  exact hall

end Runs

theorem foldl_tagged (reached : Record → Bool) (tags : List Tag) (records : List Record)
    (x : Subject) :
    records.foldl (fun x r => if reached r then x.tagged tags else x) x =
      x.tagged ((records.filter reached).flatMap fun _ => tags) := by
  induction records generalizing x with
  | nil => exact x.tagged_nil.symm
  | cons r records ih =>
    rw [List.foldl_cons, ih, List.filter_cons]
    by_cases h : reached r = true
    · rw [if_pos h, if_pos h, List.flatMap_cons, Subject.tagged_tagged]
    · rw [if_neg h, if_neg h]

theorem foldl_without (reached : Record → Bool) (property : String) (records : List Record)
    (x : Subject) :
    records.foldl (fun x r => if reached r then x.without property else x) x =
      if records.any reached then x.without property else x := by
  induction records generalizing x with
  | nil => rfl
  | cons r records ih =>
    rw [List.foldl_cons, ih, List.any_cons]
    by_cases h : reached r = true
    · rw [if_pos h, h, Bool.true_or, if_pos rfl, Subject.without_without, ite_self]
    · rw [if_neg h, Bool.eq_false_iff.2 h, Bool.false_or]

/-- A subject gets the tags once for each record that reaches it. -/
theorem edited_tagRecords (tags : List Tag) (details : String) (records : List Record) (w : World) :
    Edited
      (fun uri x =>
        x.tagged ((records.filter (Record.reaches w.store .addTag uri)).flatMap fun _ => tags))
      w.store (tagRecords tags details records w).2.store := by
  have hstep : ∀ t r w', w'.store.refusals = w.store.refusals →
      Edited (fun uri x => if r.reaches w.store .addTag uri then x.tagged tags else x)
        w'.store (tagRecord tags t r w').2.store := by
    intro t r w' hw'
    rw [← Record.reaches_congr hw']
    exact edited_tagRecord tags t r w'
  refine (edited_changeTags hstep records).congr fun uri x _ => ?_
  exact foldl_tagged (Record.reaches w.store .addTag uri) tags records x

/-- A subject loses its tags if a record reaches it. -/
theorem edited_untagRecords (records : List Record) (w : World) :
    Edited
      (fun uri x =>
        if records.any (Record.reaches w.store .removeStatements uri) then
          x.without Vocabulary.tagProperty
        else x)
      w.store (untagRecords records w).2.store := by
  have hstep : ∀ t r w', w'.store.refusals = w.store.refusals →
      Edited
        (fun uri x =>
          if r.reaches w.store .removeStatements uri then x.without Vocabulary.tagProperty else x)
        w'.store (untagRecord t r w').2.store := by
    intro t r w' hw'
    rw [← Record.reaches_congr hw']
    exact edited_untagRecord t r w'
  refine (edited_changeTags hstep records).congr fun uri x _ => ?_
  exact foldl_without (Record.reaches w.store .removeStatements uri) _ records x

section Invoke

variable (selection : List Record) (w : World)

theorem isSome_and_reaches (s : Store) (op : Operation) (uri : String) (r : Record) :
    (r.reference.isSome && r.reaches s op uri) = r.reaches s op uri := by
  rw [Record.reaches]
  cases r.reference with
  | none => rfl
  | some reference => exact Bool.true_and _

/-- The records that an action on resources does not get reach nothing. -/
theorem filter_reaches_pass (s : Store) (op : Operation) (uri : String) :
    (Need.resources.pass selection).filter (Record.reaches s op uri) =
      selection.filter (Record.reaches s op uri) := by
  rw [Need.pass, List.filter_filter]
  refine List.filter_congr fun r _ => ?_
  rw [Bool.and_comm, isSome_and_reaches]

theorem any_reaches_pass (s : Store) (op : Operation) (uri : String) :
    (Need.resources.pass selection).any (Record.reaches s op uri) =
      selection.any (Record.reaches s op uri) := by
  rw [Need.pass, List.any_filter]
  simp only [isSome_and_reaches]

/-- An action on resources that is disabled does nothing, which is what it would do with the records it
    gets. -/
theorem edited_invoke {a : Action World} (hneed : a.need = .resources)
    {edits : List Record → String → Subject → Subject} (hnil : ∀ uri x, edits [] uri x = x)
    (hrun : ∀ records, Edited (edits records) w.store (a.run a.parameters records w).2.store) :
    Edited (edits (Need.resources.pass selection)) w.store (a.invoke selection w).2.store := by
  rw [Action.invoke, Action.isEnabled, hneed]
  by_cases henabled : Need.satisfied selection .resources = true
  · rw [if_pos henabled]
    exact hrun _
  · have hpass : Need.resources.pass selection = [] := by
      rw [Need.satisfied, List.any_eq_true] at henabled
      exact List.filter_eq_nil_iff.2 fun r hr h => henabled ⟨r, hr, h⟩
    rw [if_neg henabled, hpass]
    exact (Edited.refl w.store).congr fun uri x _ => (hnil uri x).symm

/-- Hiding adds the hidden tag to a subject once for each selected record that reaches it. -/
theorem edited_hide (hiddenTag : String) :
    Edited
      (fun uri x => x.tagged
        ((selection.filter (Record.reaches w.store .addTag uri)).map fun _ => { name := hiddenTag }))
      w.store ((Action.hide hiddenTag).invoke selection w).2.store := by
  have hinvoke := edited_invoke selection w (a := .hide hiddenTag) rfl
    (fun _ => Subject.tagged_nil) fun records =>
      edited_tagRecords [{ name := hiddenTag }] ("Tagged as " ++ hiddenTag) records w
  refine hinvoke.congr fun uri x _ => ?_
  rw [filter_reaches_pass, List.map_eq_flatMap]

/-- Removing takes all tags from a subject that a selected record reaches. -/
theorem edited_removeTags :
    Edited
      (fun uri x =>
        if selection.any (Record.reaches w.store .removeStatements uri) then
          x.without Vocabulary.tagProperty
        else x)
      w.store (Action.removeTags.invoke selection w).2.store := by
  have hinvoke := edited_invoke selection w (a := .removeTags) rfl (fun _ _ => rfl)
    fun records => edited_untagRecords records w
  refine hinvoke.congr fun uri x _ => ?_
  rw [any_reaches_pass]

end Invoke

end Stocktake
