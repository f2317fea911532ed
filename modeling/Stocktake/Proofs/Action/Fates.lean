import Stocktake.Proofs.Action.TagEdits
import Stocktake.Proofs.World.Writes

/-!
# What becomes of the records that actions go through

For each record with a subject the store decides alone what an action that writes does: it is affected,
or the subject is found to be missing, or the write fails with an error that is told.  Nothing that such
an action does changes these decisions, so that the tally of a run counts them as they are before it.
Main statements: `tally_tagRecord`, `tally_untagRecord` for one record, `tally_overRecords` for a run.
-/

namespace Stocktake

/-- What becomes of a record with a subject. -/
inductive Fate
  | affected
  /-- The subject is not there, which is passed over. -/
  | vanished
  | failed (cause : StoreError)
  deriving DecidableEq, Repr

namespace Fate

/-- What the answer to a write tells of a record. -/
def ofAnswer : Except StoreError Unit → Fate
  | .ok () => .affected
  | .error (.notFound _) => .vanished
  | .error e => .failed e

/-- The text of an error, told with what it happened to. -/
def error? (what : String) : Fate → Option String
  | .failed cause => some (what ++ ": " ++ cause.message)
  | _ => none

end Fate

/-- What becomes of a reference for which tags are to be added.  The refusals of the store come first,
    and one of them may be that the subject is not found. -/
def Store.tagFate (s : Store) (reference : Reference) : Fate :=
  if reference.attached then
    match s.refused? .addTag reference.uri with
    | some (.notFound _) => .vanished
    | some e => .failed e
    | none => if s.contains reference.uri then .affected else .vanished
  else .failed .detached

/-- What becomes of a reference whose tags are to be removed: where there is no subject, all of its tags
    are removed, and a subject that is said to be missing is an error like others. -/
def Store.untagFate (s : Store) (reference : Reference) : Fate :=
  if reference.attached then
    match s.refused? .removeStatements reference.uri with
    | some e => .failed e
    | none => .affected
  else .failed .detached

theorem Store.untagFate_ne_vanished (s : Store) (reference : Reference) :
    s.untagFate reference ≠ .vanished := by
  unfold untagFate
  split
  · split
    · simp
    · simp
  · simp

/-! ## Tallies -/

/-- The records with a subject, by their displays, and what becomes of them. -/
def fates (fate : Reference → Fate) (records : List Record) : List (String × Fate) :=
  records.filterMap fun r => r.reference.map fun reference => (r.display, fate reference)

namespace Tally

/-- The tally with one more record. -/
def add (t : Tally) (f : String × Fate) : Tally where
  affected := t.affected + if f.2 = .affected then 1 else 0
  errors := t.errors ++ (f.2.error? f.1).toList

/-- The tally of records: how many are affected, and the errors of those that failed, in order. -/
def ofFates (fs : List (String × Fate)) : Tally where
  affected := fs.countP fun f => f.2 = .affected
  errors := fs.filterMap fun f => f.2.error? f.1

theorem foldl_add (t : Tally) (fs : List (String × Fate)) :
    fs.foldl add t =
      { affected := t.affected + (ofFates fs).affected, errors := t.errors ++ (ofFates fs).errors } := by
  induction fs generalizing t with
  | nil => simp [ofFates]
  | cons f fs ih =>
    rw [List.foldl_cons, ih]
    have hcount : (if f.2 = .affected then 1 else 0) + (ofFates fs).affected =
        (ofFates (f :: fs)).affected := by
      simp only [ofFates, List.countP_cons, decide_eq_true_eq]
      omega
    have herrors : (f.2.error? f.1).toList ++ (ofFates fs).errors = (ofFates (f :: fs)).errors := by
      simp only [ofFates, List.filterMap_cons]
      cases f.2.error? f.1 with
      | none => rfl
      | some text => rfl
    simp only [add, Nat.add_assoc, List.append_assoc, hcount, herrors]

/-- Every record is counted once: as affected, as failed with one error, or as vanished. -/
theorem ofFates_sum (fs : List (String × Fate)) :
    (ofFates fs).affected + (ofFates fs).errors.length + fs.countP (fun f => f.2 = .vanished) =
      fs.length := by
  induction fs with
  | nil => rfl
  | cons f fs ih =>
    obtain ⟨display, fate⟩ := f
    cases fate with
    | affected =>
      simp [ofFates, Fate.error?] at ih ⊢
      omega
    | vanished =>
      simp [ofFates, Fate.error?] at ih ⊢
      omega
    | failed cause =>
      simp [ofFates, Fate.error?] at ih ⊢
      omega

/-- What an answer of the store adds to a tally. -/
theorem add_ofAnswer (t : Tally) (what : String) (answer : Except StoreError Unit) :
    t.add (what, .ofAnswer answer) =
      match answer with
      | .ok () => t.count
      | .error (.notFound _) => t
      | .error e => t.fail what e := by
  cases answer with
  | ok done => simp [add, Fate.ofAnswer, Fate.error?, count]
  | error e => cases e <;> simp [add, Fate.ofAnswer, Fate.error?, fail]

end Tally

/-! ## One record -/

namespace Store

/-- What becomes of records depends on what the store refuses and on which subjects there are. -/
theorem Edited.tagFate {edit : String → Subject → Subject} {s s' : Store} (h : Edited edit s s') :
    s'.tagFate = s.tagFate := by
  funext reference
  rw [Store.tagFate, Store.tagFate, h.refused?, h.contains]

theorem Edited.untagFate {edit : String → Subject → Subject} {s s' : Store} (h : Edited edit s s') :
    s'.untagFate = s.untagFate := by
  funext reference
  rw [Store.untagFate, Store.untagFate, h.refused?]

end Store

namespace Reference

variable (reference : Reference) (w : World)

theorem ofAnswer_write_tag (tag : Tag) :
    Fate.ofAnswer (reference.write (.tag reference.uri tag) w).1 = w.store.tagFate reference := by
  unfold write Store.tagFate
  by_cases hattached : reference.attached = true
  · rw [if_pos hattached, if_pos hattached]
    cases hrefused : w.store.refused? .addTag reference.uri with
    | some e =>
      have hwrite : w.store.write (.tag reference.uri tag) = .error e := by
        simp only [Store.write, Store.addTag, Store.subject, hrefused]
        rfl
      rw [World.write_of_error hwrite]
      cases e <;> rfl
    | none =>
      cases hx : w.store.subjects.get? reference.uri with
      | none =>
        have hwrite : w.store.write (.tag reference.uri tag) = .error (.notFound reference.uri) := by
          simp only [Store.write, Store.addTag, Store.subject, hrefused, hx]
          rfl
        rw [World.write_of_error hwrite]
        simp [Fate.ofAnswer, Store.contains, Dict.has, hx]
      | some x =>
        have hwrite : w.store.write (.tag reference.uri tag) =
            .ok (w.store.put reference.uri (x.tagged [tag])) := by
          simp only [Store.write, Store.addTag, Store.subject, hrefused, hx]
          rfl
        rw [World.write_of_ok hwrite]
        simp [Fate.ofAnswer, Store.contains, Dict.has, hx]
  · rw [if_neg hattached, if_neg hattached]
    rfl

/-- The answer to a request to remove all tags: refused, or done. -/
theorem write_remove_fate :
    w.store.untagFate reference =
      match (reference.write (.remove reference.uri Vocabulary.tagProperty) w).1 with
      | .ok () => .affected
      | .error e => .failed e := by
  unfold write Store.untagFate
  by_cases hattached : reference.attached = true
  · rw [if_pos hattached, if_pos hattached]
    cases hrefused : w.store.refused? .removeStatements reference.uri with
    | some e =>
      have hwrite : w.store.write (.remove reference.uri Vocabulary.tagProperty) = .error e := by
        simp only [Store.write, Store.removeStatements, hrefused]
      rw [World.write_of_error hwrite]
    | none =>
      have hwrite : ∃ s, w.store.write (.remove reference.uri Vocabulary.tagProperty) = .ok s := by
        simp only [Store.write, Store.removeStatements, hrefused]
        cases w.store.subjects.get? reference.uri with
        | none => exact ⟨_, rfl⟩
        | some x => exact ⟨_, rfl⟩
      obtain ⟨s, hs⟩ := hwrite
      rw [World.write_of_ok hs]
  · rw [if_neg hattached, if_neg hattached]

/-- A write on behalf of a reference touches the store at most. -/
theorem beside_write (x : Write) : (reference.write x w).2.beside = w.beside := by
  unfold write
  split
  · exact World.beside_write w x
  · rfl

theorem store_write_of_error {x : Write} {e : StoreError} (h : (reference.write x w).1 = .error e) :
    (reference.write x w).2.store = w.store := by
  unfold write at h ⊢
  split
  · rename_i hattached
    rw [if_pos hattached] at h
    exact World.store_write_of_error h
  · rfl

theorem addTags_cons (tag : Tag) (tags : List Tag) :
    reference.addTags (tag :: tags) w =
      match reference.write (.tag reference.uri tag) w with
      | (.ok (), w) => reference.addTags tags w
      | (.error e, w) => (.error e, w) := rfl

/-- Where a tag can be added, all tags can. -/
theorem addTags_of_affected (tags : List Tag) (h : w.store.tagFate reference = .affected) :
    (reference.addTags tags w).1 = .ok () := by
  induction tags generalizing w with
  | nil => rfl
  | cons tag tags ih =>
    have hanswer := reference.ofAnswer_write_tag w tag
    rw [addTags_cons]
    rcases reference.write_cases (Write.edits_tag reference.uri tag) w with
      ⟨w', hwrite, hedited⟩ | ⟨e, w', hwrite, -, -⟩
    · simp only [hwrite]
      apply ih
      rw [hedited.tagFate, h]
    · rw [hwrite, h] at hanswer
      cases e <;> cases hanswer

/-- Where a tag cannot be added, the first one is asked for and no other. -/
theorem addTags_of_not_affected (tag : Tag) (tags : List Tag)
    (h : w.store.tagFate reference ≠ .affected) :
    reference.addTags (tag :: tags) w = reference.write (.tag reference.uri tag) w := by
  have hanswer := reference.ofAnswer_write_tag w tag
  rw [addTags_cons]
  cases hwrite : reference.write (.tag reference.uri tag) w with
  | mk answer w' =>
    cases answer with
    | error e => rfl
    | ok done =>
      rw [hwrite] at hanswer
      exact absurd hanswer.symm h

theorem ofAnswer_addTags {tags : List Tag} (hne : tags ≠ []) :
    Fate.ofAnswer (reference.addTags tags w).1 = w.store.tagFate reference := by
  cases tags with
  | nil => exact absurd rfl hne
  | cons tag tags =>
    by_cases h : w.store.tagFate reference = .affected
    · rw [reference.addTags_of_affected w (tag :: tags) h, h]
      rfl
    · rw [reference.addTags_of_not_affected w tag tags h, reference.ofAnswer_write_tag]

/-- If tags are not all added, none is. -/
theorem store_addTags_of_error {tags : List Tag} {e : StoreError}
    (h : (reference.addTags tags w).1 = .error e) : (reference.addTags tags w).2.store = w.store := by
  cases tags with
  | nil => cases h
  | cons tag tags =>
    by_cases hfate : w.store.tagFate reference = .affected
    · rw [reference.addTags_of_affected w (tag :: tags) hfate] at h
      cases h
    · rw [reference.addTags_of_not_affected w tag tags hfate] at h ⊢
      exact reference.store_write_of_error w h

theorem beside_addTags (tags : List Tag) : (reference.addTags tags w).2.beside = w.beside := by
  induction tags generalizing w with
  | nil => rfl
  | cons tag tags ih =>
    have hwrite := reference.beside_write w (.tag reference.uri tag)
    rw [addTags_cons]
    split
    · rename_i w' heq
      rw [heq] at hwrite
      exact (ih w').trans hwrite
    · rename_i e w' heq
      rw [heq] at hwrite
      exact hwrite

end Reference

section Runs

theorem fates_cons (fate : Reference → Fate) (r : Record) (records : List Record) :
    fates fate (r :: records) = fates fate [r] ++ fates fate records := by
  simp only [fates, List.filterMap_cons, List.filterMap_nil]
  cases r.reference with
  | none => rfl
  | some reference => rfl

theorem tally_tagRecord {tags : List Tag} (hne : tags ≠ []) (t : Tally) (r : Record) (w : World) :
    (tagRecord tags t r w).1 = (fates w.store.tagFate [r]).foldl Tally.add t := by
  cases hr : r.reference with
  | none => simp [tagRecord, fates, hr]
  | some reference =>
    have hfates : fates w.store.tagFate [r] = [(r.display, w.store.tagFate reference)] := by
      simp [fates, hr]
    have hanswer := reference.ofAnswer_addTags w hne
    rw [hfates, List.foldl_cons, List.foldl_nil, ← hanswer, Tally.add_ofAnswer]
    simp only [tagRecord, hr]
    obtain ⟨answer, w'⟩ := reference.addTags tags w
    cases answer with
    | ok done => rfl
    | error e => cases e <;> rfl

theorem tally_untagRecord (t : Tally) (r : Record) (w : World) :
    (untagRecord t r w).1 = (fates w.store.untagFate [r]).foldl Tally.add t := by
  cases hr : r.reference with
  | none => simp [untagRecord, fates, hr]
  | some reference =>
    have hfates : fates w.store.untagFate [r] = [(r.display, w.store.untagFate reference)] := by
      simp [fates, hr]
    rw [hfates, List.foldl_cons, List.foldl_nil, reference.write_remove_fate]
    simp only [untagRecord, hr]
    obtain ⟨answer, w'⟩ := reference.write (.remove reference.uri Vocabulary.tagProperty) w
    cases answer with
    | ok done => simp [Tally.add, Tally.count, Fate.error?]
    | error e => simp [Tally.add, Tally.fail, Fate.error?]

variable {step : Tally → Record → World → Tally × World} {fate : Store → Reference → Fate}

/-- A run counts every record as its steps do, and what becomes of a record is settled before it. -/
theorem tally_overRecords
    (hstep : ∀ t r w, (step t r w).1 = (fates (fate w.store) [r]).foldl Tally.add t)
    (hstable : ∀ t r w, fate (step t r w).2.store = fate w.store) (records : List Record) (t : Tally)
    (w : World) :
    (overRecords step t records w).1 = (fates (fate w.store) records).foldl Tally.add t := by
  induction records generalizing t w with
  | nil => rfl
  | cons r records ih =>
    rw [fates_cons, List.foldl_append, ← hstep]
    have hrest := ih (step t r w).1 (step t r w).2
    rw [hstable] at hrest
    exact hrest

/-- The tally of a whole run, whose batch settles nothing. -/
theorem tally_changeTags
    (hstep : ∀ t r w, (step t r w).1 = (fates (fate w.store) [r]).foldl Tally.add t)
    (hstable : ∀ t r w, fate (step t r w).2.store = fate w.store)
    (hbatch : ∀ (s : Store) on, fate (s.setBatch on) = fate s) (records : List Record) (w : World) :
    (changeTags step records w).1 = .ofFates (fates (fate w.store) records) := by
  have hrun := tally_overRecords hstep hstable records {} (w.write (.batch true)).2
  have hbegun : (w.write (.batch true)).2.store = w.store.setBatch true := rfl
  rw [hbegun, hbatch, Tally.foldl_add] at hrun
  simp only [Nat.zero_add, List.nil_append] at hrun
  exact hrun

theorem tally_changeTags_tagRecord {tags : List Tag} (hne : tags ≠ []) (records : List Record)
    (w : World) :
    (changeTags (tagRecord tags) records w).1 = .ofFates (fates w.store.tagFate records) := by
  apply tally_changeTags (tally_tagRecord hne)
  · intro t r w'
    exact (edited_tagRecord tags t r w').tagFate
  · intro s on
    exact (Store.edited_setBatch s on).tagFate

theorem tally_changeTags_untagRecord (records : List Record) (w : World) :
    (changeTags untagRecord records w).1 = .ofFates (fates w.store.untagFate records) := by
  apply tally_changeTags tally_untagRecord
  · intro t r w'
    exact (edited_untagRecord t r w').untagFate
  · intro s on
    exact (Store.edited_setBatch s on).untagFate

end Runs

end Stocktake
