import Stocktake.Module.Packages
import Stocktake.Proofs.Action.Fates

/-!
# The accounts of the actions that write

An action that adds or removes tags counts what it changed: batches are off after it, the listeners hear
of changed tags once and with the number that the outcome tells, and not at all if nothing was changed;
and where the outcome is a failure the store and the tags seen last are as before.  Where the records are
counted, the outcome tells what became of each.  Main statement: `accounts_of_writing`.
-/

namespace Stocktake

/-! ## What is counted accounts for what is changed -/

/-- From one moment of a run to a later one: the count of what was affected only grows, and as long as
    it does not, no subject and no tags seen last are changed.  The listeners hear of nothing. -/
structure Accounts (t : Tally) (w : World) (t' : Tally) (w' : World) : Prop where
  counted : t.affected ≤ t'.affected
  unchanged : t'.affected = t.affected → w'.store.subjects = w.store.subjects ∧ w'.cache = w.cache
  silent : w'.notices = w.notices

namespace Accounts

variable {t t' t'' : Tally} {w w' w'' : World}

theorem refl (t : Tally) (w : World) : Accounts t w t w :=
  ⟨Nat.le_refl t.affected, fun _ => ⟨rfl, rfl⟩, rfl⟩

theorem trans (h : Accounts t w t' w') (h' : Accounts t' w' t'' w'') : Accounts t w t'' w'' where
  counted := Nat.le_trans h.counted h'.counted
  unchanged heq := by
    have hle := h.counted
    have hle' := h'.counted
    obtain ⟨hsubjects, hcache⟩ := h.unchanged (by omega)
    obtain ⟨hsubjects', hcache'⟩ := h'.unchanged (by omega)
    exact ⟨hsubjects'.trans hsubjects, hcache'.trans hcache⟩
  silent := h'.silent.trans h.silent

/-- Where the store is as before, nothing need be counted. -/
theorem of_store_eq (hcounted : t.affected ≤ t'.affected) (hstore : w'.store = w.store)
    (hbeside : w'.beside = w.beside) : Accounts t w t' w' where
  counted := hcounted
  unchanged _ := ⟨congrArg Store.subjects hstore, World.cache_eq_of_beside hbeside⟩
  silent := World.notices_eq_of_beside hbeside

/-- Where one more is counted, anything may have been changed. -/
theorem of_count (hcounted : t'.affected = t.affected + 1) (hsilent : w'.notices = w.notices) :
    Accounts t w t' w' where
  counted := by omega
  unchanged h := by omega
  silent := hsilent

end Accounts

/-! ## The steps -/

section Steps

theorem accounts_tagRecord (tags : List Tag) (t : Tally) (r : Record) (w : World) :
    Accounts t w (tagRecord tags t r w).1 (tagRecord tags t r w).2 := by
  unfold tagRecord
  cases r.reference with
  | none => exact Accounts.refl t w
  | some reference =>
    have hbeside := reference.beside_addTags w tags
    have hstore := fun e => @Reference.store_addTags_of_error reference w tags e
    simp only
    cases hadd : reference.addTags tags w with
    | mk answer w' =>
      rw [hadd] at hbeside hstore
      have hsilent : w'.notices = w.notices := World.notices_eq_of_beside hbeside
      cases answer with
      | ok done => exact Accounts.of_count rfl hsilent
      | error e =>
        have hsame := hstore e rfl
        cases e <;> exact Accounts.of_store_eq (Nat.le_refl t.affected) hsame hbeside

theorem accounts_untagRecord (t : Tally) (r : Record) (w : World) :
    Accounts t w (untagRecord t r w).1 (untagRecord t r w).2 := by
  unfold untagRecord
  cases r.reference with
  | none => exact Accounts.refl t w
  | some reference =>
    have hbeside := reference.beside_write w (.remove reference.uri Vocabulary.tagProperty)
    simp only
    cases hwrite : reference.write (.remove reference.uri Vocabulary.tagProperty) w with
    | mk answer w' =>
      rw [hwrite] at hbeside
      have hsilent : w'.notices = w.notices := World.notices_eq_of_beside hbeside
      cases answer with
      | ok done => exact Accounts.of_count rfl hsilent
      | error e =>
        have hstore := reference.store_write_of_error w (congrArg Prod.fst hwrite)
        rw [hwrite] at hstore
        exact Accounts.of_store_eq (Nat.le_refl t.affected) hstore hbeside

theorem accounts_tagFiles (tag : Tag) (files : List String) (t : Tally) (w : World) :
    Accounts t w (Packages.tagFiles tag t files w).1 (Packages.tagFiles tag t files w).2 := by
  induction files generalizing t w with
  | nil => exact Accounts.refl t w
  | cons file files ih =>
    have hbeside := World.beside_write w (.tag file tag)
    rw [Packages.tagFiles]
    cases hwrite : w.write (.tag file tag) with
    | mk answer w' =>
      rw [hwrite] at hbeside
      cases answer with
      | ok done =>
        have hfirst : Accounts t w t.count w' :=
          Accounts.of_count rfl (World.notices_eq_of_beside hbeside)
        exact hfirst.trans (ih t.count w')
      | error e =>
        have hstore : w'.store = w.store := by
          have hrefused := World.store_write_of_error (congrArg Prod.fst hwrite)
          rw [hwrite] at hrefused
          exact hrefused
        have hpassed : Accounts t w t w' := Accounts.of_store_eq (Nat.le_refl t.affected) hstore hbeside
        have hfailed : Accounts t w (t.fail file e) w' :=
          Accounts.of_store_eq (Nat.le_refl t.affected) hstore hbeside
        cases e with
        | notFound uri => exact hpassed.trans (ih t w')
        | query reason => exact hfailed.trans (ih (t.fail file (.query reason)) w')
        | detached => exact hfailed.trans (ih (t.fail file .detached) w')
        | unsupported operation => exact hfailed.trans (ih (t.fail file (.unsupported operation)) w')

theorem accounts_tagPackage (t : Tally) (r : Record) (w : World) :
    Accounts t w (Packages.tagPackage t r w).1 (Packages.tagPackage t r w).2 := by
  unfold Packages.tagPackage
  cases r.reference with
  | none => exact Accounts.refl t w
  | some reference =>
    simp only
    cases Packages.packageFiles w.store reference with
    | error e => exact Accounts.of_store_eq (Nat.le_refl t.affected) rfl rfl
    | ok found =>
      cases found with
      | none => exact Accounts.refl t w
      | some package => exact accounts_tagFiles _ package.2 t w

end Steps

/-! ## Runs and their outcomes -/

/-- What the listeners hear when so many things were affected. -/
def changeNotices (count : Nat) : List Notice := if 0 < count then [.tagsChanged count] else []

namespace Outcome

/-- The outcome tells the number that it was made of. -/
theorem affected_ofResults (affected : Nat) (errors : List String) (details : String) :
    (ofResults affected errors details).affected?.getD 0 = affected := by
  unfold ofResults
  split
  · rfl
  · split
    · rfl
    · simp only [affected?, Option.getD_none]
      omega

/-- The text of a failed outcome is made of its errors, of which there is one at least. -/
theorem errors_of_failed {affected : Nat} {errors : List String} {details reason : String}
    (h : ofResults affected errors details = .failed reason) :
    errors ≠ [] ∧ reason = Text.join "; " errors := by
  unfold ofResults at h
  split at h
  · cases h
  · rename_i hempty
    split at h
    · cases h
    · cases h
      exact ⟨fun hnil => hempty (by rw [hnil]; rfl), rfl⟩

theorem affected_eq_zero_of_failed {affected : Nat} {errors : List String} {details reason : String}
    (h : ofResults affected errors details = .failed reason) : affected = 0 := by
  have haffected := affected_ofResults affected errors details
  rw [h] at haffected
  exact haffected.symm

end Outcome

section Runs

variable {step : Tally → Record → World → Tally × World}

theorem accounts_overRecords (hstep : ∀ t r w, Accounts t w (step t r w).1 (step t r w).2)
    (records : List Record) (t : Tally) (w : World) :
    Accounts t w (overRecords step t records w).1 (overRecords step t records w).2 := by
  induction records generalizing t w with
  | nil => exact Accounts.refl t w
  | cons r records ih =>
    have hfirst := hstep t r w
    exact hfirst.trans (ih (step t r w).1 (step t r w).2)

theorem notices_postTagsChanged (w : World) (count : Nat) :
    (w.postTagsChanged count).notices = w.notices ++ changeNotices count := by
  unfold World.postTagsChanged changeNotices
  by_cases h : count > 0
  · rw [if_pos h, if_pos h]
    rfl
  · rw [if_neg h, if_neg h, List.append_nil]

theorem cache_postTagsChanged (w : World) (count : Nat) : (w.postTagsChanged count).cache = w.cache := by
  unfold World.postTagsChanged
  split
  · rfl
  · rfl

end Runs

/-- What a call of an action leaves behind: batches are off; the listeners have heard of changed tags
    once, with the number that the outcome tells, or of nothing; where the outcome is a failure, the
    subjects and the tags seen last are as before; and where there is no outcome, all is as before. -/
structure Settles (w : World) (answer : Except ModuleError Outcome) (w' : World) : Prop where
  off : w'.store.inBatch = false
  told : w'.notices = w.notices ++
    match answer with
    | .ok outcome => changeNotices (outcome.affected?.getD 0)
    | .error _ => []
  undone : ∀ reason, answer = .ok (.failed reason) →
    w'.store.subjects = w.store.subjects ∧ w'.cache = w.cache
  disabled : ∀ e, answer = .error e → w' = w

section Calls

variable {step : Tally → Record → World → Tally × World}

theorem settles_changeTags (hstep : ∀ t r w, Accounts t w (step t r w).1 (step t r w).2)
    (records : List Record) (w : World) (details : String) :
    let result := changeTags step records w
    Settles w (.ok (.ofResults result.1.affected result.1.errors details)) result.2 := by
  intro result
  have hrun := accounts_overRecords hstep records {} (w.write (.batch true)).2
  have hstore : result.2.store =
      (overRecords step {} records (w.write (.batch true)).2).2.store.setBatch false :=
    store_postTagsChanged _ _
  have hcache : result.2.cache = (overRecords step {} records (w.write (.batch true)).2).2.cache :=
    cache_postTagsChanged _ _
  have hnotices : result.2.notices =
      (overRecords step {} records (w.write (.batch true)).2).2.notices ++
        changeNotices result.1.affected :=
    notices_postTagsChanged _ _
  refine ⟨?_, ?_, ?_, ?_⟩
  · rw [hstore]
    rfl
  · rw [hnotices, hrun.silent]
    simp only [Outcome.affected_ofResults]
    rfl
  · intro reason hfailed
    have hnone : result.1.affected = 0 := Outcome.affected_eq_zero_of_failed (Except.ok.inj hfailed)
    obtain ⟨hsubjects, hseen⟩ := hrun.unchanged hnone
    rw [hstore, hcache]
    exact ⟨hsubjects, hseen⟩
  · intro e h
    cases h

/-- An action that is disabled does nothing. -/
theorem settles_invoke {a : Action World} {selection : List Record} {w : World}
    (hoff : w.store.inBatch = false)
    (hrun : ∀ records, Settles w (a.run a.parameters records w).1 (a.run a.parameters records w).2) :
    Settles w (a.invoke selection w).1 (a.invoke selection w).2 := by
  unfold Action.invoke
  split
  · exact hrun _
  · refine ⟨hoff, (List.append_nil w.notices).symm, ?_, fun _ _ => rfl⟩
    intro reason h
    cases h

end Calls

/-! ## The actions -/

namespace Action

/-- The action that adds tags, with parameters of any values. -/
def tagging (parameters : List Parameter) : Action World := { tag with parameters }

/-- The names of the tags that parameters tell to add. -/
def tagNames (parameters : List Parameter) : List String :=
  ((Parameter.textNamed tagNamesParameter.name parameters).getD tagNamesParameter).values

/-- The tags that parameters tell to add. -/
def givenTags (parameters : List Parameter) : List Tag :=
  let detail := ((Parameter.textNamed tagDetailParameter.name parameters).getD tagDetailParameter).value
  (tagNames parameters).map fun name => { name, detail }

/-- The actions that add or remove tags. -/
def writing (hiddenTag : String) (parameters : List Parameter) : List (Action World) :=
  [hide hiddenTag, tagging parameters, removeTags, Packages.tagFilesAction]

end Action

/-- The outcome that counts every record with a subject as what becomes of it. -/
def account (fate : Reference → Fate) (details : String) (records : List Record) : Outcome :=
  let t := Tally.ofFates (fates fate records)
  .ofResults t.affected t.errors details

/-- Whether a record is to this subject and is affected when tags are added. -/
def Record.gainsTags (s : Store) (uri : String) (r : Record) : Bool :=
  decide (r.reference = some { uri }) && decide (s.tagFate { uri } = .affected)

section Selections

variable (selection : List Record)

/-- The records that an action on resources does not get are not counted. -/
theorem fates_pass (fate : Reference → Fate) :
    fates fate (Need.resources.pass selection) = fates fate selection := by
  rw [fates, fates, Need.pass, List.filterMap_filter]
  apply List.filterMap_congr
  intro r _
  cases r.reference with
  | none => rfl
  | some reference => rfl

theorem length_fates (fate : Reference → Fate) :
    (fates fate selection).length = selection.countP fun r => r.reference.isSome := by
  induction selection with
  | nil => rfl
  | cons r selection ih =>
    rw [fates_cons, List.length_append, ih, List.countP_cons]
    cases hr : r.reference with
    | none => simp [fates, hr]
    | some reference =>
      simp [fates, hr]
      omega

/-- Of the subjects that are there, those of affected records are reached, and no others. -/
theorem reaches_eq_gainsTags {s : Store} {uri : String} {x : Subject} (hx : s.subjects.get? uri = some x) :
    Record.reaches s .addTag uri = Record.gainsTags s uri := by
  have hcontains : s.contains uri = true := by
    rw [Store.contains, Dict.has, hx]
    rfl
  funext r
  rw [Bool.eq_iff_iff, Record.reaches_iff, Record.gainsTags, Bool.and_eq_true, decide_eq_true_eq,
    decide_eq_true_eq]
  refine and_congr_right fun _ => ?_
  simp only [Store.tagFate, if_true, hcontains]
  cases s.refused? .addTag uri with
  | none => simp
  | some e => cases e <;> simp

/-- A subject gets the tags once for each affected record of it, and no others. -/
theorem get?_of_edited {tags : List Tag} {s s' : Store}
    (h : Store.Edited
      (fun uri x => x.tagged ((selection.filter (Record.reaches s .addTag uri)).flatMap fun _ => tags))
      s s') (uri : String) :
    s'.subjects.get? uri = (s.subjects.get? uri).map fun x =>
      x.tagged ((selection.filter (Record.gainsTags s uri)).flatMap fun _ => tags) := by
  rw [h.get? uri]
  cases hx : s.subjects.get? uri with
  | none => rfl
  | some x => rw [Option.map_some, Option.map_some, reaches_eq_gainsTags hx]

end Selections

namespace Action

variable (parameters : List Parameter) (selection : List Record) (w : World)

theorem run_tagging (records : List Record) :
    (tagging parameters).run parameters records w =
      if tagNames parameters = [] then (.ok (.failed "No tags specified"), w)
      else
        let result := tagRecords (givenTags parameters)
          ("Added tags: " ++ Text.join ", " (tagNames parameters)) records w
        (.ok result.1, result.2) := by
  have hrun : (tagging parameters).run parameters records w =
      let result := addTags (tagNames parameters)
        ((Parameter.textNamed tagDetailParameter.name parameters).getD tagDetailParameter).value
        records w
      (.ok result.1, result.2) := rfl
  rw [hrun, addTags]
  by_cases h : tagNames parameters = []
  · rw [if_pos h, if_pos (by rw [h]; rfl)]
  · rw [if_neg h, if_neg (by rw [List.isEmpty_iff]; exact h)]
    rfl

theorem givenTags_ne_nil (h : tagNames parameters ≠ []) : givenTags parameters ≠ [] := by
  intro hnil
  exact h (List.map_eq_nil_iff.1 hnil)

/-- A subject gets the given tags once for each selected record that reaches it. -/
theorem edited_tagging :
    Store.Edited
      (fun uri x => x.tagged
        ((selection.filter (Record.reaches w.store .addTag uri)).flatMap fun _ => givenTags parameters))
      w.store ((tagging parameters).invoke selection w).2.store := by
  have hrun : ∀ records, Store.Edited
      (fun uri x => x.tagged
        ((records.filter (Record.reaches w.store .addTag uri)).flatMap fun _ => givenTags parameters))
      w.store ((tagging parameters).run (tagging parameters).parameters records w).2.store := by
    intro records
    have hparameters : (tagging parameters).parameters = parameters := rfl
    rw [hparameters, run_tagging]
    by_cases h : tagNames parameters = []
    · rw [if_pos h]
      refine (Store.Edited.refl w.store).congr fun uri x _ => ?_
      have hnone : givenTags parameters = [] := by
        rw [givenTags, h]
        rfl
      have hnil : ((records.filter (Record.reaches w.store .addTag uri)).flatMap
          fun _ => givenTags parameters) = [] := by
        simp [hnone]
      rw [hnil, Subject.tagged_nil]
    · rw [if_neg h]
      exact edited_tagRecords (givenTags parameters)
        ("Added tags: " ++ Text.join ", " (tagNames parameters)) records w
  have hinvoke := edited_invoke selection w (a := tagging parameters) rfl
    (fun _ => Subject.tagged_nil) hrun
  refine hinvoke.congr fun uri x _ => ?_
  rw [filter_reaches_pass]

variable {selection}

theorem invoke_of_enabled {a : Action World} (hneed : a.need = .resources)
    (henabled : ∃ r ∈ selection, r.reference.isSome = true) :
    a.invoke selection w = a.run a.parameters (Need.resources.pass selection) w := by
  have hsatisfied : a.isEnabled selection = true := by
    rw [isEnabled, hneed]
    exact List.any_eq_true.2 henabled
  rw [invoke, if_pos hsatisfied, hneed]

theorem answer_tagRecords {tags : List Tag} (hne : tags ≠ []) (details : String) :
    (tagRecords tags details (Need.resources.pass selection) w).1 =
      account w.store.tagFate details selection := by
  have htally := tally_changeTags_tagRecord hne (Need.resources.pass selection) w
  rw [fates_pass] at htally
  rw [account, ← htally]
  rfl

theorem answer_hide (hiddenTag : String) (henabled : ∃ r ∈ selection, r.reference.isSome = true) :
    ((hide hiddenTag).invoke selection w).1 =
      .ok (account w.store.tagFate ("Tagged as " ++ hiddenTag) selection) := by
  have hne : [({ name := hiddenTag } : Tag)] ≠ [] := List.cons_ne_nil _ _
  rw [invoke_of_enabled w rfl henabled, ← answer_tagRecords w hne]
  rfl

theorem answer_tagging (henabled : ∃ r ∈ selection, r.reference.isSome = true) :
    ((tagging parameters).invoke selection w).1 =
      if tagNames parameters = [] then .ok (.failed "No tags specified")
      else
        .ok (account w.store.tagFate ("Added tags: " ++ Text.join ", " (tagNames parameters))
          selection) := by
  have hparameters : (tagging parameters).parameters = parameters := rfl
  rw [invoke_of_enabled w rfl henabled, hparameters, run_tagging]
  by_cases h : tagNames parameters = []
  · rw [if_pos h, if_pos h]
  · rw [if_neg h, if_neg h, ← answer_tagRecords w (givenTags_ne_nil parameters h)]

theorem answer_removeTags (henabled : ∃ r ∈ selection, r.reference.isSome = true) :
    (removeTags.invoke selection w).1 =
      .ok (account w.store.untagFate "Removed all tags" selection) := by
  have hrun : (untagRecords (Need.resources.pass selection) w).1 =
      account w.store.untagFate "Removed all tags" selection := by
    have htally := tally_changeTags_untagRecord (Need.resources.pass selection) w
    rw [fates_pass] at htally
    rw [account, ← htally]
    rfl
  rw [invoke_of_enabled w rfl henabled, ← hrun]
  rfl

variable {w}

theorem settles_of_mem_writing (hoff : w.store.inBatch = false) {hiddenTag : String} {a : Action World}
    (ha : a ∈ writing hiddenTag parameters) (selection : List Record) :
    Settles w (a.invoke selection w).1 (a.invoke selection w).2 := by
  apply settles_invoke hoff
  intro records
  simp only [writing, List.mem_cons, List.not_mem_nil, or_false] at ha
  rcases ha with rfl | rfl | rfl | rfl
  · exact settles_changeTags (accounts_tagRecord [{ name := hiddenTag }]) records w
      ("Tagged as " ++ hiddenTag)
  · have hparameters : (tagging parameters).parameters = parameters := rfl
    rw [hparameters, run_tagging]
    by_cases h : tagNames parameters = []
    · rw [if_pos h]
      refine ⟨hoff, (List.append_nil w.notices).symm, fun _ _ => ⟨rfl, rfl⟩, ?_⟩
      intro e he
      cases he
    · rw [if_neg h]
      exact settles_changeTags (accounts_tagRecord (givenTags parameters)) records w
        ("Added tags: " ++ Text.join ", " (tagNames parameters))
  · exact settles_changeTags accounts_untagRecord records w "Removed all tags"
  · exact settles_changeTags accounts_tagPackage records w _

end Action

/-- After any of the actions that write, batches are off, the listeners have heard of what was affected
    once, and a failed call has changed nothing.  Hiding, tagging and removing count each record with a
    subject as affected, failed or, unless tags are removed, vanished; tagging that is given no tags
    fails as a whole.  A subject gets the tags once for each affected record of it, and for no other. -/
theorem accounts_of_writing (hiddenTag : String) (parameters : List Parameter)
    (selection : List Record) (w : World) (hoff : w.store.inBatch = false) :
    (∀ a ∈ Action.writing hiddenTag parameters,
      Settles w (a.invoke selection w).1 (a.invoke selection w).2) ∧
    ((∃ r ∈ selection, r.reference.isSome = true) →
      ((Action.hide hiddenTag).invoke selection w).1 =
        .ok (account w.store.tagFate ("Tagged as " ++ hiddenTag) selection) ∧
      ((Action.tagging parameters).invoke selection w).1 =
        (if Action.tagNames parameters = [] then .ok (.failed "No tags specified")
        else
          .ok (account w.store.tagFate
            ("Added tags: " ++ Text.join ", " (Action.tagNames parameters)) selection)) ∧
      (Action.removeTags.invoke selection w).1 =
        .ok (account w.store.untagFate "Removed all tags" selection)) ∧
    (∀ fate : Reference → Fate,
      let t := Tally.ofFates (fates fate selection)
      t.affected + t.errors.length + (fates fate selection).countP (fun f => f.2 = .vanished) =
        selection.countP fun r => r.reference.isSome) ∧
    (∀ reference, w.store.untagFate reference ≠ .vanished) ∧
    ∀ uri,
      ((Action.hide hiddenTag).invoke selection w).2.store.subjects.get? uri =
        ((w.store.subjects.get? uri).map fun x => x.tagged
          ((selection.filter (Record.gainsTags w.store uri)).flatMap fun _ => [{ name := hiddenTag }])) ∧
      ((Action.tagging parameters).invoke selection w).2.store.subjects.get? uri =
        (w.store.subjects.get? uri).map fun x => x.tagged
          ((selection.filter (Record.gainsTags w.store uri)).flatMap
            fun _ => Action.givenTags parameters) := by
  refine ⟨fun a ha => Action.settles_of_mem_writing parameters hoff ha selection, ?_, ?_,
    w.store.untagFate_ne_vanished, ?_⟩
  · intro henabled
    exact ⟨Action.answer_hide w hiddenTag henabled, Action.answer_tagging parameters w henabled,
      Action.answer_removeTags w henabled⟩
  · intro fate t
    rw [← length_fates selection fate]
    exact Tally.ofFates_sum (fates fate selection)
  · intro uri
    have hhide := edited_hide selection w hiddenTag
    simp only [List.map_eq_flatMap] at hhide
    exact ⟨get?_of_edited selection hhide uri,
      get?_of_edited selection (Action.edited_tagging parameters selection w) uri⟩

/-- A selection with a record that is repeated, one without a subject, one whose subject is gone, and one
    whose subject takes no tags. -/
theorem accounts_of_writing_mixedSelection :
    let a : Record := { id := 0, display := "a", reference := some { uri := "urn:a" } }
    let plain : Record := { id := 1, display := "plain" }
    let gone : Record := { id := 2, display := "gone", reference := some { uri := "urn:gone" } }
    let b : Record := { id := 3, display := "b", reference := some { uri := "urn:b" } }
    let w : World := {
      store := {
        subjects := (Dict.empty.insert "urn:a" {}).insert "urn:b" {}
        refusals := [(.addTag, Dict.empty.insert "urn:b" (.query "locked"))] } }
    let hide := (Action.hide "hidden").invoke [a, plain, gone, b, a] w
    w.store.inBatch = false ∧
      hide.1 = .ok (.partly 2 1 ["b: Query failed: locked"]) ∧
      hide.2.notices = [.tagsChanged 2] ∧ hide.2.store.inBatch = false ∧
      hide.2.store.subjects.get? "urn:a" =
        some { tags := [{ name := "hidden" }, { name := "hidden" }] } ∧
      hide.2.store.subjects.get? "urn:b" = some {} := by
  intro a plain gone b w hide
  obtain ⟨hsettles, hanswers, -, -, hsubjects⟩ :=
    accounts_of_writing "hidden" [] [a, plain, gone, b, a] w rfl
  have hhide := hsettles (Action.hide "hidden") List.mem_cons_self
  have hanswer : hide.1 = .ok (.partly 2 1 ["b: Query failed: locked"]) :=
    (hanswers ⟨a, List.mem_cons_self, rfl⟩).1
  have htold := hhide.told
  rw [show ((Action.hide "hidden").invoke [a, plain, gone, b, a] w).1 = _ from hanswer] at htold
  exact ⟨rfl, hanswer, htold, hhide.off, (hsubjects "urn:a").1, (hsubjects "urn:b").1⟩

/-- Tagging that is given no tags fails, though both records could be tagged: whatever were to become of
    the records, this is not the outcome that counts them. -/
theorem tagging_without_names :
    let a : Record := { id := 0, display := "a", reference := some { uri := "urn:a" } }
    let b : Record := { id := 1, display := "b", reference := some { uri := "urn:b" } }
    let w : World := { store := { subjects := (Dict.empty.insert "urn:a" {}).insert "urn:b" {} } }
    let blank : List Parameter := [.text { Action.tagNamesParameter with current := some " , " },
      .text Action.tagDetailParameter]
    let tagged := (Action.tagging blank).invoke [a, b] w
    w.store.tagFate { uri := "urn:a" } = .affected ∧ w.store.tagFate { uri := "urn:b" } = .affected ∧
      tagged.1 = .ok (.failed "No tags specified") ∧
      ∀ fate details, tagged.1 ≠ .ok (account fate details [a, b]) := by
  intro a b w blank tagged
  have hnone : Action.tagNames blank = [] := by decide +kernel
  have hanswer : tagged.1 = .ok (.failed "No tags specified") := by
    have henabled : ∃ r ∈ [a, b], r.reference.isSome = true := ⟨a, List.mem_cons_self, rfl⟩
    have hrun := Action.answer_tagging blank w henabled
    rw [if_pos hnone] at hrun
    exact hrun
  refine ⟨by decide, by decide, hanswer, ?_⟩
  intro fate details h
  rw [hanswer] at h
  have hfailed := (Except.ok.inj h).symm
  obtain ⟨hsome, htext⟩ := Outcome.errors_of_failed hfailed
  have hnot := Outcome.affected_eq_zero_of_failed hfailed
  have hfates : fates fate [a, b] = [("a", fate { uri := "urn:a" }), ("b", fate { uri := "urn:b" })] :=
    rfl
  rw [hfates] at hsome htext hnot
  -- The text would begin with the display of the first record that failed.
  have hstart := congrArg (fun text => text.toList.head?) htext
  cases ha : fate { uri := "urn:a" } with
  | affected => simp [ha, Tally.ofFates] at hnot
  | failed cause =>
    cases hb : fate { uri := "urn:b" } with
    | affected => simp [hb, Tally.ofFates] at hnot
    | failed cause' => simp [ha, hb, Tally.ofFates, Fate.error?, Text.join] at hstart
    | vanished => simp [ha, hb, Tally.ofFates, Fate.error?, Text.join] at hstart
  | vanished =>
    cases hb : fate { uri := "urn:b" } with
    | affected => simp [hb, Tally.ofFates] at hnot
    | failed cause => simp [ha, hb, Tally.ofFates, Fate.error?, Text.join] at hstart
    | vanished => simp [ha, hb, Tally.ofFates, Fate.error?] at hsome

end Stocktake
