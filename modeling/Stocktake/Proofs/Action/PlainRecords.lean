import Stocktake.Proofs.Action.Accounting

/-!
# Records without a subject

An action on resources is passed the selected records with a subject, and each of these actions would also pass
over the others by itself.  Both agree with what it takes to be enabled, so records without a subject make no
difference, whatever stands between them.  Main statements: `overRecords_pass` for a run over records,
`run_pass` for the actions, `plain_records_pass_by`.
-/

namespace Stocktake

section Runs

/-- A step that leaves records without a subject alone. -/
def SkipsPlain (step : Tally → Record → World → Tally × World) : Prop :=
  ∀ t r w, r.reference = none → step t r w = (t, w)

theorem skipsPlain_tagRecord (tags : List Tag) : SkipsPlain (tagRecord tags) := by
  intro t r w hr
  rw [tagRecord, hr]

theorem skipsPlain_untagRecord : SkipsPlain untagRecord := by
  intro t r w hr
  rw [untagRecord, hr]

theorem skipsPlain_tagPackage : SkipsPlain Packages.tagPackage := by
  intro t r w hr
  rw [Packages.tagPackage, hr]

variable {step : Tally → Record → World → Tally × World} (hstep : SkipsPlain step)
include hstep

theorem overRecords_pass (records : List Record) (t : Tally) (w : World) :
    overRecords step t (Need.resources.pass records) w = overRecords step t records w := by
  have hcons : ∀ t w r rest, overRecords step t (r :: rest) w =
      overRecords step (step t r w).1 rest (step t r w).2 := fun _ _ _ _ => rfl
  induction records generalizing t w with
  | nil => rfl
  | cons r records ih =>
    have hpass : Need.resources.pass (r :: records) =
        if r.reference.isSome then r :: Need.resources.pass records else Need.resources.pass records := by
      rw [Need.pass, Need.pass, List.filter_cons]
    rw [hpass]
    cases hr : r.reference with
    | none =>
      have hskip := hstep t r w hr
      rw [hcons, hskip]
      exact ih t w
    | some reference =>
      rw [Option.isSome_some, if_pos rfl, hcons, hcons]
      exact ih _ _

theorem changeTags_pass (records : List Record) (w : World) :
    changeTags step (Need.resources.pass records) w = changeTags step records w := by
  have hrun : overRecords step {} (Need.resources.pass records) = overRecords step {} records :=
    funext (overRecords_pass hstep records {})
  rw [changeTags, changeTags, hrun]

end Runs

namespace Action

variable (hiddenTag : String) (parameters : List Parameter)

/-- The actions that are built in: those of every view, of which tagging may have parameters of any values, and
    that of the view on packages. -/
def builtIn : List (Action World) :=
  [hide hiddenTag, tagging parameters, copyText, copyUri, removeTags, Packages.tagFilesAction]

/-- Those that work on resources. -/
def onResources : List (Action World) :=
  [hide hiddenTag, tagging parameters, copyUri, removeTags, Packages.tagFilesAction]

variable {hiddenTag parameters} {a : Action World}

/-- An action on resources does on any records what it does on those with a subject. -/
theorem run_pass (ha : a ∈ onResources hiddenTag parameters) (records : List Record) (w : World) :
    a.run a.parameters (Need.resources.pass records) w = a.run a.parameters records w := by
  simp only [onResources, List.mem_cons, List.not_mem_nil, or_false] at ha
  rcases ha with rfl | rfl | rfl | rfl | rfl
  · simp only [hide, tagRecords, changeTags_pass (skipsPlain_tagRecord _)]
  · have hparameters : (tagging parameters).parameters = parameters := rfl
    rw [hparameters, run_tagging, run_tagging]
    simp only [tagRecords, changeTags_pass (skipsPlain_tagRecord _)]
  · have huris : (Need.resources.pass records).filterMap Record.uri = records.filterMap Record.uri := by
      rw [Need.pass, List.filterMap_filter]
      refine List.filterMap_congr fun r _ => ?_
      rw [Record.uri]
      cases r.reference with
      | none => rfl
      | some reference => rfl
    simp only [copyUri, huris]
  · simp only [removeTags, untagRecords, changeTags_pass skipsPlain_untagRecord]
  · simp only [Packages.tagFilesAction, Packages.tagPackages, changeTags_pass skipsPlain_tagPackage]

/-- No action that is carried out tells that it is disabled. -/
theorem run_ne_disabled (ha : a ∈ builtIn hiddenTag parameters) (records : List Record) (w : World)
    (name : String) : (a.run a.parameters records w).1 ≠ .error (.actionDisabled name) := by
  have houtcome : ∀ (o : Outcome) (w' : World),
      ((.ok o : Except ModuleError Outcome), w').1 ≠ .error (.actionDisabled name) := by
    intro o w' h
    cases h
  have hcopy : ∀ lines details, (copyLines lines details w).1 ≠ .error (.actionDisabled name) := by
    intro lines details h
    unfold copyLines World.copy at h
    cases hrefusal : w.clipboard.refusal with
    | none =>
      rw [hrefusal] at h
      cases h
    | some reason =>
      rw [hrefusal] at h
      cases h
  simp only [builtIn, List.mem_cons, List.not_mem_nil, or_false] at ha
  rcases ha with rfl | rfl | rfl | rfl | rfl | rfl
  · exact houtcome _ _
  · have hparameters : (tagging parameters).parameters = parameters := rfl
    rw [hparameters, run_tagging]
    split
    · exact houtcome _ _
    · exact houtcome _ _
  · exact hcopy _ _
  · exact hcopy _ _
  · exact houtcome _ _
  · exact houtcome _ _

theorem need_of_mem_onResources (ha : a ∈ onResources hiddenTag parameters) : a.need = .resources := by
  simp only [onResources, List.mem_cons, List.not_mem_nil, or_false] at ha
  rcases ha with rfl | rfl | rfl | rfl | rfl
  all_goals rfl

/-- What an action on resources does depends on the selected records with a subject alone: on whether there are
    any, and on what it does with them. -/
theorem invoke_eq_of_resources (hneed : a.need = .resources) (selection : List Record) (w : World) :
    a.invoke selection w =
      if Need.resources.pass selection = [] then (.error (.actionDisabled a.name), w)
      else a.run a.parameters (Need.resources.pass selection) w := by
  have henabled : a.isEnabled selection = true ↔ Need.resources.pass selection ≠ [] := by
    rw [isEnabled, hneed, Need.satisfied, List.any_eq_true, Need.pass, Ne, List.filter_eq_nil_iff]
    simp only [not_forall, not_not, exists_prop]
  rw [invoke, hneed]
  by_cases hnone : Need.resources.pass selection = []
  · rw [if_pos hnone, if_neg fun h => henabled.1 h hnone]
  · rw [if_neg hnone, if_pos (henabled.2 hnone)]

end Action

/-- A call of a built-in action tells that it is disabled if and only if it is, and then nothing is changed.
    What a call of an action on resources tells and leaves behind is the same for selections that have the same
    records with a subject, in the same order; and where there are any, it is what the action does with the
    whole selection. -/
theorem plain_records_pass_by (hiddenTag : String) (parameters : List Parameter) :
    (∀ a ∈ Action.builtIn hiddenTag parameters, ∀ (selection : List Record) (w : World),
      ((∃ name, (a.invoke selection w).1 = .error (.actionDisabled name)) ↔
        a.isEnabled selection = false) ∧
      (a.isEnabled selection = false → a.invoke selection w = (.error (.actionDisabled a.name), w))) ∧
    ∀ a ∈ Action.onResources hiddenTag parameters, ∀ (selection : List Record) (w : World),
      (∀ selection' : List Record,
        (selection.filter fun r => r.reference.isSome) = (selection'.filter fun r => r.reference.isSome) →
        a.invoke selection w = a.invoke selection' w) ∧
      (a.isEnabled selection = true → a.invoke selection w = a.run a.parameters selection w) := by
  constructor
  · intro a ha selection w
    have hdisabled : a.isEnabled selection = false →
        a.invoke selection w = (.error (.actionDisabled a.name), w) := by
      intro h
      rw [Action.invoke, h, if_neg Bool.false_ne_true]
    refine ⟨⟨?_, fun h => ⟨a.name, by rw [hdisabled h]⟩⟩, hdisabled⟩
    rintro ⟨name, htold⟩
    cases henabled : a.isEnabled selection with
    | false => rfl
    | true =>
      rw [Action.invoke, if_pos henabled] at htold
      exact absurd htold (Action.run_ne_disabled ha _ w name)
  · intro a ha selection w
    have hneed := Action.need_of_mem_onResources ha
    constructor
    · intro selection' hsame
      have hpass : Need.resources.pass selection = Need.resources.pass selection' := hsame
      rw [Action.invoke_eq_of_resources hneed, Action.invoke_eq_of_resources hneed, hpass]
    · intro henabled
      rw [Action.invoke, if_pos henabled, hneed, Action.run_pass ha]

/-- Plain records before, between and behind two records with a subject, one of which cannot be written. -/
theorem plain_records_pass_by_mixed :
    let plain : Record := { id := 0, display := "plain" }
    let a : Record := { id := 1, display := "a", reference := some { uri := "urn:a" } }
    let b : Record := { id := 2, display := "b", reference := some { uri := "urn:b" } }
    let other : Record := { id := 3, display := "other" }
    let w : World := {
      store := {
        subjects := (Dict.empty.insert "urn:a" {}).insert "urn:b" {}
        refusals := [(.addTag, Dict.empty.insert "urn:b" (.query "locked"))] } }
    let hide := Action.hide "hidden"
    hide.invoke [plain, a, other, b, plain] w = hide.invoke [a, b] w ∧
      (hide.invoke [a, b] w).1 = .ok (.partly 1 1 ["b: Query failed: locked"]) ∧
      (hide.invoke [a, b] w).2.notices = [.tagsChanged 1] ∧
      Action.copyUri.invoke [other, a, b] w = Action.copyUri.run [] [other, a, b] w ∧
      (Action.copyUri.run [] [other, a, b] w).2.clipboard.text = some "urn:a\nurn:b" ∧
      hide.isEnabled [plain, other] = false ∧
      hide.invoke [plain, other] w = (.error (.actionDisabled "Hide"), w) := by
  intro plain a b other w hide
  obtain ⟨hgate, hpassed⟩ := plain_records_pass_by "hidden" []
  have hhide : hide ∈ Action.onResources "hidden" [] := List.mem_cons_self
  have hcopy : Action.copyUri ∈ Action.onResources "hidden" [] := by simp [Action.onResources]
  have hdisabled : hide.isEnabled [plain, other] = false := by decide
  exact ⟨(hpassed hide hhide [plain, a, other, b, plain] w).1 [a, b] (by decide), by decide +kernel,
    by decide +kernel, (hpassed Action.copyUri hcopy [other, a, b] w).2 (by decide), by decide +kernel, hdisabled,
    (hgate hide List.mem_cons_self [plain, other] w).2 hdisabled⟩

end Stocktake
