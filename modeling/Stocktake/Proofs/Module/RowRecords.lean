import Stocktake.Module.Rows
import Mathlib.Data.List.Forall2

/-!
# Records of rows

A row that binds the label makes one record.  The label is taken from the row before the variable of the
subject is looked up, so that a subject is found except where both are the same variable; what is left are
the fields.  Main statements: `rowDraft?_eq`, `rowDrafts_bindings`, and `sharedVariable_unbacked`.
-/

namespace Stocktake

variable (label : String) (resource : Option String)

/-- The variable that names the subject once the label has been taken. -/
def subjectVariable : Option String := resource.filter (· ≠ label)

/-- The bindings of a row that are neither the label nor the subject. -/
def otherBindings (row : Row) : Dict String := resource.elim (row.erase label) (row.erase label).erase

/-- The record of a row that binds the label. -/
def rowDraft (row : Row) : Draft where
  display := (row.get? label).getD ""
  reference := ((subjectVariable label resource).bind row.get?).map fun uri => { uri }
  fields := otherBindings label resource row

theorem subjectVariable_self : subjectVariable label (some label) = none := by
  simp [subjectVariable, Option.filter]

theorem subjectVariable_of_ne (h : resource ≠ some label) : subjectVariable label resource = resource := by
  cases resource with
  | none => rfl
  | some name =>
    have hname : name ≠ label := by
      intro heq
      exact h (congrArg some heq)
    simp [subjectVariable, Option.filter, hname]

theorem get?_otherBindings (row : Row) (name : String) :
    (otherBindings label resource row).get? name =
      if name = label ∨ resource = some name then none else row.get? name := by
  cases resource with
  | none => simp [otherBindings, Dict.get?_erase]
  | some subject =>
    rw [otherBindings, Option.elim_some, Dict.get?_erase, Dict.get?_erase]
    by_cases hsubject : name = subject
    · simp [hsubject]
    · simp [hsubject, Ne.symm hsubject]

theorem get?_erase_label (row : Row) (name : String) :
    (row.erase label).get? name = (subjectVariable label (some name)).bind row.get? := by
  rw [Dict.get?_erase]
  by_cases hname : name = label
  · rw [if_pos hname, hname, subjectVariable_self, Option.bind_none]
  · have hne : some name ≠ some label := by simpa using hname
    rw [if_neg hname, subjectVariable_of_ne label (some name) hne, Option.bind_some]

/-- A row makes a record if it binds the label. -/
theorem rowDraft?_eq (row : Row) :
    rowDraft? label resource row = if row.has label then some (rowDraft label resource row) else none := by
  cases hlabel : row.get? label with
  | none => simp [rowDraft?, Dict.has, hlabel]
  | some display =>
    simp only [rowDraft?, Dict.has, rowDraft, hlabel, Option.isSome_some, if_true, Option.getD_some]
    cases resource with
    | none => rfl
    | some name =>
      simp only [get?_erase_label]
      cases huri : (subjectVariable label (some name)).bind row.get? with
      | some uri => rfl
      | none =>
        -- Without the variable there is nothing to take away.
        have hsame : (row.erase label).erase name = row.erase label := by
          apply Dict.ext_get?
          intro k
          rw [Dict.get?_erase]
          by_cases hk : k = name
          · rw [if_pos hk, hk, get?_erase_label, huri]
          · rw [if_neg hk]
        rw [otherBindings, Option.elim_some, hsame]
        rfl

theorem rowDrafts_eq (rows : List Row) :
    rowDrafts label resource rows = (rows.filter fun row => row.has label).map (rowDraft label resource) := by
  rw [rowDrafts, funext (rowDraft?_eq label resource), ← List.filterMap_eq_map, List.filterMap_filter]
  rfl

/-- Rows make one record for each that binds the label, in their order.  Its display is the value of the
    label, its fields are the bindings of all variables but the two, and it refers to the value of the
    variable of the subject if this is another one than the label.  So all records refer to what their rows
    bind exactly if the variables differ or no row makes a record. -/
theorem rowDrafts_bindings (rows : List Row) :
    List.Forall₂
      (fun row d =>
        row.get? label = some d.display ∧ d.tags = [] ∧
        d.reference = ((subjectVariable label resource).bind row.get?).map (fun uri => { uri }) ∧
        ∀ name, d.fields.get? name = if name = label ∨ resource = some name then none else row.get? name)
      (rows.filter fun row => row.has label) (rowDrafts label resource rows) ∧
    (List.Forall₂ (fun row d => d.reference = (resource.bind row.get?).map fun uri => { uri })
        (rows.filter fun row => row.has label) (rowDrafts label resource rows) ↔
      (resource = some label → ∀ row ∈ rows, row.get? label = none)) := by
  rw [rowDrafts_eq, List.forall₂_map_right_iff, List.forall₂_map_right_iff, List.forall₂_same,
    List.forall₂_same]
  constructor
  · intro row hrow
    obtain ⟨display, hdisplay⟩ := Option.isSome_iff_exists.1 (List.mem_filter.1 hrow).2
    refine ⟨?_, rfl, rfl, get?_otherBindings label resource row⟩
    rw [rowDraft, hdisplay, Option.getD_some]
  · by_cases hsame : resource = some label
    · -- The subject is left out, which every row that makes a record shows.
      constructor
      · intro hbacked _ row hrow
        cases hlabel : row.get? label with
        | none => rfl
        | some uri =>
          have hhas : row.has label = true := by rw [Dict.has, hlabel, Option.isSome_some]
          have hreference := hbacked row (List.mem_filter.2 ⟨hrow, hhas⟩)
          rw [rowDraft, hsame, subjectVariable_self, Option.bind_some, hlabel] at hreference
          cases hreference
      · intro hnone row hrow
        obtain ⟨hmem, hhas⟩ := List.mem_filter.1 hrow
        rw [Dict.has, hnone hsame row hmem] at hhas
        cases hhas
    · constructor
      · intro _ heq
        exact absurd heq hsame
      · intro _ row _
        rw [rowDraft, subjectVariable_of_ne label resource hsame]

/-- A row whose only variable is both the label and the subject makes a record without a subject. -/
theorem sharedVariable_unbacked :
    let row : Row := Dict.empty.insert "item" "urn:a"
    row.get? "item" = some "urn:a" ∧
      rowDrafts "item" (some "item") [row] = [{ display := "urn:a", reference := none }] := by
  decide +kernel

end Stocktake
