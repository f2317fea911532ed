import Stocktake.Filter.Basic
import Stocktake.Proofs.Text.FinalSigma

/-!
# Searching for what is literally there

The tests of names and texts compare lowercase with lowercase, and the pattern is lowercased by itself.  So
a pattern is found wherever its capital sigmas have the forms that they have in the pattern alone; one in
which a sigma has no settled form is missed in some texts that hold it.  Main statements:
`literal_search` and `capitalSigma_missed`.
-/

namespace Stocktake

namespace Filter

theorem containsFolded_of_standsAlike {text pattern : String}
    (h : Text.StandsAlike pattern.toList text.toList) : containsFolded text pattern = true :=
  h.occursIn_lowerChars

/-- A pattern that is found in the empty text is found in every text. -/
theorem containsFolded_of_empty {pattern : String} (h : containsFolded "" pattern = true)
    (text : String) : containsFolded text pattern = true := by
  obtain ⟨a, b, hempty⟩ := Text.occursIn_iff.1 h
  have hpattern : Text.lowerChars pattern.toList = [] :=
    (List.append_eq_nil_iff.1 (List.append_eq_nil_iff.1 hempty.symm).1).2
  rw [containsFolded, hpattern]
  exact Text.occursIn_iff.2 ⟨[], Text.lowerChars text.toList, rfl⟩

/-- A pattern is found in every text that holds it exactly if it settles the forms of its sigmas. -/
theorem containsFolded_iff_settled (pattern : String) :
    (∀ text, Text.contains text pattern = true → containsFolded text pattern = true) ↔
      Text.SigmasSettled pattern.toList := by
  rw [← Text.occursIn_lowerChars_iff]
  constructor
  · intro h s hs
    have hfound := h (String.ofList s)
    rw [Text.contains, containsFolded, String.toList_ofList] at hfound
    exact hfound hs
  · intro h text hs
    exact h text.toList hs

section Accepts

variable (store : Store) {r : Reading} {pattern : String}

theorem accepts_name_of_standsAlike (h : Text.StandsAlike pattern.toList r.display.toList) :
    (name pattern).accepts store r = true := by
  rw [accepts]
  exact containsFolded_of_standsAlike h

theorem accepts_text_of_standsAlike (h : Text.StandsAlike pattern.toList r.display.toList) :
    (text pattern).accepts store r = true := by
  rw [accepts, containsFolded_of_standsAlike h, Bool.true_or]

theorem accepts_text_of_field {v : String} (hv : v ∈ r.fields.values)
    (h : Text.StandsAlike pattern.toList v.toList) : (text pattern).accepts store r = true := by
  rw [accepts, Bool.or_eq_true]
  right
  exact List.any_eq_true.2 ⟨v, hv, containsFolded_of_standsAlike h⟩

/-- Of a record without fields only the display counts. -/
theorem accepts_text_display (s : String) :
    (text pattern).accepts store { display := s } = containsFolded s pattern := by
  rw [accepts]
  exact Bool.or_false _

/-- Of a record without a display its field counts. -/
theorem accepts_text_note (s : String) :
    (text pattern).accepts store { display := "", fields := Dict.empty.insert "note" s } =
      containsFolded s pattern := by
  have hvalues : (Dict.empty.insert "note" s).values = [s] := rfl
  rw [accepts, hvalues, List.any_cons, List.any_nil, Bool.or_false]
  cases hempty : containsFolded "" pattern with
  | false => rfl
  | true => rw [containsFolded_of_empty hempty, Bool.true_or]

end Accepts

end Filter

/-- The test of names and the test of texts find a pattern in the display, and the test of texts finds it in
    the value of a field, wherever its capital sigmas have the forms that they have in the pattern alone.
    Each of the three is found wherever the pattern literally stands exactly if the pattern settles the forms
    of its sigmas. -/
theorem literal_search (pattern : String) :
    (∀ (store : Store) (r : Reading), Text.StandsAlike pattern.toList r.display.toList →
      (Filter.name pattern).accepts store r = true ∧ (Filter.text pattern).accepts store r = true) ∧
    (∀ (store : Store) (r : Reading), ∀ v ∈ r.fields.values,
      Text.StandsAlike pattern.toList v.toList → (Filter.text pattern).accepts store r = true) ∧
    ((∀ (store : Store) (r : Reading), Text.contains r.display pattern = true →
      (Filter.name pattern).accepts store r = true) ↔ Text.SigmasSettled pattern.toList) ∧
    ((∀ (store : Store) (r : Reading), Text.contains r.display pattern = true →
      (Filter.text pattern).accepts store r = true) ↔ Text.SigmasSettled pattern.toList) ∧
    ((∀ (store : Store) (r : Reading), ∀ v ∈ r.fields.values, Text.contains v pattern = true →
      (Filter.text pattern).accepts store r = true) ↔ Text.SigmasSettled pattern.toList) := by
  refine ⟨?_, ?_, ⟨?_, ?_⟩, ⟨?_, ?_⟩, ⟨?_, ?_⟩⟩
  · intro store r h
    exact ⟨Filter.accepts_name_of_standsAlike store h, Filter.accepts_text_of_standsAlike store h⟩
  · intro store r v hv h
    exact Filter.accepts_text_of_field store hv h
  · intro hfound
    apply (Filter.containsFolded_iff_settled pattern).1
    intro s hs
    have haccepts := hfound {} { display := s } hs
    rwa [Filter.accepts] at haccepts
  · intro h store r hs
    exact Filter.accepts_name_of_standsAlike store (h.standsAlike hs)
  · intro hfound
    apply (Filter.containsFolded_iff_settled pattern).1
    intro s hs
    rw [← Filter.accepts_text_display {} s]
    exact hfound {} { display := s } hs
  · intro h store r hs
    exact Filter.accepts_text_of_standsAlike store (h.standsAlike hs)
  · intro hfound
    apply (Filter.containsFolded_iff_settled pattern).1
    intro s hs
    rw [← Filter.accepts_text_note {} s]
    exact hfound {} _ s List.mem_cons_self hs
  · intro h store r v hv hs
    exact Filter.accepts_text_of_field store hv (h.standsAlike hs)

/-- The last letter of a Greek word in capitals is not found in the word. -/
theorem capitalSigma_missed :
    let r : Reading := { display := "ΟΔΟΣ" }
    Text.contains r.display "Σ" = true ∧ (Filter.name "Σ").accepts {} r = false ∧
      (Filter.text "Σ").accepts {} r = false := by
  intro r
  have hlower : Filter.containsFolded r.display "Σ" = false := by decide +kernel
  refine ⟨by decide +kernel, ?_, ?_⟩
  · rw [Filter.accepts, hlower]
  · rw [Filter.accepts, hlower]
    rfl

end Stocktake
