import Mathlib.Data.List.DropRight
import Stocktake.Text.Blank

/-!
# What trimming leaves

Blanks at the end count for nothing when a text is trimmed there, so that texts which differ in such blanks
alone are trimmed to the same one, and so are corresponding parts of them.  A text trimmed at both ends is a
part of the text, and is not trimmed any further.  Main statements: `trimEnd_append_blanks`,
`trimEnd_take_drop_trimEnd`, `trimChars_isInfix` and `trimChars_eq_self_iff`.
-/

namespace Stocktake.Text

variable {s b : List Char}

section Ends

theorem trimEnd_eq_rdropWhile (s : List Char) : trimEnd s = s.rdropWhile isBlank := rfl

theorem trimEnd_append_blanks (hb : ∀ c ∈ b, isBlank c = true) (s : List Char) :
    trimEnd (s ++ b) = trimEnd s := by
  induction b using List.reverseRecOn with
  | nil => rw [List.append_nil]
  | append_singleton b c ih =>
    have hc : isBlank c = true := hb c (by simp)
    have hrest : ∀ d ∈ b, isBlank d = true := fun d hd => hb d (List.mem_append_left _ hd)
    rw [← List.append_assoc, trimEnd_eq_rdropWhile, List.rdropWhile_concat_pos isBlank _ c hc]
    exact ih hrest

/-- What is trimmed from the end of a text is blank. -/
theorem exists_trimEnd_append (s : List Char) :
    ∃ b, (∀ c ∈ b, isBlank c = true) ∧ s = trimEnd s ++ b :=
  ⟨s.rtakeWhile isBlank, fun _ hc => List.mem_rtakeWhile_imp hc,
    List.rdropWhile_append_rtakeWhile.symm⟩

theorem trimEnd_eq_nil_iff : trimEnd s = [] ↔ ∀ c ∈ s, isBlank c = true :=
  List.rdropWhile_eq_nil_iff

theorem trimEnd_isPrefix (s : List Char) : trimEnd s <+: s := List.rdropWhile_prefix isBlank s

/-- Parts at the same place of a text and of the text trimmed at its end are trimmed to the same. -/
theorem trimEnd_take_drop_trimEnd (s : List Char) (start size : Nat) :
    trimEnd (((trimEnd s).drop start).take size) = trimEnd ((s.drop start).take size) := by
  obtain ⟨b, hb, hs⟩ := exists_trimEnd_append s
  conv_rhs => rw [hs]
  rw [List.drop_append, List.take_append, trimEnd_append_blanks]
  intro c hc
  exact hb c (List.mem_of_mem_drop (List.mem_of_mem_take hc))

end Ends

section BothEnds

theorem trimChars_isInfix (s : List Char) : trimChars s <:+: s :=
  (trimEnd_isPrefix (trimStart s)).isInfix.trans (List.dropWhile_suffix isBlank).isInfix

theorem trimChars_eq_nil_iff : trimChars s = [] ↔ ∀ c ∈ s, isBlank c = true := by
  rw [trimChars, trimEnd_eq_nil_iff]
  refine ⟨fun h => List.dropWhile_eq_nil_iff.1 ?_, fun h c hc => ?_⟩
  · -- The first character that is left would not be blank.
    cases hrest : s.dropWhile isBlank with
    | nil => rfl
    | cons c r =>
      have hblank : isBlank c = true := h c (by rw [trimStart, hrest]; exact List.mem_cons_self)
      rw [trimStart_head hrest] at hblank
      cases hblank
  · exact h c ((List.dropWhile_suffix isBlank).subset hc)

/-- The ends of a trimmed text are not blank. -/
theorem trimChars_ends (s : List Char) :
    (∀ c ∈ (trimChars s).head?, isBlank c = false) ∧ ∀ c ∈ (trimChars s).getLast?, isBlank c = false := by
  constructor
  · intro c hc
    -- The first character is that of the text trimmed at its start.
    obtain ⟨b, hb⟩ := trimEnd_isPrefix (trimStart s)
    obtain ⟨r, hr⟩ := List.head?_eq_some_iff.1 hc
    rw [trimChars] at hr
    rw [hr, List.cons_append] at hb
    exact trimStart_head hb.symm
  · intro c hc
    obtain ⟨r, hr⟩ := List.getLast?_eq_some_iff.1 hc
    exact trimEnd_getLast hr

/-- A text stays as it is if and only if its ends are not blank. -/
theorem trimChars_eq_self_iff :
    trimChars s = s ↔
      (∀ c ∈ s.head?, isBlank c = false) ∧ ∀ c ∈ s.getLast?, isBlank c = false := by
  constructor
  · intro h
    have hends := trimChars_ends s
    rwa [h] at hends
  · rintro ⟨hfirst, hlast⟩
    have hstart : trimStart s = s := by
      cases s with
      | nil => rfl
      | cons c s => exact List.dropWhile_cons_of_neg (by simp [hfirst c rfl])
    rw [trimChars, hstart, trimEnd_eq_rdropWhile, List.rdropWhile_eq_self_iff]
    intro hne
    rw [hlast _ (List.getLast?_eq_some_getLast hne)]
    exact Bool.false_ne_true

theorem trimChars_trimChars (s : List Char) : trimChars (trimChars s) = trimChars s :=
  trimChars_eq_self_iff.2 (trimChars_ends s)

end BothEnds

end Stocktake.Text
