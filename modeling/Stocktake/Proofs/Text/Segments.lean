import Stocktake.Text.Split

/-!
# The parts of a path

A character that cuts does not stand in the pieces, so that a part of a path has no slash, and as a path has
itself as its only part.  Main statements: `not_mem_of_mem_splitAtChar`, `splitAtChar_of_not_mem`, and
`segments_of_mem_segments`.
-/

namespace Stocktake.Text

variable {c : Char} {s : List Char}

/-- What comes before the first cut does not have the character that cuts, nor has a text without a cut. -/
theorem not_mem_of_splitOnce? (c : Char) (s : List Char) :
    match splitOnce? [c] s with
    | none => c ∉ s
    | some (a, _) => c ∉ a := by
  induction s with
  | nil => simp [splitOnce?]
  | cons d s ih =>
    by_cases hd : c = d
    · have hstart : stripStart? [c] (d :: s) = some s := by simp [stripStart?, hd]
      simp [splitOnce?, hstart]
    · have hstart : stripStart? [c] (d :: s) = none := by simp [stripStart?, hd]
      rw [splitOnce?, hstart]
      cases hrest : splitOnce? [c] s with
      | none =>
        rw [hrest] at ih
        simpa [hd] using ih
      | some cut =>
        rw [hrest] at ih
        simpa [hd] using ih

theorem not_mem_of_mem_splitOnSep (hc : [c] ≠ []) {piece : List Char}
    (h : piece ∈ splitOnSep [c] hc s) : c ∉ piece := by
  fun_induction splitOnSep [c] hc s with
  | case1 s hnone =>
    have hfree := not_mem_of_splitOnce? c s
    rw [hnone] at hfree
    obtain rfl : piece = s := by simpa using h
    exact hfree
  | case2 s a b hcut ih =>
    have hfree := not_mem_of_splitOnce? c s
    rw [hcut] at hfree
    rcases List.mem_cons.1 h with rfl | hrest
    · exact hfree
    · exact ih hrest

theorem not_mem_of_mem_splitAtChar {piece : List Char} (h : piece ∈ splitAtChar c s) :
    c ∉ piece := by
  rw [splitAtChar, splitOn, dif_neg (List.cons_ne_nil c [])] at h
  exact not_mem_of_mem_splitOnSep _ h

theorem splitAtChar_of_not_mem (h : c ∉ s) : splitAtChar c s = [s] := by
  rw [splitAtChar, splitOn, dif_neg (List.cons_ne_nil c []), splitOnSep, splitOnce?_of_not_mem h]

/-- A part of a path is itself a path with this one part. -/
theorem segments_of_mem_segments {path x : String} (h : x ∈ segments path) : segments x = [x] := by
  obtain ⟨piece, hpiece, rfl⟩ := List.mem_map.1 h
  obtain ⟨hmem, hfilled⟩ := List.mem_filter.1 hpiece
  rw [segments, String.toList_ofList, splitAtChar_of_not_mem (not_mem_of_mem_splitAtChar hmem)]
  simp [hfilled]

end Stocktake.Text
