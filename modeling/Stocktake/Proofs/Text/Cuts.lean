import Stocktake.Proofs.Text.Quoting
import Stocktake.Text.Split

/-!
# Cutting at a separator that ends with a mark

Where the last character of a separator, the mark, stands nowhere else in it, the separator can only be found
at a mark of the text: at the first one, if the text before the mark ends with the rest of the separator, or
behind it.  Main statements: `splitOnce?_mark` and `splitOnce?_mark_of_not_suffix`.
-/

namespace Stocktake.Text

variable {sep start x : List Char} {c mark : Char}

theorem splitOnce?_of_stripStart? {s r : List Char} (hsep : sep ≠ []) (h : stripStart? sep s = some r) :
    splitOnce? sep s = some ([], r) := by
  cases s with
  | nil =>
    have hsplit := stripStart?_eq_some.1 h
    exact absurd (List.append_eq_nil_iff.1 hsplit.symm).1 hsep
  | cons c s => rw [splitOnce?, h]

theorem splitOnce?_cons {s : List Char} (h : stripStart? sep (c :: s) = none) :
    splitOnce? sep (c :: s) = (splitOnce? sep s).map fun (a, b) => (c :: a, b) := by
  rw [splitOnce?, h]

/-- The separator does not start further away from the first mark than it is long. -/
theorem stripStart?_mark (hstart : mark ∉ start) (hx : mark ∉ x) (hne : x ≠ start) (y : List Char) :
    stripStart? (start ++ [mark]) (x ++ mark :: y) = none := by
  cases hstrip : stripStart? (start ++ [mark]) (x ++ mark :: y) with
  | none => rfl
  | some r =>
    have hsplit := stripStart?_eq_some.1 hstrip
    rw [List.append_assoc, List.singleton_append] at hsplit
    exact absurd (append_mark_inj hx hstart hsplit).1 hne

/-- The cut is at the first mark if the separator ends there. -/
theorem splitOnce?_mark {a : List Char} (hstart : mark ∉ start) (ha : mark ∉ a) (y : List Char) :
    splitOnce? (start ++ [mark]) (a ++ (start ++ mark :: y)) = some (a, y) := by
  induction a with
  | nil =>
    refine splitOnce?_of_stripStart? (by simp) (stripStart?_eq_some.2 ?_)
    rw [List.nil_append, List.append_assoc, List.singleton_append]
  | cons d a ih =>
    have hlonger : d :: (a ++ start) ≠ start := by
      intro heq
      have hlength := congrArg List.length heq
      simp only [List.length_cons, List.length_append] at hlength
      omega
    have hfree : mark ∉ d :: (a ++ start) := by
      rw [← List.cons_append, List.mem_append, not_or]
      exact ⟨ha, hstart⟩
    have hpassed := stripStart?_mark hstart hfree hlonger y
    simp only [List.cons_append, List.append_assoc] at hpassed ⊢
    rw [splitOnce?_cons hpassed, ih (List.not_mem_of_not_mem_cons ha), Option.map_some]

/-- The cut is behind the first mark if the separator does not end there. -/
theorem splitOnce?_mark_of_not_suffix (hstart : mark ∉ start) (hx : mark ∉ x) (hsuffix : ¬ start <:+ x)
    (y : List Char) :
    splitOnce? (start ++ [mark]) (x ++ mark :: y) =
      (splitOnce? (start ++ [mark]) y).map fun (a, b) => (x ++ mark :: a, b) := by
  induction x with
  | nil =>
    have hne : [] ≠ start := by
      rintro rfl
      exact hsuffix (List.suffix_refl [])
    exact splitOnce?_cons (stripStart?_mark hstart hx hne y)
  | cons d x ih =>
    have hne : d :: x ≠ start := by
      rintro rfl
      exact hsuffix (List.suffix_refl (d :: x))
    have hshorter : ¬ start <:+ x := by
      intro h
      exact hsuffix (h.trans (List.suffix_cons d x))
    have hpassed := stripStart?_mark hstart hx hne y
    rw [List.cons_append] at hpassed ⊢
    rw [splitOnce?_cons hpassed, ih (List.not_mem_of_not_mem_cons hx) hshorter, Option.map_map]
    rfl

/-- What stands behind a cut, and has none, is the last segment. -/
theorem afterLast_append {isCut : Char → Bool} {t : List Char} (hc : isCut c = true)
    (ht : ∀ d ∈ t, isCut d = false) (s : List Char) : afterLast isCut (s ++ c :: t) = t := by
  have hfree : ∀ d ∈ t.reverse, (!isCut d) = true := by
    intro d hd
    rw [ht d (List.mem_reverse.1 hd), Bool.not_false]
  rw [afterLast, List.reverse_append, List.reverse_cons, List.append_assoc, List.singleton_append,
    List.takeWhile_append_of_pos hfree, List.takeWhile_cons_of_neg (by simp [hc]), List.append_nil,
    List.reverse_reverse]

end Stocktake.Text
