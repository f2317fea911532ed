import Stocktake.Text.Lowercase
import Stocktake.Text.Split

/-!
# The form of a capital sigma

A capital sigma becomes the final form at the end of a word, so that the lowercase of a part of a text is
not always part of the lowercase of the text.  What decides is the nearest character on either side that is
not case-ignorable.  Where it stands inside the part, nothing outside counts.  Main statements:
`lowerBetween_eq_iff`, when a text is lowercased alike in two places, `settled_iff`, and
`occursIn_lowerChars_iff`, which texts are found in lowercase wherever they stand.
-/

namespace Stocktake.Text

/-- Whether a capital sigma ends a word between the characters before it, the nearest first, and those after
    it. -/
def endsWord (before after : List Char) : Bool := startsCased before && !startsCased after

/-- `s` lowercased between the characters before it, the nearest first, and those after it. -/
def lowerBetween (before after : List Char) : List Char → List Char
  | [] => []
  | c :: s =>
    (if c = 'Σ' then [if endsWord before (s ++ after) then 'ς' else 'σ'] else lowerChar c) ++
      lowerBetween (c :: before) after s

section Between

variable {before after before' after' s : List Char}

theorem lowerAfter_append (before s t : List Char) :
    lowerAfter before (s ++ t) = lowerBetween before t s ++ lowerAfter (s.reverse ++ before) t := by
  induction s generalizing before with
  | nil => rfl
  | cons c s ih =>
    rw [List.cons_append, lowerAfter, ih, lowerBetween, List.append_assoc, List.reverse_cons,
      List.append_assoc, List.singleton_append]
    rfl

theorem lowerAfter_eq_lowerBetween (before s : List Char) :
    lowerAfter before s = lowerBetween before [] s := by
  have happend := lowerAfter_append before s []
  rw [List.append_nil, lowerAfter, List.append_nil] at happend
  exact happend

/-- The lowercase of a part stands in the lowercase of the whole, as it is in that place. -/
theorem lowerChars_append_append (a p b : List Char) :
    ∃ x y, lowerChars (a ++ p ++ b) = x ++ lowerBetween a.reverse b p ++ y := by
  refine ⟨lowerBetween [] (p ++ b) a, lowerAfter (p.reverse ++ a.reverse) b, ?_⟩
  rw [List.append_assoc, lowerChars, lowerAfter_append, List.append_nil, lowerAfter_append,
    List.append_assoc]

/-- The place of a text does not change the length of its lowercase. -/
theorem length_lowerBetween (before after before' after' s : List Char) :
    (lowerBetween before after s).length = (lowerBetween before' after' s).length := by
  induction s generalizing before before' with
  | nil => rfl
  | cons c s ih =>
    rw [lowerBetween, lowerBetween, List.length_append, List.length_append, ih (c :: before) (c :: before')]
    by_cases hc : c = 'Σ'
    · rw [if_pos hc, if_pos hc, List.length_singleton, List.length_singleton]
    · rw [if_neg hc, if_neg hc]

/-- A character of `c :: s` is the first one or stands in `s`. -/
theorem forall_split_cons {x c : Char} {P : List Char → List Char → Prop} :
    (∀ u w, c :: s = u ++ x :: w → P u w) ↔
      (c = x → P [] s) ∧ ∀ u w, s = u ++ x :: w → P (c :: u) w := by
  constructor
  · intro h
    constructor
    · intro hc
      subst hc
      exact h [] s rfl
    · intro u w hs
      exact h (c :: u) w (congrArg (c :: ·) hs)
  · rintro ⟨hfirst, hlater⟩ u w hs
    cases u with
    | nil =>
      obtain ⟨hc, rfl⟩ := List.cons.inj hs
      exact hfirst hc
    | cons d u =>
      obtain ⟨rfl, htail⟩ := List.cons.inj hs
      exact hlater u w htail

/-- A text is lowercased alike in two places exactly if each of its capital sigmas ends a word in both or in
    neither. -/
theorem lowerBetween_eq_iff :
    lowerBetween before after s = lowerBetween before' after' s ↔
      ∀ u w, s = u ++ 'Σ' :: w →
        endsWord (u.reverse ++ before) (w ++ after) = endsWord (u.reverse ++ before') (w ++ after') := by
  induction s generalizing before before' with
  | nil => simp [lowerBetween]
  | cons c s ih =>
    rw [forall_split_cons]
    simp only [List.reverse_nil, List.nil_append, List.reverse_cons, List.append_assoc, List.singleton_append]
    rw [← ih, lowerBetween, lowerBetween]
    by_cases hc : c = 'Σ'
    · rw [if_pos hc, if_pos hc]
      cases endsWord before (s ++ after) <;> cases endsWord before' (s ++ after') <;> simp [hc]
    · rw [if_neg hc, if_neg hc]
      simp [hc]

/-- A text is lowercased otherwise than by itself where one of its capital sigmas takes another form. -/
theorem lowerBetween_ne_lowerChars {u w : List Char} (hs : s = u ++ 'Σ' :: w)
    (h : endsWord (u.reverse ++ before) (w ++ after) ≠ endsWord u.reverse w) :
    lowerBetween before after s ≠ lowerChars s := by
  rw [lowerChars, lowerAfter_eq_lowerBetween]
  intro heq
  have hsame := lowerBetween_eq_iff.1 heq u w hs
  rw [List.append_nil, List.append_nil] at hsame
  exact h hsame

end Between

/-! ## What decides whether a word ends -/

/-- The nearest character that counts. -/
def nearest (s : List Char) : Option Char := s.find? fun c => !isCaseIgnorable c

theorem startsCased_eq (s : List Char) : startsCased s = (nearest s).any isCased := by
  induction s with
  | nil => rfl
  | cons c s ih =>
    cases hc : isCaseIgnorable c with
    | true =>
      rw [nearest, List.find?_cons_of_neg (by simp [hc]), ← nearest, ← ih, startsCased,
        List.dropWhile_cons_of_pos hc, startsCased]
    | false =>
      rw [nearest, List.find?_cons_of_pos (by simp [hc]), startsCased,
        List.dropWhile_cons_of_neg (by simp [hc]), Option.any_some]

theorem nearest_append (s t : List Char) : nearest (s ++ t) = (nearest s).or (nearest t) :=
  List.find?_append

/-- The characters around a capital sigma decide whether a word ends with it: an uncased character before it,
    a cased one after it, or any two that count. -/
def Settled (before after : List Char) : Prop :=
  (∃ c, nearest before = some c ∧ isCased c = false) ∨
    (∃ c, nearest after = some c ∧ isCased c = true) ∨
    (nearest before).isSome ∧ (nearest after).isSome

/-- What is settled does not change with what stands further away. -/
theorem Settled.endsWord_append {before after : List Char} (h : Settled before after)
    (a b : List Char) : endsWord (before ++ a) (after ++ b) = endsWord before after := by
  simp only [endsWord, startsCased_eq, nearest_append]
  rcases h with ⟨c, hc, huncased⟩ | ⟨c, hc, hcased⟩ | ⟨hbefore, hafter⟩
  · simp [hc, huncased]
  · simp [hc, hcased]
  · obtain ⟨c, hc⟩ := Option.isSome_iff_exists.1 hbefore
    obtain ⟨d, hd⟩ := Option.isSome_iff_exists.1 hafter
    rw [hc, hd, Option.some_or, Option.some_or]

/-- What is not settled changes with any cased character further away, on one of the sides. -/
theorem endsWord_append_ne_of_not_settled {before after : List Char} (h : ¬ Settled before after) :
    (∀ d, nearest [d] = some d → isCased d = true →
      endsWord (before ++ [d]) after ≠ endsWord before after) ∨
    (∀ d, nearest [d] = some d → isCased d = true →
      endsWord before (after ++ [d]) ≠ endsWord before after) := by
  simp only [Settled, not_or, not_exists, not_and] at h
  obtain ⟨hbefore, hafter, hone⟩ := h
  simp only [endsWord, startsCased_eq, nearest_append]
  cases hx : nearest before with
  | none =>
    left
    intro d hd hcased
    have hy : (nearest after).any isCased = false := by
      cases hy : nearest after with
      | none => rfl
      | some c => simpa using hafter c hy
    simp [hd, hcased, hy]
  | some c =>
    right
    intro d hd hcased
    have hc : isCased c = true := by simpa using hbefore c hx
    have hy : nearest after = none := by
      simpa only [hx, Option.isSome_some, true_implies, Bool.not_eq_true, Option.isSome_eq_false_iff,
        Option.isNone_iff_eq_none] using hone
    simp [hd, hcased, hc, hy]

/-! ## Texts found in lowercase -/

/-- Each capital sigma of a text has its form from the text alone, wherever the text stands. -/
def SigmasSettled (p : List Char) : Prop := ∀ u w, p = u ++ 'Σ' :: w → Settled u.reverse w

/-- `p` stands somewhere in `s`, and its capital sigmas have the forms there that they have in `p` by
    itself. -/
def StandsAlike (p s : List Char) : Prop :=
  ∃ a b, s = a ++ p ++ b ∧
    ∀ u w, p = u ++ 'Σ' :: w → endsWord (u.reverse ++ a.reverse) (w ++ b) = endsWord u.reverse w

section Found

variable {p q q' s : List Char} {d : Char}

theorem StandsAlike.occursIn_lowerChars (h : StandsAlike p s) :
    occursIn (lowerChars p) (lowerChars s) = true := by
  obtain ⟨a, b, rfl, hforms⟩ := h
  obtain ⟨x, y, hlower⟩ := lowerChars_append_append a p b
  have hplace : lowerBetween a.reverse b p = lowerBetween [] [] p :=
    lowerBetween_eq_iff.2 (by simpa only [List.append_nil] using hforms)
  exact occursIn_iff.2 ⟨x, y, by rw [hlower, hplace, lowerChars, lowerAfter_eq_lowerBetween]⟩

theorem SigmasSettled.standsAlike (h : SigmasSettled p) (hs : occursIn p s = true) : StandsAlike p s := by
  obtain ⟨a, b, rfl⟩ := occursIn_iff.1 hs
  exact ⟨a, b, rfl, fun u w hp => (h u w hp).endsWord_append a.reverse b⟩

/-- A text is not found in one of its length before which a character stands, unless they are equal or it
    starts with this character. -/
theorem occursIn_cons_eq_false (hlength : q'.length = q.length) (hne : q' ≠ q)
    (hd : q.head? ≠ some d) : occursIn q (d :: q') = false := by
  rw [Bool.eq_false_iff, Ne, occursIn_iff]
  rintro ⟨a, b, hsplit⟩
  have hlengths := congrArg List.length hsplit
  simp only [List.length_cons, List.length_append] at hlengths
  cases a with
  | nil =>
    cases q with
    | nil => exact hne (List.eq_nil_of_length_eq_zero hlength)
    | cons c q => exact hd (by simpa using (List.cons.inj hsplit).1.symm)
  | cons c a =>
    obtain ⟨rfl, rfl⟩ : a = [] ∧ b = [] := by
      simp only [List.length_cons] at hlengths
      exact ⟨List.eq_nil_of_length_eq_zero (by omega), List.eq_nil_of_length_eq_zero (by omega)⟩
    exact hne (by simpa using (List.cons.inj hsplit).2)

/-- The same for a character that stands behind. -/
theorem occursIn_concat_eq_false (hlength : q'.length = q.length) (hne : q' ≠ q)
    (hd : q.getLast? ≠ some d) : occursIn q (q' ++ [d]) = false := by
  rw [Bool.eq_false_iff, Ne, occursIn_iff]
  rintro ⟨a, b, hsplit⟩
  have hback : occursIn q.reverse (d :: q'.reverse) = true :=
    occursIn_iff.2 ⟨b.reverse, a.reverse, by simpa using congrArg List.reverse hsplit⟩
  rw [occursIn_cons_eq_false (by simpa using hlength) (by simpa using hne) (by simpa using hd)] at hback
  cases hback

/-- There is a cased letter other than a given character. -/
theorem exists_cased_ne (x : Option Char) :
    ∃ d, x ≠ some d ∧ d ≠ 'Σ' ∧ nearest [d] = some d ∧ isCased d = true ∧ lowerChar d = [d] := by
  by_cases hx : x = some 'a'
  · exact ⟨'b', by rw [hx]; decide, by decide +kernel⟩
  · exact ⟨'a', hx, by decide +kernel⟩

/-- A text with a sigma whose form is not settled is missed where a certain letter stands beside it. -/
theorem exists_missed_of_not_settled (h : ¬ SigmasSettled p) :
    ∃ s, occursIn p s = true ∧ occursIn (lowerChars p) (lowerChars s) = false := by
  simp only [SigmasSettled, Classical.not_forall] at h
  obtain ⟨u, w, hp, hunsettled⟩ := h
  have hlength : ∀ before after, (lowerBetween before after p).length = (lowerChars p).length := by
    intro before after
    rw [lowerChars, lowerAfter_eq_lowerBetween]
    exact length_lowerBetween before after [] [] p
  rcases endsWord_append_ne_of_not_settled hunsettled with hbefore | hafter
  · obtain ⟨d, hd, hsigma, hnearest, hcased, hself⟩ := exists_cased_ne (lowerChars p).head?
    have hwhole : lowerChars (d :: p) = d :: lowerBetween [d] [] p := by
      rw [lowerChars, lowerAfter, if_neg hsigma, hself, lowerAfter_eq_lowerBetween, List.singleton_append]
    have hne : lowerBetween [d] [] p ≠ lowerChars p := by
      apply lowerBetween_ne_lowerChars hp
      rw [List.append_nil]
      exact hbefore d hnearest hcased
    refine ⟨d :: p, occursIn_iff.2 ⟨[d], [], by simp⟩, ?_⟩
    rw [hwhole]
    exact occursIn_cons_eq_false (hlength [d] []) hne hd
  · obtain ⟨d, hd, hsigma, hnearest, hcased, hself⟩ := exists_cased_ne (lowerChars p).getLast?
    have hwhole : lowerChars (p ++ [d]) = lowerBetween [] [d] p ++ [d] := by
      rw [lowerChars, lowerAfter_append, lowerAfter, if_neg hsigma, hself, lowerAfter, List.append_nil]
    have hne : lowerBetween [] [d] p ≠ lowerChars p := by
      apply lowerBetween_ne_lowerChars hp
      rw [List.append_nil]
      exact hafter d hnearest hcased
    refine ⟨p ++ [d], occursIn_iff.2 ⟨[], [d], by simp⟩, ?_⟩
    rw [hwhole]
    exact occursIn_concat_eq_false (hlength [] [d]) hne hd

/-- A text is found in lowercase wherever it stands exactly if the forms of its sigmas are settled. -/
theorem occursIn_lowerChars_iff :
    (∀ s, occursIn p s = true → occursIn (lowerChars p) (lowerChars s) = true) ↔ SigmasSettled p := by
  constructor
  · intro hfound
    apply Classical.byContradiction
    intro hunsettled
    obtain ⟨s, hstands, hmissed⟩ := exists_missed_of_not_settled hunsettled
    rw [hfound s hstands] at hmissed
    cases hmissed
  · intro h s hstands
    exact (h.standsAlike hstands).occursIn_lowerChars

end Found

end Stocktake.Text
