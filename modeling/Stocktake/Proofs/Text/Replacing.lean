import Stocktake.Text.Split

/-!
# Replacing parts of texts

`replaceAll` cuts a text at the occurrences of one text and puts another one between the pieces.  Read from
left to right it either replaces what stands at a place or leaves the character there; with these steps at
hand (`replaceAll_append`, `replaceAll_cons`) no proof below looks at the pieces.  Main statements:
`replaceAll_singleton`, for a single character, and `replaceAll_of_not_occursIn` with
`append_ne_replaceAll_append`, where a text stays as it is and where it does not.
-/

namespace Stocktake.Text

section Starts

theorem stripStart?_append_self (p s : List Char) : stripStart? p (p ++ s) = some s :=
  stripStart?_eq_some.2 rfl

theorem stripStart?_of_ne {c d : Char} {p s : List Char} (h : c ≠ d) :
    stripStart? (c :: p) (d :: s) = none := by
  rw [stripStart?, if_neg h]

/-- A start without a character ends before that character. -/
theorem stripStart?_append_of_not_mem {p : List Char} {c : Char} (h : c ∉ p) (s t : List Char) :
    stripStart? p (s ++ c :: t) = (stripStart? p s).map (· ++ c :: t) := by
  induction p generalizing s with
  | nil => rfl
  | cons d p ih =>
    have hhead : c ≠ d := List.ne_of_not_mem_cons h
    have hrest : c ∉ p := List.not_mem_of_not_mem_cons h
    cases s with
    | nil =>
      rw [List.nil_append, stripStart?_of_ne (Ne.symm hhead)]
      rfl
    | cons e s =>
      rw [List.cons_append, stripStart?, stripStart?]
      split
      · exact ih hrest s
      · rfl

theorem stripStart?_of_not_mem {p : List Char} (hp : p ≠ []) {c : Char} (h : c ∉ p) (s : List Char) :
    stripStart? p (c :: s) = none := by
  obtain ⟨d, p, rfl⟩ := List.exists_cons_of_ne_nil hp
  exact stripStart?_of_ne (Ne.symm (List.ne_of_not_mem_cons h))

theorem occursIn_cons {p : List Char} {c : Char} {s : List Char} (h : stripStart? p (c :: s) = none) :
    occursIn p (c :: s) = occursIn p s := by
  rw [occursIn, h, Option.isSome_none, Bool.false_or]

/-- A text without a character occurs on one side of that character. -/
theorem occursIn_append_of_not_mem {p : List Char} (hp : p ≠ []) {c : Char} (h : c ∉ p)
    (s t : List Char) : occursIn p (s ++ c :: t) = (occursIn p s || occursIn p t) := by
  induction s with
  | nil =>
    rw [List.nil_append, occursIn_cons (stripStart?_of_not_mem hp h t), occursIn, decide_eq_false hp,
      Bool.false_or]
  | cons d s ih =>
    have hstart : stripStart? p (d :: (s ++ c :: t)) = (stripStart? p (d :: s)).map (· ++ c :: t) :=
      stripStart?_append_of_not_mem h (d :: s) t
    rw [List.cons_append, occursIn, hstart, Option.isSome_map, ih, occursIn, Bool.or_assoc]

end Starts

section Steps

variable {old : List Char} (hold : old ≠ [])
include hold

/-- Induction along a search from left to right: what is found is passed over as a whole. -/
@[elab_as_elim]
theorem searchInduction {motive : List Char → Prop} (nil : motive [])
    (found : ∀ s, motive s → motive (old ++ s))
    (passed : ∀ c s, stripStart? old (c :: s) = none → motive s → motive (c :: s)) (s : List Char) :
    motive s := by
  induction hn : s.length using Nat.strongRecOn generalizing s with
  | ind n ih =>
    cases s with
    | nil => exact nil
    | cons c rest =>
      cases hstart : stripStart? old (c :: rest) with
      | none =>
        have hshorter : rest.length < n := hn ▸ Nat.lt_succ_self rest.length
        exact passed c rest hstart (ih rest.length hshorter rest rfl)
      | some after =>
        have hsplit := stripStart?_eq_some.1 hstart
        have hshorter : after.length < n := by
          have hpositive := List.length_pos_iff.2 hold
          rw [← hn, hsplit, List.length_append]
          omega
        rw [hsplit]
        exact found after (ih after.length hshorter after rfl)

variable (new : List Char)

theorem replaceAll_nil : replaceAll old new [] = [] := by
  rw [replaceAll, splitOn, dif_neg hold, splitOnSep, splitOnce?, if_neg hold, List.intercalate_singleton]

/-- What is found is replaced. -/
theorem replaceAll_append (s : List Char) : replaceAll old new (old ++ s) = new ++ replaceAll old new s := by
  have hcut : splitOnce? old (old ++ s) = some ([], s) := by
    obtain ⟨c, p, rfl⟩ := List.exists_cons_of_ne_nil hold
    rw [List.cons_append, splitOnce?, ← List.cons_append, stripStart?_append_self]
  simp only [replaceAll, splitOn, dif_neg hold]
  rw [splitOnSep, hcut, List.intercalate_cons_of_ne_nil (splitOnSep_ne_nil old hold s), List.nil_append]

/-- A character at which nothing is found stays. -/
theorem replaceAll_cons {c : Char} {s : List Char} (h : stripStart? old (c :: s) = none) :
    replaceAll old new (c :: s) = c :: replaceAll old new s := by
  simp only [replaceAll, splitOn, dif_neg hold]
  cases hrest : splitOnce? old s with
  | none =>
    have hcut : splitOnce? old (c :: s) = none := by rw [splitOnce?, h, hrest, Option.map_none]
    rw [splitOnSep, hcut, splitOnSep, hrest, List.intercalate_singleton, List.intercalate_singleton]
  | some cut =>
    obtain ⟨a, b⟩ := cut
    have hcut : splitOnce? old (c :: s) = some (c :: a, b) := by rw [splitOnce?, h, hrest, Option.map_some]
    have hne := splitOnSep_ne_nil old hold b
    rw [splitOnSep, hcut, splitOnSep, hrest, List.intercalate_cons_of_ne_nil hne,
      List.intercalate_cons_of_ne_nil hne, List.cons_append, List.cons_append]

/-- Both sides of a character that is not in what is replaced are replaced by themselves. -/
theorem replaceAll_append_of_not_mem {c : Char} (h : c ∉ old) (s t : List Char) :
    replaceAll old new (s ++ c :: t) = replaceAll old new s ++ c :: replaceAll old new t := by
  induction s using searchInduction hold with
  | nil =>
    rw [List.nil_append, replaceAll_cons hold new (stripStart?_of_not_mem hold h t), replaceAll_nil hold,
      List.nil_append]
  | found s ih =>
    rw [List.append_assoc, replaceAll_append hold, ih, replaceAll_append hold, List.append_assoc]
  | passed d s hstart ih =>
    have hlonger : stripStart? old (d :: (s ++ c :: t)) = none := by
      rw [← List.cons_append, stripStart?_append_of_not_mem h, hstart]
      rfl
    rw [List.cons_append, replaceAll_cons hold new hlonger, ih, replaceAll_cons hold new hstart]
    rfl

theorem replaceAll_of_not_occursIn {s : List Char} (h : occursIn old s = false) :
    replaceAll old new s = s := by
  induction s with
  | nil => exact replaceAll_nil hold new
  | cons c s ih =>
    rw [occursIn, Bool.or_eq_false_iff, Option.isSome_eq_false_iff, Option.isNone_iff_eq_none] at h
    rw [replaceAll_cons hold new h.1, ih h.2]

/-- A start that has no character of the replacement's first kind was there before. -/
theorem stripStart?_of_replaceAll {d : Char} {p : List Char} (h : d ∉ p) {s : List Char}
    (hstart : stripStart? p s = none) : stripStart? p (replaceAll old (d :: new) s) = none := by
  induction s using searchInduction hold generalizing p with
  | nil =>
    rw [replaceAll_nil hold]
    exact hstart
  | found s _ =>
    have hp : p ≠ [] := by
      rintro rfl
      cases hstart
    rw [replaceAll_append hold]
    exact stripStart?_of_not_mem hp h _
  | passed c s hpassed ih =>
    rw [replaceAll_cons hold _ hpassed]
    cases p with
    | nil => cases hstart
    | cons e p =>
      rw [stripStart?] at hstart ⊢
      split
      · rename_i heq
        rw [if_pos heq] at hstart
        exact ih (List.not_mem_of_not_mem_cons h) hstart
      · rfl

end Steps

/-- Where something is replaced by what starts otherwise, the text is another one, and stays so whatever
    follows. -/
theorem append_ne_replaceAll_append {c d : Char} (h : c ≠ d) (p new : List Char) {s : List Char}
    (hs : occursIn (c :: p) s = true) (t t' : List Char) :
    s ++ t ≠ replaceAll (c :: p) (d :: new) s ++ t' := by
  have hold := List.cons_ne_nil c p
  induction s using searchInduction hold with
  | nil =>
    rw [occursIn, decide_eq_false hold] at hs
    cases hs
  | found s _ =>
    rw [replaceAll_append hold]
    exact fun heq => h (List.head_eq_of_cons_eq heq)
  | passed e s hstart ih =>
    rw [occursIn_cons hstart] at hs
    rw [replaceAll_cons hold _ hstart]
    exact fun heq => ih hs (List.tail_eq_of_cons_eq heq)

/-- A single character is replaced wherever it stands. -/
theorem replaceAll_singleton (c : Char) (new s : List Char) :
    replaceAll [c] new s = s.flatMap fun d => if d = c then new else [d] := by
  have hold := List.cons_ne_nil c []
  induction s with
  | nil => exact replaceAll_nil hold new
  | cons d s ih =>
    rw [List.flatMap_cons, ← ih]
    by_cases h : d = c
    · subst h
      rw [if_pos rfl]
      exact replaceAll_append hold new s
    · rw [if_neg h, replaceAll_cons hold new (stripStart?_of_ne (Ne.symm h))]
      rfl

end Stocktake.Text
