import Stocktake.Proofs.Text.Cuts
import Stocktake.Proofs.Text.Replacing
import Stocktake.Proofs.Text.Segments

/-!
# Cutting at a separator that cannot overlap itself

A separator of which no start is also an end cannot reach out of a text that it does not occur in, whatever
is put behind it.  Such a separator therefore cuts a text in one way only, and cuts what was joined with it
where it was joined.  Lines that are each ended with a line feed are read back so.  Main statements:
`unbordered_singleton`, `isCut_splitOn` for any separator, `isCut_iff`, and `lines_ended`.
-/

namespace Stocktake.Text

/-- No start of the text is also an end of it, but for the empty one and the text itself. -/
def Unbordered (s : List Char) : Prop :=
  ∀ border, border <+: s → border <:+ s → border = [] ∨ border = s

/-- The pieces are what stands between the places of a separator in a text: none of them has the separator in
    it, and with the separator between them they make the text. -/
structure IsCut (sep s : List Char) (pieces : List (List Char)) : Prop where
  filled : pieces ≠ []
  free : ∀ p ∈ pieces, occursIn sep p = false
  joined : sep.intercalate pieces = s

variable {sep a b s : List Char}

theorem unbordered_iff : Unbordered s ↔ ∀ k < s.length, 0 < k → ¬ s.take k <:+ s := by
  constructor
  · intro h k hk hpositive hend
    have hlength : (s.take k).length = k := List.length_take_of_le (Nat.le_of_lt hk)
    have hstart : s.take k <+: s := List.take_prefix k s
    rcases h _ hstart hend with hnil | hwhole
    · rw [hnil, List.length_nil] at hlength
      omega
    · rw [hwhole] at hlength
      omega
  · intro h border hstart hend
    have htake : border = s.take border.length := List.prefix_iff_eq_take.1 hstart
    by_cases hnil : border = []
    · exact .inl hnil
    · refine .inr (hstart.eq_of_length_le (Nat.le_of_not_lt fun hlt => ?_))
      exact h border.length hlt (List.length_pos_iff.2 hnil) (htake ▸ hend)

instance (s : List Char) : Decidable (Unbordered s) := decidable_of_iff _ unbordered_iff.symm

theorem unbordered_singleton (c : Char) : Unbordered [c] := by
  refine unbordered_iff.2 fun k hk hpositive => ?_
  rw [List.length_singleton] at hk
  omega

section Occurrences

theorem occursIn_iff_isInfix {p : List Char} : occursIn p s = true ↔ p <:+: s := by
  rw [occursIn_iff]
  exact exists_congr fun a => exists_congr fun b => eq_comm

/-- What does not occur in a text does not occur in a part of it. -/
theorem occursIn_of_isInfix {p : List Char} (hpart : a <:+: s) (h : occursIn p s = false) :
    occursIn p a = false := by
  rw [Bool.eq_false_iff, Ne, occursIn_iff_isInfix] at h ⊢
  exact fun hp => h (hp.trans hpart)

/-- There is a cut if and only if the separator occurs. -/
theorem isSome_splitOnce? (sep s : List Char) : (splitOnce? sep s).isSome = occursIn sep s := by
  induction s with
  | nil =>
    by_cases hsep : sep = [] <;> simp [splitOnce?, occursIn, hsep]
  | cons c s ih =>
    cases hstart : stripStart? sep (c :: s) with
    | none => rw [splitOnce?_cons hstart, Option.isSome_map, ih, occursIn_cons hstart]
    | some r => rw [splitOnce?, occursIn, hstart, Option.isSome_some, Option.isSome_some, Bool.true_or]

/-- What comes before the first cut does not have the separator in it. -/
theorem occursIn_of_splitOnce? (hsep : sep ≠ []) (h : splitOnce? sep s = some (a, b)) :
    occursIn sep a = false := by
  induction s generalizing a with
  | nil =>
    rw [splitOnce?, if_neg hsep] at h
    cases h
  | cons c s ih =>
    cases hstart : stripStart? sep (c :: s) with
    | some r =>
      rw [splitOnce?, hstart] at h
      cases h
      exact decide_eq_false hsep
    | none =>
      have hwhole := splitOnce?_eq_some h
      rw [splitOnce?_cons hstart] at h
      obtain ⟨⟨a', b'⟩, hrest, hcut⟩ := Option.map_eq_some_iff.1 h
      obtain ⟨rfl, rfl⟩ := Prod.mk.inj hcut
      have hpassed : stripStart? sep (c :: a') = none := by
        cases hstrip : stripStart? sep (c :: a') with
        | none => rfl
        | some r =>
          -- The separator would have been found at the start of the whole text.
          rw [hwhole, stripStart?_eq_some.1 hstrip, List.append_assoc, List.append_assoc,
            stripStart?_append_self] at hstart
          cases hstart
      rw [occursIn_cons hpassed]
      exact ih hrest

end Occurrences

section Cuts

variable (hsep : sep ≠ [])
include hsep

theorem isCut_splitOn (s : List Char) : IsCut sep s (splitOn sep s) := by
  refine ⟨?_, ?_, join_splitOn hsep s⟩
  · rw [splitOn, dif_neg hsep]
    exact splitOnSep_ne_nil sep hsep s
  · rw [splitOn, dif_neg hsep]
    fun_induction splitOnSep sep hsep s with
    | case1 s hnone =>
      have hfree := isSome_splitOnce? sep s
      rw [hnone] at hfree
      simpa using hfree.symm
    | case2 s a b hcut ih =>
      intro p hp
      rcases List.mem_cons.1 hp with rfl | hp
      · exact occursIn_of_splitOnce? hsep hcut
      · exact ih p hp

variable (hborder : Unbordered sep)
include hborder

/-- The separator does not start in a text that is free of it and end in the separator behind. -/
theorem stripStart?_of_unbordered (ha : a ≠ []) (hfree : occursIn sep a = false) (b : List Char) :
    stripStart? sep (a ++ (sep ++ b)) = none := by
  have hinfix : ¬ sep <:+: a := by
    rw [← occursIn_iff_isInfix, hfree]
    exact Bool.false_ne_true
  cases hstrip : stripStart? sep (a ++ (sep ++ b)) with
  | none => rfl
  | some r =>
    rcases List.append_eq_append_iff.1 (stripStart?_eq_some.1 hstrip) with
      ⟨border, hwhole, hbehind⟩ | ⟨rest, ha', -⟩
    · have hend : border <:+ sep := ⟨a, hwhole.symm⟩
      have hstart : border <+: sep :=
        List.prefix_of_prefix_length_le ⟨r, hbehind.symm⟩ (List.prefix_append sep b) hend.length_le
      rcases hborder border hstart hend with rfl | rfl
      · rw [List.append_nil] at hwhole
        exact absurd (hwhole ▸ List.infix_refl _) hinfix
      · exact absurd (List.append_left_eq_self.1 hwhole.symm) ha
    · exact absurd ⟨[], rest, ha'.symm⟩ hinfix

theorem splitOnce?_of_unbordered (hfree : occursIn sep a = false) (b : List Char) :
    splitOnce? sep (a ++ (sep ++ b)) = some (a, b) := by
  induction a with
  | nil => exact splitOnce?_of_stripStart? hsep (stripStart?_append_self sep b)
  | cons c a ih =>
    have hpassed := stripStart?_of_unbordered hsep hborder (List.cons_ne_nil c a) hfree b
    have hrest : occursIn sep a = false := occursIn_of_isInfix (List.suffix_cons c a).isInfix hfree
    rw [List.cons_append] at hpassed ⊢
    rw [splitOnce?_cons hpassed, ih hrest, Option.map_some]

/-- A text is cut in one way only. -/
theorem isCut_iff {pieces : List (List Char)} : IsCut sep s pieces ↔ splitOn sep s = pieces := by
  constructor
  · rintro ⟨hfilled, hfree, rfl⟩
    rw [splitOn, dif_neg hsep]
    induction pieces with
    | nil => exact absurd rfl hfilled
    | cons p pieces ih =>
      have hp := hfree p List.mem_cons_self
      cases pieces with
      | nil =>
        have hnone : splitOnce? sep p = none := by
          rw [← Option.isNone_iff_eq_none, ← Option.isSome_eq_false_iff, isSome_splitOnce?, hp]
        rw [List.intercalate_singleton, splitOnSep, hnone]
      | cons p' pieces =>
        have hne := List.cons_ne_nil p' pieces
        have hcut := splitOnce?_of_unbordered hsep hborder hp (sep.intercalate (p' :: pieces))
        rw [List.intercalate_cons_of_ne_nil hne, List.append_assoc, splitOnSep, hcut]
        simp only [ih hne fun q hq => hfree q (List.mem_cons_of_mem p hq)]
  · rintro rfl
    exact isCut_splitOn hsep s

end Cuts

/-- Cutting at a single character is cutting the list of the characters. -/
theorem splitOn_singleton (c : Char) (s : List Char) : splitOn [c] s = s.splitOn c := by
  have hfree : ∀ p ∈ splitOn [c] s, c ∉ p := fun _ hp => not_mem_of_mem_splitAtChar hp
  have hcut := isCut_splitOn (List.cons_ne_nil c []) s
  calc splitOn [c] s
      = ([c].intercalate (splitOn [c] s)).splitOn c := (List.splitOn_intercalate c hfree hcut.filled).symm
    _ = s.splitOn c := by rw [hcut.joined]

/-! ## Lines -/

theorem intercalate_ended (c : Char) (ls : List (List Char)) :
    [c].intercalate (ls ++ [[]]) = ls.flatMap (· ++ [c]) := by
  induction ls with
  | nil => rfl
  | cons l ls ih =>
    rw [List.cons_append, List.intercalate_cons_of_ne_nil (by simp), ih, List.flatMap_cons]

theorem splitOn_ended {c : Char} {ls : List (List Char)} (h : ∀ l ∈ ls, c ∉ l) :
    (ls.flatMap (· ++ [c])).splitOn c = ls ++ [[]] := by
  have hfree : ∀ l ∈ ls ++ [[]], c ∉ l := by
    intro l hl
    rcases List.mem_append.1 hl with hl | hl
    · exact h l hl
    · rw [List.mem_singleton.1 hl]
      exact List.not_mem_nil
  rw [← intercalate_ended, List.splitOn_intercalate c hfree (by simp)]

theorem toList_join_ended (ls : List String) :
    (String.join (ls.map (· ++ "\n"))).toList = (ls.map String.toList).flatMap (· ++ ['\n']) := by
  rw [String.toList_join, List.flatMap_map, List.flatMap_map]
  exact congrArg (ls.flatMap ·) (funext fun l => String.toList_append)

/-- Different lists of lines without line feeds are different texts. -/
theorem join_ended_inj {ls ls' : List String} (hfeed : ∀ l ∈ ls, '\n' ∉ l.toList)
    (hfeed' : ∀ l ∈ ls', '\n' ∉ l.toList) :
    String.join (ls.map (· ++ "\n")) = String.join (ls'.map (· ++ "\n")) ↔ ls = ls' := by
  constructor
  · intro h
    have hsplit := congrArg (fun text => text.toList.splitOn '\n') h
    have hfree : ∀ l ∈ ls.map String.toList, '\n' ∉ l := by simpa using hfeed
    have hfree' : ∀ l ∈ ls'.map String.toList, '\n' ∉ l := by simpa using hfeed'
    simp only [toList_join_ended, splitOn_ended hfree, splitOn_ended hfree'] at hsplit
    exact (List.map_inj_right fun _ _ => String.toList_inj.1).1 (List.append_cancel_right hsplit)
  · rintro rfl
    rfl

/-- Lines that are ended with line feeds are read back, unless they have a line feed in them or a carriage
    return at the end. -/
theorem lines_ended {ls : List String} (hfeed : ∀ l ∈ ls, '\n' ∉ l.toList)
    (hreturn : ∀ l ∈ ls, l.toList.getLast? ≠ some '\r') :
    lines (String.join (ls.map (· ++ "\n"))) = ls := by
  have hfree : ∀ l ∈ ls.map String.toList, '\n' ∉ l := by simpa using hfeed
  have hkept : (ls.map String.toList).map dropCarriageReturn = ls.map String.toList := by
    rw [List.map_map]
    refine List.map_congr_left fun l hl => ?_
    rw [Function.comp_apply, dropCarriageReturn, if_neg (hreturn l hl)]
  rw [lines, toList_join_ended, lineList, splitAtChar, splitOn_singleton, splitOn_ended hfree]
  simp only [List.getLast?_concat, List.dropLast_concat, hkept]
  rw [List.map_map]
  exact (List.map_congr_left fun l _ => String.ofList_toList).trans (List.map_id ls)

end Stocktake.Text
