import Mathlib.Tactic.SplitIfs
import Stocktake.Text.Quoted

/-!
# Where a quoted text ends

A quoted text can be told from what stands behind it: two that are followed by whatever make the same
characters only if they are the same text, with the same behind them.  Main statement:
`quoted_append_inj`.
-/

namespace Stocktake.Text

/-- What stands before a mark that is not in it can be told from what stands behind the mark. -/
theorem append_mark_inj {α : Type} {mark : α} {xs ys r s : List α} (hx : mark ∉ xs) (hy : mark ∉ ys)
    (h : xs ++ mark :: r = ys ++ mark :: s) : xs = ys ∧ r = s := by
  induction xs generalizing ys with
  | nil =>
    cases ys with
    | nil => exact ⟨rfl, (List.cons.inj h).2⟩
    | cons y ys =>
      rw [List.nil_append, List.cons_append, List.cons.injEq] at h
      exact absurd (List.mem_cons.2 (.inl h.1)) hy
  | cons x xs ih =>
    cases ys with
    | nil =>
      rw [List.nil_append, List.cons_append, List.cons.injEq] at h
      exact absurd (List.mem_cons.2 (.inl h.1.symm)) hx
    | cons y ys =>
      rw [List.cons_append, List.cons_append, List.cons.injEq] at h
      obtain ⟨rfl, hrest⟩ := h
      obtain ⟨rfl, hbehind⟩ :=
        ih (List.not_mem_of_not_mem_cons hx) (List.not_mem_of_not_mem_cons hy) hrest
      exact ⟨rfl, hbehind⟩

section Hexadecimal

theorem digitChar_inj {m n : Nat} (hm : m < 16) (hn : n < 16) (h : m.digitChar = n.digitChar) :
    m = n := by
  have hall : ∀ a b : Fin 16, a.val.digitChar = b.val.digitChar → a = b := by decide
  exact Fin.mk.inj (hall ⟨m, hm⟩ ⟨n, hn⟩ h)

theorem hexDigits_of_lt {n : Nat} (h : n < 16) : hexDigits n = [n.digitChar] :=
  Nat.toDigits_of_lt_base h

theorem hexDigits_of_le {n : Nat} (h : 16 ≤ n) :
    hexDigits n = hexDigits (n / 16) ++ [(n % 16).digitChar] :=
  Nat.toDigits_of_base_le (by decide) h

theorem hexDigits_ne_nil (n : Nat) : hexDigits n ≠ [] := Nat.toDigits_ne_nil

/-- Only the digits of a number are the digits of that number. -/
theorem hexDigits_inj (m n : Nat) (h : hexDigits m = hexDigits n) : m = n := by
  induction m using Nat.strongRecOn generalizing n with
  | ind m ih =>
    by_cases hm : m < 16
    · by_cases hn : n < 16
      · rw [hexDigits_of_lt hm, hexDigits_of_lt hn, List.cons.injEq] at h
        exact digitChar_inj hm hn h.1
      · -- The longer number has more than one digit.
        rw [hexDigits_of_lt hm, hexDigits_of_le (Nat.not_lt.1 hn), List.singleton_eq_append_iff] at h
        simp [hexDigits_ne_nil] at h
    · by_cases hn : n < 16
      · rw [hexDigits_of_lt hn, hexDigits_of_le (Nat.not_lt.1 hm), List.append_eq_singleton_iff] at h
        simp [hexDigits_ne_nil] at h
      · rw [hexDigits_of_le (Nat.not_lt.1 hm), hexDigits_of_le (Nat.not_lt.1 hn)] at h
        obtain ⟨hfront, hlast⟩ := List.append_inj' h rfl
        have hquotient := ih (m / 16) (by omega) (n / 16) hfront
        have hremainder := digitChar_inj (Nat.mod_lt m (by decide)) (Nat.mod_lt n (by decide))
          (List.cons.inj hlast).1
        omega

theorem brace_not_mem_hexDigits (n : Nat) : '\x7d' ∉ hexDigits n := by
  have hdigit : ∀ d : Fin 16, '\x7d' ≠ d.val.digitChar := by decide
  induction n using Nat.strongRecOn with
  | ind n ih =>
    by_cases hn : n < 16
    · rw [hexDigits_of_lt hn, List.mem_singleton]
      exact hdigit ⟨n, hn⟩
    · rw [hexDigits_of_le (Nat.not_lt.1 hn), List.mem_append, List.mem_singleton, not_or]
      exact ⟨ih (n / 16) (by omega), hdigit ⟨n % 16, Nat.mod_lt n (by decide)⟩⟩

end Hexadecimal

/-- The character that a letter behind a backslash stands for. -/
def named? (letter : Char) : Option Char :=
  if letter = '0' then some (Char.ofNat 0)
  else if letter = 't' then some '\t'
  else if letter = 'n' then some '\n'
  else if letter = 'r' then some '\r'
  else if letter = '"' then some '"'
  else if letter = '\\' then some '\\'
  else none

/-- How a character is quoted: by a name, by its number, or as it stands. -/
theorem quoteChar_cases (c : Char) :
    (∃ letter, named? letter = some c ∧ quoteChar c = ['\\', letter]) ∨
    quoteChar c = '\\' :: 'u' :: '\x7b' :: (hexDigits c.toNat ++ ['\x7d']) ∨
    (c ≠ '"' ∧ c ≠ '\\' ∧ quoteChar c = [c]) := by
  unfold quoteChar
  split_ifs with hnull htab hline hreturn hquote hslash hshapeless
  · exact .inl ⟨'0', by rw [hnull]; rfl, rfl⟩
  · exact .inl ⟨'t', by rw [htab]; rfl, rfl⟩
  · exact .inl ⟨'n', by rw [hline]; rfl, rfl⟩
  · exact .inl ⟨'r', by rw [hreturn]; rfl, rfl⟩
  · exact .inl ⟨'"', by rw [hquote]; rfl, rfl⟩
  · exact .inl ⟨'\\', by rw [hslash]; rfl, rfl⟩
  · exact .inr (.inl rfl)
  · exact .inr (.inr ⟨hquote, hslash, rfl⟩)

theorem quoteChar_append_ne_quote (c : Char) (r s : List Char) : quoteChar c ++ r ≠ '"' :: s := by
  intro h
  obtain ⟨letter, -, hc⟩ | hc | ⟨hquote, -, hc⟩ := quoteChar_cases c
  · rw [hc] at h
    cases h
  · rw [hc] at h
    cases h
  · rw [hc, List.singleton_append, List.cons.injEq] at h
    exact hquote h.1

/-- A quoted character can be told from what stands behind it. -/
theorem quoteChar_append_inj {c d : Char} {r s : List Char} (h : quoteChar c ++ r = quoteChar d ++ s) :
    c = d ∧ r = s := by
  have hletter : named? 'u' = none := rfl
  obtain ⟨letter, hname, hc⟩ | hc | ⟨-, hslash, hc⟩ := quoteChar_cases c
  · obtain ⟨letter', hname', hd⟩ | hd | ⟨-, hslash', hd⟩ := quoteChar_cases d
    · simp only [hc, hd, List.cons_append, List.nil_append, List.cons.injEq, true_and] at h
      obtain ⟨rfl, hrest⟩ := h
      exact ⟨Option.some.inj (hname.symm.trans hname'), hrest⟩
    · simp only [hc, hd, List.cons_append, List.nil_append, List.cons.injEq, true_and] at h
      rw [h.1, hletter] at hname
      cases hname
    · simp only [hc, hd, List.cons_append, List.nil_append, List.cons.injEq] at h
      exact absurd h.1.symm hslash'
  · obtain ⟨letter', hname', hd⟩ | hd | ⟨-, hslash', hd⟩ := quoteChar_cases d
    · simp only [hc, hd, List.cons_append, List.nil_append, List.cons.injEq, true_and] at h
      rw [← h.1, hletter] at hname'
      cases hname'
    · simp only [hc, hd, List.cons_append, List.append_assoc, List.nil_append, List.cons.injEq,
        true_and] at h
      -- No digit is the brace behind the digits.
      obtain ⟨hdigits, hbehind⟩ := append_mark_inj (brace_not_mem_hexDigits c.toNat)
        (brace_not_mem_hexDigits d.toNat) h
      exact ⟨Char.toNat_inj.1 (hexDigits_inj _ _ hdigits), hbehind⟩
    · simp only [hc, hd, List.cons_append, List.nil_append, List.cons.injEq] at h
      exact absurd h.1.symm hslash'
  · obtain ⟨letter', hname', hd⟩ | hd | ⟨-, hslash', hd⟩ := quoteChar_cases d
    · simp only [hc, hd, List.cons_append, List.nil_append, List.cons.injEq] at h
      exact absurd h.1 hslash
    · simp only [hc, hd, List.cons_append, List.nil_append, List.cons.injEq] at h
      exact absurd h.1 hslash
    · simpa only [hc, hd, List.cons_append, List.nil_append, List.cons.injEq] using h

/-- Quoted characters can be told from each other and from what stands behind the closing quote. -/
theorem flatMap_quoteChar_append_inj {cs ds r s : List Char}
    (h : cs.flatMap quoteChar ++ '"' :: r = ds.flatMap quoteChar ++ '"' :: s) : cs = ds ∧ r = s := by
  induction cs generalizing ds with
  | nil =>
    cases ds with
    | nil => exact ⟨rfl, (List.cons.inj h).2⟩
    | cons d ds =>
      rw [List.flatMap_cons, List.append_assoc] at h
      exact absurd h.symm (quoteChar_append_ne_quote d _ r)
  | cons c cs ih =>
    cases ds with
    | nil =>
      rw [List.flatMap_cons, List.append_assoc] at h
      exact absurd h (quoteChar_append_ne_quote c _ s)
    | cons d ds =>
      rw [List.flatMap_cons, List.flatMap_cons, List.append_assoc, List.append_assoc] at h
      obtain ⟨rfl, hrest⟩ := quoteChar_append_inj h
      obtain ⟨rfl, hbehind⟩ := ih hrest
      exact ⟨rfl, hbehind⟩

/-- A quoted text can be told from what stands behind it. -/
theorem quoted_append_inj {s t : String} {r r' : List Char}
    (h : (quoted s).toList ++ r = (quoted t).toList ++ r') : s = t ∧ r = r' := by
  simp only [quoted, String.toList_ofList, List.cons_append, List.append_assoc, List.nil_append,
    List.cons.injEq, true_and] at h
  obtain ⟨hchars, hbehind⟩ := flatMap_quoteChar_append_inj h
  exact ⟨String.toList_inj.1 hchars, hbehind⟩

end Stocktake.Text
