/-!
# Blank characters and trimming

The characters with the Unicode property `White_Space`, and the removal of blanks at the ends of a
text.  Main statements: a trimmed text neither starts nor ends with a blank (`trimStart_head`,
`trimEnd_getLast`).
-/

namespace Stocktake.Text

/-- Characters with the property `White_Space`. -/
def isBlank (c : Char) : Bool :=
  let n := c.toNat
  (9 ≤ n && n ≤ 13) || n == 0x20 || n == 0x85 || n == 0xA0 || n == 0x1680 ||
    (0x2000 ≤ n && n ≤ 0x200A) || n == 0x2028 || n == 0x2029 || n == 0x202F || n == 0x205F ||
    n == 0x3000

/-- Drops the blanks at the start. -/
def trimStart (s : List Char) : List Char := s.dropWhile isBlank

/-- Drops the blanks at the end. -/
def trimEnd (s : List Char) : List Char := (s.reverse.dropWhile isBlank).reverse

/-- Drops the blanks at both ends. -/
def trimChars (s : List Char) : List Char := trimEnd (trimStart s)

/-- The text without the blanks at its ends. -/
def trim (s : String) : String := String.ofList (trimChars s.toList)

/-- The text without the blanks at its end. -/
def trimRight (s : String) : String := String.ofList (trimEnd s.toList)

/-- Nothing but blanks. -/
def isAllBlank (s : String) : Bool := s.toList.all isBlank

theorem dropWhile_head_false {p : Char → Bool} {s : List Char} {c : Char} {r : List Char}
    (h : s.dropWhile p = c :: r) : p c = false := by
  induction s with
  | nil => simp at h
  | cons d t ih =>
    by_cases hd : p d = true
    · simp only [List.dropWhile_cons, hd, if_true] at h
      exact ih h
    · simp only [List.dropWhile_cons, hd] at h
      simp at h
      obtain ⟨rfl, _⟩ := h
      simpa using hd

theorem trimStart_head {s : List Char} {c : Char} {r : List Char}
    (h : trimStart s = c :: r) : isBlank c = false :=
  dropWhile_head_false h

theorem trimEnd_getLast {s : List Char} {c : Char} {r : List Char}
    (h : trimEnd s = r ++ [c]) : isBlank c = false := by
  have h' : s.reverse.dropWhile isBlank = c :: r.reverse := by
    have := congrArg List.reverse h
    simpa [trimEnd] using this
  exact dropWhile_head_false h'

end Stocktake.Text
