/-!
# Cutting texts apart and replacing parts of them

All functions work on lists of characters; the ones on `String` below them only convert.  A search
finds occurrences from left to right and never overlapping ones.  Main statement: cutting at a
separator and putting the pieces together again with it gives the text back (`join_splitOn`).
-/

namespace Stocktake.Text

/-- The rest of `s` after the start `p`, if `s` starts with `p`. -/
def stripStart? : List Char → List Char → Option (List Char)
  | [], s => some s
  | _ :: _, [] => none
  | c :: p, d :: s => if c = d then stripStart? p s else none

theorem stripStart?_eq_some {p s r : List Char} : stripStart? p s = some r ↔ s = p ++ r := by
  induction p generalizing s with
  | nil => simp [stripStart?, eq_comm]
  | cons c p ih =>
    cases s with
    | nil => simp [stripStart?]
    | cons d s =>
      by_cases h : c = d
      · subst h; simp [stripStart?, ih]
      · simp [stripStart?, h]
        intro hd
        exact absurd hd.symm h

/-- Cuts `s` at the first place where `sep` stands. -/
def splitOnce? (sep : List Char) : List Char → Option (List Char × List Char)
  | [] => if sep = [] then some ([], []) else none
  | c :: s =>
    match stripStart? sep (c :: s) with
    | some r => some ([], r)
    | none => (splitOnce? sep s).map fun (a, b) => (c :: a, b)

/-- Whether `p` occurs somewhere in `s`. -/
def occursIn (p : List Char) : List Char → Bool
  | [] => p = []
  | c :: s => (stripStart? p (c :: s)).isSome || occursIn p s

theorem occursIn_iff {p s : List Char} : occursIn p s = true ↔ ∃ a b, s = a ++ p ++ b := by
  induction s with
  | nil =>
    simp only [occursIn, decide_eq_true_eq]
    constructor
    · rintro rfl; exact ⟨[], [], rfl⟩
    · rintro ⟨a, b, h⟩
      simp at h
      exact h.2.1
  | cons c s ih =>
    simp only [occursIn, Bool.or_eq_true, ih]
    constructor
    · rintro (h | ⟨a, b, rfl⟩)
      · obtain ⟨r, hr⟩ := Option.isSome_iff_exists.1 h
        exact ⟨[], r, by simpa using stripStart?_eq_some.1 hr⟩
      · exact ⟨c :: a, b, by simp⟩
    · rintro ⟨a, b, h⟩
      cases a with
      | nil =>
        left
        have : stripStart? p (c :: s) = some b := stripStart?_eq_some.2 (by simpa using h)
        simp [this]
      | cons d a =>
        right
        simp at h
        exact ⟨a, b, by simpa using h.2⟩

theorem splitOnce?_length {sep s a b : List Char} (hs : sep ≠ [])
    (h : splitOnce? sep s = some (a, b)) : b.length < s.length := by
  induction s generalizing a with
  | nil => simp [splitOnce?, hs] at h
  | cons c s ih =>
    rw [splitOnce?] at h
    split at h
    · rename_i r hr
      simp at h
      obtain ⟨rfl, rfl⟩ := h
      have := stripStart?_eq_some.1 hr
      have hl : 0 < sep.length := List.length_pos_iff.2 hs
      rw [this]
      simp
      omega
    · simp only [Option.map_eq_some_iff, Prod.mk.injEq, Prod.exists] at h
      obtain ⟨a', b', h', _, rfl⟩ := h
      have := ih h'
      simp
      omega

/-- Splits `s` at every occurrence of the non-empty separator `sep`. -/
def splitOnSep (sep : List Char) (hs : sep ≠ []) (s : List Char) : List (List Char) :=
  match _h : splitOnce? sep s with
  | none => [s]
  | some (a, b) => a :: splitOnSep sep hs b
termination_by s.length
decreasing_by exact splitOnce?_length hs _h

/-- Splits `s` at every occurrence of `sep`.  The empty separator stands before every character and
    at the end, so that it cuts off an empty piece at both ends and every character by itself. -/
def splitOn (sep s : List Char) : List (List Char) :=
  if h : sep = [] then [] :: (s.map fun c => [c]) ++ [[]] else splitOnSep sep h s

/-- Replaces every occurrence of the non-empty `old` in `s` by `new`. -/
def replaceAll (old new s : List Char) : List Char :=
  new.intercalate (splitOn old s)

theorem splitOnce?_eq_some {sep s a b : List Char} (h : splitOnce? sep s = some (a, b)) :
    s = a ++ sep ++ b := by
  induction s generalizing a with
  | nil =>
    simp [splitOnce?] at h
    obtain ⟨rfl, rfl, rfl⟩ := h
    rfl
  | cons c s ih =>
    rw [splitOnce?] at h
    split at h
    · rename_i r hr
      simp at h
      obtain ⟨rfl, rfl⟩ := h
      simpa using stripStart?_eq_some.1 hr
    · simp only [Option.map_eq_some_iff, Prod.mk.injEq, Prod.exists] at h
      obtain ⟨a', b', h', rfl, rfl⟩ := h
      simp [ih h']

/-- Nothing is cut off where the first character of the separator does not stand. -/
theorem splitOnce?_of_not_mem {c : Char} {sep s : List Char} (h : c ∉ s) :
    splitOnce? (c :: sep) s = none := by
  induction s with
  | nil => rfl
  | cons d s ih =>
    have hne : c ≠ d := fun heq => h (heq ▸ List.mem_cons_self)
    have hrest : c ∉ s := fun hmem => h (List.mem_cons_of_mem d hmem)
    have hstart : stripStart? (c :: sep) (d :: s) = none := by simp [stripStart?, hne]
    simp only [splitOnce?, hstart, ih hrest, Option.map_none]

/-- A separator cuts where its first character stands first. -/
theorem splitOnce?_append_append {c : Char} {sep a : List Char} (h : c ∉ a) (b : List Char) :
    splitOnce? (c :: sep) (a ++ (c :: sep ++ b)) = some (a, b) := by
  induction a with
  | nil =>
    have hstart : stripStart? (c :: sep) (c :: (sep ++ b)) = some b := stripStart?_eq_some.2 rfl
    simp only [List.nil_append, List.cons_append, splitOnce?, hstart]
  | cons d a ih =>
    have hne : c ≠ d := fun heq => h (heq ▸ List.mem_cons_self)
    have hrest : c ∉ a := fun hmem => h (List.mem_cons_of_mem d hmem)
    have hstart : stripStart? (c :: sep) (d :: (a ++ (c :: sep ++ b))) = none := by
      simp [stripStart?, hne]
    rw [List.cons_append, splitOnce?, hstart]
    simp only [ih hrest, Option.map_some]

/-- A separating character cuts where it stands first. -/
theorem splitOnce?_append {c : Char} {a : List Char} (h : c ∉ a) (b : List Char) :
    splitOnce? [c] (a ++ c :: b) = some (a, b) := splitOnce?_append_append h b

theorem splitOnSep_ne_nil (sep : List Char) (hs : sep ≠ []) (s : List Char) :
    splitOnSep sep hs s ≠ [] := by
  rw [splitOnSep]
  split <;> simp

theorem join_splitOnSep (sep : List Char) (hs : sep ≠ []) (s : List Char) :
    sep.intercalate (splitOnSep sep hs s) = s := by
  fun_induction splitOnSep sep hs s with
  | case1 s h => simp [List.intercalate]
  | case2 s a b h ih =>
    have := splitOnce?_eq_some h
    have hn := splitOnSep_ne_nil sep hs b
    cases hb : splitOnSep sep hs b with
    | nil => exact absurd hb hn
    | cons x xs =>
      rw [hb] at ih
      have hj : sep.intercalate (a :: x :: xs) = a ++ sep ++ sep.intercalate (x :: xs) := by
        simp [List.intercalate]
      rw [hj, ih, this]

theorem join_splitOn {sep : List Char} (hs : sep ≠ []) (s : List Char) :
    sep.intercalate (splitOn sep s) = s := by
  simp [splitOn, hs, join_splitOnSep]

/-- The last segment after the characters that `isCut` picks. -/
def afterLast (isCut : Char → Bool) (s : List Char) : List Char :=
  (s.reverse.takeWhile fun c => !isCut c).reverse

/-- The pieces between the characters that are `cut`. -/
def splitAtChar (cut : Char) (s : List Char) : List (List Char) := splitOn [cut] s

/-- The non-empty parts of a path between its slashes. -/
def segments (path : String) : List String :=
  ((splitAtChar '/' path.toList).filter fun p => !p.isEmpty).map String.ofList

/-- A line without the carriage return that ends it. -/
def dropCarriageReturn (line : List Char) : List Char :=
  if line.getLast? = some '\r' then line.dropLast else line

/-- The lines of a text.  A line ends with a line feed, which may follow a carriage return; the last
    line need not be ended. -/
def lineList (s : List Char) : List (List Char) :=
  let pieces := splitAtChar '\n' s
  let ended := pieces.dropLast.map dropCarriageReturn
  match pieces.getLast? with
  | some [] => ended
  | some last => ended ++ [last]
  | none => ended

/-- The lines of a text. -/
def lines (s : String) : List String := (lineList s.toList).map String.ofList

/-- Whether `p` occurs in `s`. -/
def contains (s p : String) : Bool := occursIn p.toList s.toList

/-- The text with every `old` replaced by `new`. -/
def replace (s old new : String) : String :=
  String.ofList (replaceAll old.toList new.toList s.toList)

/-- The pieces of a text between the occurrences of a separator. -/
def pieces (s sep : String) : List String := (splitOn sep.toList s.toList).map String.ofList

/-- Both sides of the first occurrence of a separator. -/
def cut? (s sep : String) : Option (String × String) :=
  (splitOnce? sep.toList s.toList).map fun (a, b) => (String.ofList a, String.ofList b)

/-- The texts joined with a separator between them. -/
def join (sep : String) (texts : List String) : String := sep.intercalate texts

/-- The rest of a text after a given start. -/
def after? (s start : String) : Option String :=
  (stripStart? start.toList s.toList).map String.ofList

/-- Whether a text starts with another one. -/
def startsWith (s start : String) : Bool := (stripStart? start.toList s.toList).isSome

end Stocktake.Text
