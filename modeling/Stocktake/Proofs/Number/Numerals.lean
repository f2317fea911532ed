import Mathlib.Data.List.TakeWhile
import Stocktake.Number.Numeral

/-!
# Numerals

The decimal text of a whole number of 64 bits reads back as the number.  What reads as a whole number also
reads as a floating-point number, and such a text starts with a digit, a sign, a point, or the first letter of
a name.  Main statements: `integer?_toString`, `isSome_float?_of_integer?`, and `startsNumber_of_float?`.
-/

namespace Stocktake.Numeral

theorem value_eq_ofDigitChars (ds : List Char) : value ds = Nat.ofDigitChars 10 ds 0 := by
  rw [value, Nat.ofDigitChars_eq_foldl]
  exact congrArg (fun f => ds.foldl f 0) (funext fun n => funext fun d => by rw [Nat.mul_comm])

theorem all_isDigit_toDigits (n : Nat) : (Nat.toDigits 10 n).all isDigit = true :=
  List.all_eq_true.2 fun _ hc => Nat.isDigit_of_mem_toDigits (by decide) (by decide) hc

theorem not_mem_toDigits {c : Char} (h : isDigit c = false) (n : Nat) : c ∉ Nat.toDigits 10 n := by
  intro hc
  have hdigit := List.all_eq_true.1 (all_isDigit_toDigits n) c hc
  rw [h] at hdigit
  cases hdigit

theorem digits?_toDigits (n : Nat) : digits? (Nat.toDigits 10 n) = some n := by
  rw [digits?, all_isDigit_toDigits, List.isEmpty_eq_false_iff.2 Nat.toDigits_ne_nil, value_eq_ofDigitChars,
    Nat.ofDigitChars_ten_toDigits]
  rfl

/-- Digits have no sign. -/
theorem sign_of_isDigit {c : Char} (hc : isDigit c = true) (s : List Char) :
    sign (c :: s) = (false, c :: s) := by
  unfold sign
  split
  · rename_i heq
    rw [(List.cons.inj heq).1] at hc
    cases hc
  · rename_i heq
    rw [(List.cons.inj heq).1] at hc
    cases hc
  · rfl

theorem sign_toDigits (n : Nat) : sign (Nat.toDigits 10 n) = (false, Nat.toDigits 10 n) := by
  have hall := all_isDigit_toDigits n
  cases hdigits : Nat.toDigits 10 n with
  | nil => exact absurd hdigits Nat.toDigits_ne_nil
  | cons c s =>
    rw [hdigits, List.all_cons, Bool.and_eq_true] at hall
    exact sign_of_isDigit hall.1 s

/-! ## Whole numbers -/

/-- A whole number of 64 bits. -/
def Fits64 (n : Int) : Prop := -0x8000000000000000 ≤ n ∧ n < 0x8000000000000000

/-- The number of a sign and digits. -/
def signed (negative : Bool) (n : Nat) : Int := if negative then -n else n

theorem integer?_eq_some {s : List Char} {n : Int} :
    integer? s = some n ↔
      ∃ m, digits? (sign s).2 = some m ∧ signed (sign s).1 m = n ∧ Fits64 n := by
  rw [integer?, Option.bind_eq_some_iff]
  refine exists_congr fun m => and_congr_right fun _ => ?_
  rw [Option.ite_none_right_eq_some, Bool.and_eq_true, decide_eq_true_eq, decide_eq_true_eq, Option.some_inj]
  constructor
  · rintro ⟨hfits, rfl⟩
    exact ⟨rfl, hfits⟩
  · rintro ⟨rfl, hfits⟩
    exact ⟨hfits, rfl⟩

/-- The text of a number reads back. -/
theorem integer?_toString {n : Int} (h : Fits64 n) : integer? (toString n).toList = some n := by
  rw [integer?_eq_some, Int.toString_eq_repr, Int.repr_eq_if]
  split
  · rename_i hn
    refine ⟨n.toNat, ?_, ?_, h⟩
    · rw [Nat.repr_eq_ofList_toDigits, String.toList_ofList, sign_toDigits, digits?_toDigits]
    · rw [Nat.repr_eq_ofList_toDigits, String.toList_ofList, sign_toDigits]
      exact Int.toNat_of_nonneg hn
  · rename_i hn
    have hchars : ("-" ++ (-n).toNat.repr).toList = '-' :: Nat.toDigits 10 (-n).toNat := by
      rw [String.toList_append, Nat.repr_eq_ofList_toDigits, String.toList_ofList, String.toList_ofList]
      rfl
    rw [hchars]
    refine ⟨(-n).toNat, digits?_toDigits _, ?_, h⟩
    have hnat : ((-n).toNat : Int) = -n := Int.toNat_of_nonneg (by omega)
    rw [sign, signed, if_pos rfl, hnat, Int.neg_neg]

/-! ## Floating-point numbers -/

/-- A character that a number may start with. -/
def startsNumber (c : Char) : Bool := isDigit c || ['+', '-', '.', 'i', 'I', 'n', 'N'].contains c

theorem float?_eq (s : List Char) :
    float? s =
      if String.ofList ((sign s).2.map lowerAscii) = "inf" ∨
          String.ofList ((sign s).2.map lowerAscii) = "infinity" then
        some (.infinite (sign s).1)
      else if String.ofList ((sign s).2.map lowerAscii) = "nan" then some .nan
      else decimal? (sign s).1 (sign s).2 := rfl

/-- What reads as a whole number also reads as a floating-point number. -/
theorem isSome_float?_of_integer? {s : List Char} {n : Int} (h : integer? s = some n) :
    (float? s).isSome := by
  obtain ⟨m, hdigits, -, -⟩ := integer?_eq_some.1 h
  obtain ⟨hne, hall⟩ : (sign s).2 ≠ [] ∧ ∀ c ∈ (sign s).2, isDigit c = true := by
    unfold digits? at hdigits
    split at hdigits
    · cases hdigits
    · rename_i hfilled
      simpa using hfilled
  have hwhole : (sign s).2.takeWhile isDigit = (sign s).2 := List.takeWhile_eq_self_iff.2 hall
  have hrest : (sign s).2.dropWhile isDigit = [] := List.dropWhile_eq_nil_iff.2 hall
  rw [float?_eq]
  split
  · rfl
  · split
    · rfl
    · simp [decimal?, hwhole, hrest, hne, exponent?]

theorem lowerAscii_cases {c d : Char} (h : lowerAscii c = d) : c = d ∨ c = Char.ofNat (d.toNat - 32) := by
  unfold lowerAscii at h
  split at h
  · rename_i hupper
    simp only [Bool.and_eq_true, decide_eq_true_eq] at hupper
    have hlow : 65 ≤ c.toNat := hupper.1
    have hhigh : c.toNat ≤ 90 := hupper.2
    have hvalid : (c.toNat + 32).isValidChar := .inl (by omega)
    have hnat : d.toNat = c.toNat + 32 := by
      rw [← h, Char.ofNat, dif_pos hvalid]
      rfl
    right
    rw [hnat, Nat.add_sub_cancel, Char.ofNat_toNat]
  · exact .inl h

/-- A text that reads as a number with a point or an exponent starts with a digit or the point. -/
theorem startsNumber_of_decimal? {c : Char} {s : List Char} {negative : Bool}
    (h : (decimal? negative (c :: s)).isSome) : startsNumber c = true := by
  cases hdigit : isDigit c with
  | true => rw [startsNumber, hdigit, Bool.true_or]
  | false =>
    by_cases hpoint : c = '.'
    · rw [hpoint]
      rfl
    · simp [decimal?, hdigit, hpoint] at h

/-- A floating-point number starts with a digit, a sign, a point, or the first letter of a name. -/
theorem startsNumber_of_float? {s : List Char} (h : (float? s).isSome) :
    s.head?.any startsNumber = true := by
  cases s with
  | nil => cases h
  | cons c s =>
    rw [List.head?_cons, Option.any_some]
    by_cases hplus : c = '+'
    · rw [hplus]
      rfl
    by_cases hminus : c = '-'
    · rw [hminus]
      rfl
    have hsign : sign (c :: s) = (false, c :: s) := by simp [sign, hplus, hminus]
    -- The first letter of a name is small or a capital.
    have hname : ∀ {d : Char} {name : List Char}, (c :: s).map lowerAscii = d :: name →
        c = d ∨ c = Char.ofNat (d.toNat - 32) :=
      fun heq => lowerAscii_cases (List.cons.inj heq).1
    rw [float?_eq, hsign] at h
    split at h
    · rename_i hinfinity
      have hi : c = 'i' ∨ c = 'I' :=
        hinfinity.elim (fun heq => hname (String.ofList_injective heq))
          (fun heq => hname (String.ofList_injective heq))
      rcases hi with rfl | rfl <;> rfl
    · split at h
      · rename_i hnan
        have hn : c = 'n' ∨ c = 'N' := hname (String.ofList_injective hnan)
        rcases hn with rfl | rfl <;> rfl
      · exact startsNumber_of_decimal? h

end Stocktake.Numeral
