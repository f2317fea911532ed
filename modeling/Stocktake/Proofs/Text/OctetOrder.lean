import Stocktake.Text.Octets
import Mathlib.Data.String.Basic
import Mathlib.Tactic.SplitIfs

/-!
# The order of texts and of their octets

Texts are compared by the code points of their characters.  UTF-8 keeps that order: a character with
a smaller code point has octets that come first, and none of them is a start of the other's.  Main
statement: `octets_lt_octets`.
-/

namespace Stocktake.Text

theorem byteArray_toList_loop (bytes : ByteArray) (index : Nat) (acc : List UInt8) :
    ByteArray.toList.loop bytes index acc = acc.reverse ++ bytes.data.toList.drop index := by
  fun_induction ByteArray.toList.loop bytes index acc with
  | case1 index acc before ih =>
    have hdrop : bytes.data.toList.drop index =
        bytes.data[index] :: bytes.data.toList.drop (index + 1) :=
      List.drop_eq_getElem_cons (by simpa using before)
    rw [ih, hdrop]
    simp [ByteArray.get!, before]
  | case2 index acc after =>
    simp [List.drop_of_length_le (show bytes.data.toList.length ≤ index by simpa using after)]

/-- The octets of a text are those of its characters one after the other. -/
theorem octets_eq_flatMap (s : String) : octets s = s.toList.flatMap String.utf8EncodeChar := by
  have hbytes : s.toByteArray = (s.toList.flatMap String.utf8EncodeChar).toByteArray :=
    String.utf8Encode_toList.symm
  rw [octets, String.toUTF8_eq_toByteArray, hbytes, ByteArray.toList, byteArray_toList_loop,
    List.toList_data_toByteArray]
  rfl

theorem ofNat_cons_lt_ofNat_cons {m n : Nat} (hm : m < 256) (hn : n < 256) {x y : List UInt8} :
    UInt8.ofNat m :: x < UInt8.ofNat n :: y ↔ m < n ∨ m = n ∧ x < y := by
  rw [List.cons_lt_cons_iff, UInt8.lt_iff_toNat_lt, ← UInt8.toNat_inj,
    UInt8.toNat_ofNat_of_lt' hm, UInt8.toNat_ofNat_of_lt' hn]

/-- The octets of a character come before those of a later one, whatever follows them. -/
theorem utf8EncodeChar_append_lt {c d : Char} (h : c < d) (x y : List UInt8) :
    String.utf8EncodeChar c ++ x < String.utf8EncodeChar d ++ y := by
  have hlt : c.val.toNat < d.val.toNat := UInt32.lt_iff_toNat_lt.1 h
  have hd : d.val.toNat < 0x110000 := by
    rcases d.valid with h | h <;> omega
  simp only [String.utf8EncodeChar]
  generalize c.val.toNat = m at hlt
  generalize d.val.toNat = n at hlt hd
  -- Octets after the first one carry six bits each: how the digits in base 64 hang together.
  have hm : m / 64 / 64 = m / 4096 ∧ m / 4096 / 64 = m / 262144 :=
    ⟨Nat.div_div_eq_div_mul .., Nat.div_div_eq_div_mul ..⟩
  have hn : n / 64 / 64 = n / 4096 ∧ n / 4096 / 64 = n / 262144 :=
    ⟨Nat.div_div_eq_div_mul .., Nat.div_div_eq_div_mul ..⟩
  have hm8 : m / 262144 % 8 = m / 262144 := by omega
  have hn8 : n / 262144 % 8 = n / 262144 := by omega
  rw [hm8, hn8]
  -- One case for every pair of lengths.
  split_ifs <;>
    simp (disch := omega) only [List.cons_append, List.nil_append, ofNat_cons_lt_ofNat_cons] <;>
    omega

theorem flatMap_utf8EncodeChar_lt {a b : List Char} (h : a < b) :
    a.flatMap String.utf8EncodeChar < b.flatMap String.utf8EncodeChar := by
  induction a generalizing b with
  | nil =>
    cases b with
    | nil => exact absurd h (List.lt_irrefl _)
    | cons d b =>
      obtain ⟨first, following, hd⟩ :=
        List.exists_cons_of_ne_nil (String.utf8EncodeChar_ne_nil (c := d))
      rw [List.flatMap_nil, List.flatMap_cons, hd]
      exact List.nil_lt_cons _ _
  | cons c a ih =>
    cases b with
    | nil => exact absurd h (List.not_lt_nil _)
    | cons d b =>
      rw [List.flatMap_cons, List.flatMap_cons]
      rcases List.cons_lt_cons_iff.1 h with hlt | ⟨rfl, hrest⟩
      · exact utf8EncodeChar_append_lt hlt _ _
      · exact List.append_left_lt (ih hrest)

/-- A text that comes before another one has octets that come before the other's. -/
theorem octets_lt_octets {a b : String} (h : a < b) : octets a < octets b := by
  rw [octets_eq_flatMap, octets_eq_flatMap]
  exact flatMap_utf8EncodeChar_lt (String.lt_iff_toList_lt.1 h)

end Stocktake.Text
