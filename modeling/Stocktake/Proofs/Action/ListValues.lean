import Stocktake.Action.Parameter
import Stocktake.Proofs.Text.Pieces
import Stocktake.Proofs.Text.Trimming

/-!
# The items of a list parameter

A text that is a list is cut at its separator, and every piece that is not blank is an item without the
blanks at its ends.  An item has no separator in it, so that the items joined with the separator are cut into
the items again, provided that the separator cannot overlap itself.  Main statement: `values_normal`.
-/

namespace Stocktake.TextParameter

variable {p : TextParameter} {sep : String}

/-- The items are the pieces that are not blank, trimmed. -/
theorem values_eq (hlist : p.separator = some sep) :
    p.values = ((Text.splitOn sep.toList p.value.toList).filter fun piece => !piece.all Text.isBlank).map
      fun piece => String.ofList (Text.trimChars piece) := by
  have hblank : ∀ piece : List Char,
      (String.ofList (Text.trimChars piece) != "") = !piece.all Text.isBlank := by
    intro piece
    rw [Bool.eq_iff_iff, bne_iff_ne, Ne, ← String.toList_inj, String.toList_ofList, String.toList_empty,
      Text.trimChars_eq_nil_iff, Bool.not_eq_true', Bool.eq_false_iff, Ne, List.all_eq_true]
  have htrim : Text.trim ∘ String.ofList = fun piece => String.ofList (Text.trimChars piece) := by
    funext piece
    rw [Function.comp_apply, Text.trim, String.toList_ofList]
  have hitems : p.values =
      ((Text.pieces p.value sep).map Text.trim).filter fun item => item != "" := by
    rw [values, hlist]
  rw [hitems, Text.pieces, List.map_map, htrim, List.filter_map]
  exact congrArg (List.map _) (List.filter_congr fun piece _ => hblank piece)

/-- What the pieces do not have in them, the items do not have. -/
theorem mem_values (hsep : sep ≠ "") (hlist : p.separator = some sep) {item : String}
    (h : item ∈ p.values) :
    item ≠ "" ∧ Text.trimChars item.toList = item.toList ∧ Text.contains item sep = false := by
  rw [values_eq hlist] at h
  obtain ⟨piece, hpiece, rfl⟩ := List.mem_map.1 h
  obtain ⟨hmem, hfilled⟩ := List.mem_filter.1 hpiece
  have hfree := (Text.isCut_splitOn (String.toList_eq_nil_iff.not.2 hsep) p.value.toList).free piece hmem
  refine ⟨?_, ?_, ?_⟩
  · rw [Ne, ← String.toList_inj, String.toList_ofList, String.toList_empty, Text.trimChars_eq_nil_iff,
      ← List.all_eq_true]
    simpa using hfilled
  · rw [String.toList_ofList, Text.trimChars_trimChars]
  · rw [Text.contains, String.toList_ofList]
    exact Text.occursIn_of_isInfix (Text.trimChars_isInfix piece) hfree

section Joined

variable (hsep : sep ≠ "") (hborder : Text.Unbordered sep.toList) (hlist : p.separator = some sep)
include hsep hborder hlist

/-- Items in normal form that are joined with the separator are read back. -/
theorem values_of_joined {items : List String} (hvalue : p.value = Text.join sep items)
    (hitems : ∀ item ∈ items,
      item ≠ "" ∧ Text.trimChars item.toList = item.toList ∧ Text.contains item sep = false) :
    p.values = items := by
  cases items with
  | nil =>
    have hempty : p.value = "" := hvalue
    rw [values_eq hlist, hempty, String.toList_empty, Text.splitOn,
      dif_neg (String.toList_eq_nil_iff.not.2 hsep), Text.splitOnSep, Text.splitOnce?,
      if_neg (String.toList_eq_nil_iff.not.2 hsep)]
    rfl
  | cons first rest =>
    have hcut : Text.IsCut sep.toList p.value.toList ((first :: rest).map String.toList) := {
      filled := by simp
      free := by
        intro piece hpiece
        obtain ⟨item, hitem, rfl⟩ := List.mem_map.1 hpiece
        exact (hitems item hitem).2.2
      joined := by rw [hvalue, Text.join, String.toList_intercalate] }
    have hsplit := (Text.isCut_iff (String.toList_eq_nil_iff.not.2 hsep) hborder).1 hcut
    have hkept : ((first :: rest).map String.toList).filter (fun piece => !piece.all Text.isBlank) =
        (first :: rest).map String.toList := by
      refine List.filter_eq_self.2 fun piece hpiece => ?_
      obtain ⟨item, hitem, rfl⟩ := List.mem_map.1 hpiece
      obtain ⟨hne, htrimmed, -⟩ := hitems item hitem
      -- A text of blanks would be trimmed to nothing.
      rw [Bool.not_eq_true', Bool.eq_false_iff, Ne, List.all_eq_true, ← Text.trimChars_eq_nil_iff, htrimmed,
        String.toList_eq_nil_iff]
      exact hne
    rw [values_eq hlist, hsplit, hkept, List.map_map]
    refine (List.map_congr_left fun item hitem => ?_).trans (List.map_id (first :: rest))
    rw [Function.comp_apply, (hitems item hitem).2.1, String.ofList_toList, id]

end Joined

/-- Setting a parameter changes its text alone. -/
theorem set_eq_ok {store : Store} {v : String} {q : TextParameter} (h : p.set store v = .ok q) :
    q = { p with current := some v } := by
  unfold set at h
  split at h
  · cases h
  · exact (Except.ok.inj h).symm

/-- Of a list whose separator is not empty and cannot overlap itself, no item is empty, has a blank at an end,
    or has the separator in it.  The text that was set is cut into pieces in one way only, and the items are
    these pieces, trimmed, in their order, but for the blank ones.  The items joined with the separator, when
    they are set, are the items.  A single character cannot overlap itself. -/
theorem values_normal :
    (∀ c, Text.Unbordered [c]) ∧
    ∀ (p : TextParameter) (sep : String), p.separator = some sep → sep ≠ "" →
      Text.Unbordered sep.toList → ∀ v : String,
      let items := ({ p with current := some v } : TextParameter).values
      (∀ store q, p.set store v = .ok q → q = { p with current := some v }) ∧
      (∀ item ∈ items, item ≠ "" ∧ Text.contains item sep = false ∧
        (∀ c ∈ item.toList.head?, Text.isBlank c = false) ∧
        ∀ c ∈ item.toList.getLast?, Text.isBlank c = false) ∧
      (∃! pieces, Text.IsCut sep.toList v.toList pieces) ∧
      (∀ pieces, Text.IsCut sep.toList v.toList pieces →
        items = (pieces.filter fun piece => !piece.all Text.isBlank).map
          fun piece => String.ofList (Text.trimChars piece)) ∧
      ({ p with current := some (Text.join sep items) } : TextParameter).values = items := by
  refine ⟨Text.unbordered_singleton, ?_⟩
  intro p sep hlist hsep hborder v items
  have hchars : sep.toList ≠ [] := String.toList_eq_nil_iff.not.2 hsep
  have hset : ({ p with current := some v } : TextParameter).separator = some sep := hlist
  have hagain : ({ p with current := some (Text.join sep items) } : TextParameter).separator = some sep :=
    hlist
  have hnormal := fun item (h : item ∈ items) => mem_values hsep hset h
  refine ⟨fun store q hq => set_eq_ok hq, ?_, ?_, ?_, ?_⟩
  · intro item hitem
    obtain ⟨hne, htrimmed, hfree⟩ := hnormal item hitem
    exact ⟨hne, hfree, Text.trimChars_eq_self_iff.1 htrimmed⟩
  · exact ⟨_, Text.isCut_splitOn hchars v.toList,
      fun pieces hcut => ((Text.isCut_iff hchars hborder).1 hcut).symm⟩
  · intro pieces hcut
    rw [← (Text.isCut_iff hchars hborder).1 hcut]
    exact values_eq hset
  · exact values_of_joined hsep hborder hagain rfl hnormal

/-- Between arrows stand a blank piece and one that has the characters of an arrow apart. -/
theorem values_normal_arrows :
    let p : TextParameter := { name := "Steps", description := "", separator := some "=>" }
    let v := "\t a => =>b=>  = > c "
    let items := ({ p with current := some v } : TextParameter).values
    p.separator = some "=>" ∧ "=>" ≠ "" ∧ Text.Unbordered "=>".toList ∧ items = ["a", "b", "= > c"] ∧
      Text.join "=>" items = "a=>b=>= > c" ∧
      ({ p with current := some (Text.join "=>" items) } : TextParameter).values = items := by
  intro p v items
  have hborder : Text.Unbordered "=>".toList := by decide
  obtain ⟨-, -, -, -, hjoined⟩ := values_normal.2 p "=>" rfl (by decide) hborder v
  have hitems : items = ["a", "b", "= > c"] := by decide +kernel
  refine ⟨rfl, by decide, hborder, hitems, ?_, hjoined⟩
  rw [hitems]
  decide +kernel

end Stocktake.TextParameter
