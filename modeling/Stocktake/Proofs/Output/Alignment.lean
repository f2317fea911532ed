import Mathlib.Algebra.GroupWithZero.Nat
import Mathlib.Data.List.Forall2
import Stocktake.Output.Lines
import Stocktake.Proofs.Text.Trimming

/-!
# Cells under each other

The cells of a line are padded to the widths of their columns before the blanks at its end are dropped, so
that a column starts at the same character in every line, and what stands there in a line is the cell.  Main
statements: `columnWidths_eq`, `take_drop_intercalate`, which finds one of the parts of a joined text again,
and `tableLines_aligned`.
-/

namespace Stocktake

section Parts

/-- A part of a joined text starts behind the parts before it and what is put behind each of them. -/
theorem take_drop_intercalate (sep : List Char) {parts : List (List Char)} {i : Nat} {part : List Char}
    (h : parts[i]? = some part) :
    ((sep.intercalate parts).drop ((parts.take i).map fun p => p.length + sep.length).sum).take part.length =
      part := by
  induction parts generalizing i with
  | nil => cases h
  | cons first rest ih =>
    cases i with
    | zero =>
      obtain rfl : first = part := Option.some.inj h
      cases rest with
      | nil => simp
      | cons second rest =>
        rw [List.intercalate_cons_of_ne_nil (List.cons_ne_nil second rest), List.append_assoc]
        exact List.take_left
    | succ i =>
      have hrest : rest[i]? = some part := h
      have hne : rest ≠ [] := by
        rintro rfl
        cases hrest
      rw [List.intercalate_cons_of_ne_nil hne, List.take_succ_cons, List.map_cons, List.sum_cons,
        ← List.drop_drop, ← List.length_append, List.drop_left]
      exact ih hrest

end Parts

section Widths

variable {columns : List String} {rows : List (List String)}

/-- The largest number of characters of the cells of a column and of its name. -/
def widest (columns : List String) (rows : List (List String)) (i : Nat) : Nat :=
  (((columns :: rows).map fun row => (row.getD i "").length).max?).getD 0

/-- Where a column starts: the columns before it are as wide as their widest cells, with two blanks behind
    each. -/
def columnStart (columns : List String) (rows : List (List String)) (i : Nat) : Nat :=
  ((List.range i).map fun j => widest columns rows j + 2).sum

theorem length_le_widest {row : List String} (h : row ∈ columns :: rows) (i : Nat) :
    (row.getD i "").length ≤ widest columns rows i :=
  List.le_max?_getD_of_mem (List.mem_map_of_mem h)

/-- Under rows of cells for all columns, every width is the largest one after what the rows before it have
    come to. -/
theorem foldl_widths {n : Nat} (hrows : ∀ row ∈ rows, row.length = n) {widths : List Nat}
    (hwidths : widths.length = n) :
    rows.foldl (fun widths row => List.zipWith (fun w cell => max w cell.length) widths row) widths =
      (List.range n).map fun i =>
        (rows.map fun row => (row.getD i "").length).foldl max (widths.getD i 0) := by
  induction rows generalizing widths with
  | nil =>
    refine List.ext_getElem (by simp [hwidths]) fun i hi _ => ?_
    have hi' : i < widths.length := hi
    simp [hi']
  | cons row rows ih =>
    have hrow := hrows row List.mem_cons_self
    have hlength : (List.zipWith (fun w cell => max w cell.length) widths row).length = n := by
      rw [List.length_zipWith, hwidths, hrow, Nat.min_self]
    rw [List.foldl_cons, ih (fun r hr => hrows r (List.mem_cons_of_mem row hr)) hlength]
    refine List.map_congr_left fun i hi => ?_
    have hi' : i < n := List.mem_range.1 hi
    have hstep : (List.zipWith (fun w cell => max w cell.length) widths row).getD i 0 =
        max (widths.getD i 0) (row.getD i "").length := by
      simp [List.getD_eq_getElem?_getD, hwidths, hrow, hi']
    rw [hstep, List.map_cons, List.foldl_cons]

theorem columnWidths_eq (hrows : ∀ row ∈ rows, row.length = columns.length) :
    Look.columnWidths columns rows = (List.range columns.length).map (widest columns rows) := by
  rw [Look.columnWidths, foldl_widths hrows (List.length_map _)]
  refine List.map_congr_left fun i hi => ?_
  have hi' : i < columns.length := List.mem_range.1 hi
  rw [widest, List.map_cons, List.max?_cons', Option.getD_some]
  simp [List.getD_eq_getElem?_getD, hi']

end Widths

section Cells

theorem length_padRight {width : Nat} {cell : String} (h : cell.length ≤ width) :
    (padRight width cell).toList.length = width := by
  rw [padRight, String.toList_append, String.toList_ofList, List.length_append, List.length_replicate,
    String.length_toList]
  omega

/-- The blanks of a padded cell count for nothing. -/
theorem trimEnd_padRight (width : Nat) (cell : String) :
    Text.trimEnd (padRight width cell).toList = Text.trimEnd cell.toList := by
  rw [padRight, String.toList_append, String.toList_ofList]
  refine Text.trimEnd_append_blanks (fun c hc => ?_) _
  rw [List.eq_of_mem_replicate hc]
  decide

end Cells

namespace Look

/-- The characters of a line from `start` on, no more than `size` of them. -/
def cutOut (line : String) (start size : Nat) : String :=
  String.ofList ((line.toList.drop start).take size)

section Lines

variable {columns : List String} {rows : List (List String)}

/-- In a line, a cell stands where its column starts. -/
theorem trimRight_cutOut_alignedLine (hrows : ∀ row ∈ rows, row.length = columns.length)
    {row : List String} (hrow : row ∈ columns :: rows) {i : Nat} {cell : String}
    (hcell : row[i]? = some cell) :
    Text.trimRight (cutOut (alignedLine (columnWidths columns rows) row) (columnStart columns rows i)
      (widest columns rows i)) = Text.trimRight cell := by
  have hlength : row.length = columns.length := by
    rcases List.mem_cons.1 hrow with rfl | hmem
    · rfl
    · exact hrows row hmem
  obtain ⟨hi, hcell'⟩ := List.getElem?_eq_some_iff.1 hcell
  let parts := (List.zipWith padRight (columnWidths columns rows) row).map String.toList
  have hparts : ∀ j < row.length,
      parts[j]? = some (padRight (widest columns rows j) (row.getD j "")).toList := by
    intro j hj
    simp [parts, columnWidths_eq hrows, List.getElem?_zipWith, List.getElem?_range (hlength ▸ hj), hj]
  have hwidth : ∀ j, (padRight (widest columns rows j) (row.getD j "")).toList.length =
      widest columns rows j := fun j => length_padRight (length_le_widest hrow j)
  have hpart := hparts i hi
  have hstart : ((parts.take i).map fun p => p.length + "  ".toList.length).sum =
      columnStart columns rows i := by
    rw [columnStart]
    refine congrArg List.sum (List.ext_getElem? fun j => ?_)
    rw [List.getElem?_map, List.getElem?_map, List.getElem?_take]
    by_cases hj : j < i
    · rw [if_pos hj, hparts j (Nat.lt_trans hj hi), List.getElem?_range hj, Option.map_some, Option.map_some,
        hwidth]
      rfl
    · rw [if_neg hj, List.getElem?_eq_none (by simpa using hj)]
      rfl
  have hfound := take_drop_intercalate "  ".toList hpart
  rw [hstart, hwidth] at hfound
  have hget : row.getD i "" = cell := by simp [List.getD_eq_getElem?_getD, hcell]
  have hjoined : (Text.join "  " (List.zipWith padRight (columnWidths columns rows) row)).toList =
      "  ".toList.intercalate parts := String.toList_intercalate
  rw [Text.trimRight, Text.trimRight, cutOut, String.toList_ofList, alignedLine, Text.trimRight,
    String.toList_ofList, Text.trimEnd_take_drop_trimEnd, hjoined, hfound, trimEnd_padRight, hget]

end Lines

theorem paint_plain (style : Style) (text : String) : paint false style text = text := by
  rw [paint, paintPadded, padRight]
  simp

/-- The lines of a table with columns are those of its rows, after that of the names of the columns. -/
theorem tableLines_eq (quiet : Bool) (cache : TagCache) {t : Table} (h : t.columns ≠ []) :
    ({ colors := false, quiet } : Look).tableLines cache t =
      ((if quiet then [] else [t.columns]) ++ t.records.map t.row).map
        (alignedLine (columnWidths t.columns (t.records.map t.row))) := by
  have hrows : (t.records.map fun r => cells t.columns r.fields) = t.records.map t.row := rfl
  rw [tableLines, if_neg h, hrows, alignedLines]
  cases quiet with
  | false => simp [paint_plain]
  | true => simp

/-- A table with columns is printed as one line for every record, in their order, after one with the names of
    the columns unless only the plain values are asked for.  Every row has a cell for each column.  What a
    line has where a column starts, as far as the widest cell of the column or its name would reach, is the
    cell, but for blanks at the end; a line that ends before has a blank cell there. -/
theorem tableLines_aligned (quiet : Bool) (cache : TagCache) {t : Table} (h : t.columns ≠ []) :
    let rows := t.records.map t.row
    List.Forall₂
      (fun line row => row.length = t.columns.length ∧ ∀ i cell, row[i]? = some cell →
        Text.trimRight
            (cutOut line (columnStart t.columns rows i) (widest t.columns rows i)) = Text.trimRight cell ∧
          (line.length ≤ columnStart t.columns rows i → Text.isAllBlank cell = true))
      (({ colors := false, quiet } : Look).tableLines cache t)
      ((if quiet then [] else [t.columns]) ++ rows) := by
  intro rows
  have hrows : ∀ row ∈ rows, row.length = t.columns.length := by
    intro row hrow
    obtain ⟨r, -, rfl⟩ := List.mem_map.1 hrow
    exact List.length_map _
  rw [tableLines_eq quiet cache h, List.forall₂_map_left_iff, List.forall₂_same]
  intro row hrow
  have hshown : row ∈ t.columns :: rows := by
    rcases List.mem_append.1 hrow with hheader | hrow
    · cases quiet with
      | false => exact List.mem_singleton.1 hheader ▸ List.mem_cons_self
      | true => cases hheader
    · exact List.mem_cons_of_mem _ hrow
  refine ⟨?_, fun i cell hcell => ?_⟩
  · rcases List.mem_cons.1 hshown with rfl | hrow
    · rfl
    · exact hrows row hrow
  · have hcut := trimRight_cutOut_alignedLine hrows hshown hcell
    refine ⟨hcut, fun hends => ?_⟩
    -- Nothing is left of the line, so that trimming the cell leaves nothing.
    rw [cutOut, List.drop_eq_nil_of_le (by rwa [String.length_toList]), List.take_nil] at hcut
    have hnone : Text.trimEnd cell.toList = [] := by
      have hchars := congrArg String.toList hcut
      rw [Text.trimRight, Text.trimRight, String.toList_ofList, String.toList_ofList,
        String.toList_ofList] at hchars
      exact hchars.symm
    exact List.all_eq_true.2 (Text.trimEnd_eq_nil_iff.1 hnone)

/-- One column is there twice, and another one is not known; a cell ends in a blank, and one record has no
    cell in the columns at the end. -/
theorem tableLines_aligned_repeated :
    let bash : Record := {
      id := 0, display := "bash", fields := (Dict.empty.insert "Name" "bäsh ").insert "Version" "5.2" }
    let zsh : Record := { id := 1, display := "zsh", fields := Dict.empty.insert "Name" "zsh" }
    let t : Table := { records := [bash, zsh], explicit := some ["Version", "Name", "Version", "Size"] }
    let rows := t.records.map t.row
    t.columns ≠ [] ∧
      ({} : Look).tableLines {} t =
        ["Version  Name   Version  Size", "5.2      bäsh   5.2", "         zsh"] ∧
      columnStart t.columns rows 2 = 16 ∧ widest t.columns rows 2 = 7 ∧
      Text.trimRight (cutOut "5.2      bäsh   5.2" 16 7) = "5.2" := by
  intro bash zsh t rows
  have hcolumns : t.columns ≠ [] := by decide
  have hlines : ({} : Look).tableLines {} t =
      ["Version  Name   Version  Size", "5.2      bäsh   5.2", "         zsh"] := by decide +kernel
  have hstart : columnStart t.columns rows 2 = 16 := by decide +kernel
  have hwidth : widest t.columns rows 2 = 7 := by decide +kernel
  have haligned := tableLines_aligned false {} hcolumns
  rw [hlines] at haligned
  obtain _ | ⟨-, _ | ⟨⟨-, hbash⟩, -⟩⟩ := haligned
  have hcut := (hbash 2 "5.2" (by decide +kernel)).1
  rw [hstart, hwidth] at hcut
  exact ⟨hcolumns, hlines, hstart, hwidth, hcut.trans (by decide +kernel)⟩

end Look

end Stocktake
