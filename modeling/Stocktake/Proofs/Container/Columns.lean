import Mathlib.Data.List.Sort
import Stocktake.Container.Basic
import Stocktake.Proofs.Module.Ordering

/-!
# The columns of a view

A table that names no columns has those of the fields in use, so that a view of it may have fewer.  They are
still in the order of the source, and what is gone is a column that is empty in all records of the view; so a
row of the view is the row of the source with the cells of such columns left out.  Main statements:
`inferredColumns_filter`, `cells_filter` and `filtered_projects`.
-/

namespace Stocktake

section Increasing

/-- An increasing list that is part of another one is what the other one has of it. -/
theorem eq_filter_of_increasing {names names' : List String} (h : names.Pairwise (· < ·))
    (h' : names'.Pairwise (· < ·)) (hsub : ∀ name ∈ names, name ∈ names') :
    names = names'.filter (· ∈ names) := by
  have hanti : Std.Antisymm fun a b : String => a < b := by
    constructor
    intro a b hab hba
    exact absurd (string_lt_trans hab hba) (string_lt_irrefl a)
  have hirrefl : Std.Irrefl fun a b : String => a < b := ⟨string_lt_irrefl⟩
  refine List.Pairwise.eq_of_mem_iff h (h'.filter _) fun name => ?_
  rw [List.mem_filter, decide_eq_true_eq]
  exact ⟨fun hname => ⟨hsub name hname, hname⟩, And.right⟩

end Increasing

section Columns

variable {records : List Record}

theorem Dict.mem_keys_iff {α : Type} {d : Dict α} {key : String} : key ∈ d.keys ↔ d.has key = true :=
  Dict.isSome_lookup.symm

theorem mem_inferredColumns {name : String} :
    name ∈ inferredColumns records ↔ ∃ r ∈ records, r.fields.has name = true := by
  rw [inferredColumns, mem_sortedNames, List.mem_flatMap]
  exact exists_congr fun r => and_congr_right fun _ => Dict.mem_keys_iff

theorem pairwise_inferredColumns (records : List Record) : (inferredColumns records).Pairwise (· < ·) :=
  pairwise_sortedNames _

/-- The columns of some of the records are those of all records that one of the some has a field for. -/
theorem inferredColumns_filter (keep : Record → Bool) :
    inferredColumns (records.filter keep) =
      (inferredColumns records).filter (· ∈ inferredColumns (records.filter keep)) := by
  refine eq_filter_of_increasing (pairwise_inferredColumns _) (pairwise_inferredColumns _) ?_
  intro name hname
  obtain ⟨r, hr, hfield⟩ := mem_inferredColumns.1 hname
  exact mem_inferredColumns.2 ⟨r, List.mem_of_mem_filter hr, hfield⟩

end Columns

section Cells

variable (columns : List String) (fields : Dict String)

theorem getElem?_cells (i : Nat) :
    (cells columns fields)[i]? = columns[i]?.map fun name => (fields.get? name).getD "" :=
  List.getElem?_map

/-- The cells under some of the columns are those of the row that stand under them. -/
theorem cells_filter (keep : String → Bool) :
    cells (columns.filter keep) fields =
      ((columns.zip (cells columns fields)).filter fun x => keep x.1).map Prod.snd := by
  induction columns with
  | nil => rfl
  | cons name columns ih =>
    have hcells : cells (name :: columns) fields = (fields.get? name).getD "" :: cells columns fields := rfl
    rw [hcells, List.zip_cons_cons]
    by_cases hkeep : keep name = true
    · rw [List.filter_cons, List.filter_cons, if_pos hkeep, if_pos hkeep, List.map_cons, ← ih]
      rfl
    · rw [List.filter_cons, List.filter_cons, if_neg hkeep, if_neg hkeep, ih]

theorem getD_get?_of_not_has {fields : Dict String} {name : String} (h : ¬ fields.has name = true) :
    (fields.get? name).getD "" = "" := by
  rw [Dict.has, Bool.not_eq_true, Option.isSome_eq_false_iff, Option.isNone_iff_eq_none] at h
  rw [h, Option.getD_none]

end Cells

/-- A view of a table keeps the records that pass.  Under named columns their rows stay as they are.  Columns
    that are not named are the fields in use, increasing; those of the view are among them in the same order,
    and for a record of the view no field is without a column, a column of the view has the same cell as in
    the source, and a column that is gone has an empty one.  So the row is that of the source with the cells
    of these columns left out. -/
theorem filtered_projects (store : Store) (f : Filter) (cache : TagCache) (t : Table) :
    ∃ view : Table, ((Container.table t).filtered store f cache).1 = .table view ∧
      view.records = t.records.filter (f.keeps store (Record.refreshAll store cache t.records)) ∧
      (∀ columns, t.explicit = some columns →
        t.columns = columns ∧ view.columns = columns ∧ ∀ r ∈ view.records, view.row r = t.row r) ∧
      (t.explicit = none →
        (t.columns.Pairwise fun a b => Text.octets a < Text.octets b) ∧
        (∀ name, name ∈ t.columns ↔ ∃ r ∈ t.records, r.fields.has name = true) ∧
        view.columns.Sublist t.columns ∧
        ∀ r ∈ view.records,
          (∀ name, r.fields.has name = true → name ∈ view.columns) ∧
          (∀ (name : String) (i j : Nat), view.columns[i]? = some name → t.columns[j]? = some name →
            (view.row r)[i]? = (t.row r)[j]?) ∧
          (∀ (name : String) (j : Nat), t.columns[j]? = some name → name ∉ view.columns → (t.row r)[j]? = some "") ∧
          view.row r =
            ((t.columns.zip (t.row r)).filter fun x => x.1 ∈ view.columns).map Prod.snd) := by
  refine ⟨{ t with records := (filterRecords store f cache t.records).1 }, rfl, rfl, ?_, ?_⟩
  · intro columns hexplicit
    have hsource : t.columns = columns := by rw [Table.columns, hexplicit, Option.getD_some]
    refine ⟨hsource, hsource ▸ ?_, fun r _ => ?_⟩
    · rw [Table.columns, Table.columns, hexplicit, Option.getD_some, Option.getD_some]
    · rw [Table.row, Table.row, Table.columns, Table.columns, hexplicit, Option.getD_some, Option.getD_some]
  · intro hinferred
    let kept := filterRecords store f cache t.records
    have hsource : t.columns = inferredColumns t.records := by rw [Table.columns, hinferred, Option.getD_none]
    have hview : ({ t with records := kept.1 } : Table).columns = inferredColumns kept.1 := by
      rw [Table.columns, hinferred, Option.getD_none]
    have hfilter : inferredColumns kept.1 = t.columns.filter (· ∈ inferredColumns kept.1) := by
      rw [hsource]
      exact inferredColumns_filter _
    refine ⟨?_, ?_, ?_, ?_⟩
    · rw [hsource]
      exact (pairwise_inferredColumns t.records).imp Text.octets_lt_octets
    · intro name
      rw [hsource]
      exact mem_inferredColumns
    · rw [hview, hfilter]
      exact List.filter_sublist
    · intro r hr
      rw [Table.row, Table.row, hview]
      refine ⟨fun name hfield => mem_inferredColumns.2 ⟨r, hr, hfield⟩, ?_, ?_, ?_⟩
      · intro name i j hi hj
        rw [getElem?_cells, getElem?_cells, hi, hj]
      · intro name j hj hgone
        have hnone : ¬ r.fields.has name = true :=
          fun hfield => hgone (mem_inferredColumns.2 ⟨r, hr, hfield⟩)
        rw [getElem?_cells, hj, Option.map_some, getD_get?_of_not_has hnone]
      · conv_lhs => rw [hfilter]
        exact cells_filter t.columns r.fields _

/-- The record that goes takes its size with it, in a column between those that stay. -/
theorem filtered_projects_shells :
    let bash : Record := {
      id := 0, display := "bash", fields := (Dict.empty.insert "Version" "5.2").insert "Section" "shells" }
    let vim : Record := {
      id := 1, display := "vim", fields := (Dict.empty.insert "Size" "3").insert "Section" "editors" }
    let zsh : Record := {
      id := 2, display := "zsh", fields := (Dict.empty.insert "Essential" "no").insert "Section" "shells" }
    let t : Table := { records := [bash, vim, zsh] }
    let named : Table := { t with explicit := some ["Version", "Version", "Owner"] }
    t.columns = ["Essential", "Section", "Size", "Version"] ∧ t.row bash = ["", "shells", "", "5.2"] ∧
      (∃ view : Table, ((Container.table t).filtered {} (.text "SHELLS") {}).1 = .table view ∧
        view.records = [bash, zsh] ∧ view.columns = ["Essential", "Section", "Version"] ∧
        view.row bash =
          ((t.columns.zip (t.row bash)).filter fun x => x.1 ∈ view.columns).map Prod.snd) ∧
      ∃ view : Table, ((Container.table named).filtered {} (.text "SHELLS") {}).1 = .table view ∧
        view.row bash = named.row bash := by
  intro bash vim zsh t named
  have hkept : t.records.filter
      ((Filter.text "SHELLS").keeps {} (Record.refreshAll {} {} t.records)) = [bash, zsh] := by
    decide +kernel
  obtain ⟨view, hview, hrecords, -, hinferred⟩ := filtered_projects {} (.text "SHELLS") {} t
  obtain ⟨named', hnamed, hrecords', hexplicit, -⟩ := filtered_projects {} (.text "SHELLS") {} named
  rw [hkept] at hrecords
  have hmem : bash ∈ named'.records := by
    rw [hrecords']
    exact hkept ▸ List.mem_cons_self
  obtain ⟨-, -, -, hrows⟩ := hinferred rfl
  obtain ⟨-, -, -, hbash⟩ := hrows bash (hrecords ▸ List.mem_cons_self)
  have hcolumns : view.columns = ["Essential", "Section", "Version"] := by
    have htable : view = { t with records := [bash, zsh] } := by
      rw [← hkept]
      exact (Container.table.inj hview).symm
    rw [htable]
    decide +kernel
  exact ⟨by decide +kernel, by decide +kernel, ⟨view, hview, hrecords, hcolumns, hbash⟩, named', hnamed,
    (hexplicit _ rfl).2.2 bash hmem⟩

end Stocktake
