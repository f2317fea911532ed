import Stocktake.Module.General
import Stocktake.Proofs.Module.Grouping
import Stocktake.Proofs.Record.Issue

/-!
# The table of resources

A complete row tells one fact of a named resource: the value of a property.  The name is a property too,
but it has no column, so that its rows are passed over before the others are grouped.  A resource of which
nothing but its name is told therefore has no record in the table, although the list of resources shows
it.  Main statements: `filterMap_propertyCell?`, `resourcesTable_subjects`, and `nameOnly_missed`.
-/

namespace Stocktake.General

/-- The value of a property of a named resource. -/
structure Fact where
  uri : String
  name : String
  property : String
  value : String
  deriving DecidableEq, Repr

/-- The fact that a complete row tells. -/
def fact? (row : Row) : Option Fact := do
  let uri ← row.get? "resource"
  let name ← row.get? "name"
  let property ← row.get? "property"
  let value ← row.get? "value"
  pure ⟨uri, name, property, value⟩

/-- Whether a fact has a column, which the name of a resource has not. -/
def Fact.hasColumn (f : Fact) : Bool := f.property ≠ Vocabulary.nameProperty

/-- The cell that a fact makes. -/
def Fact.cell (f : Fact) : Cell := ⟨f.uri, f.name, Vocabulary.localName f.property, f.value⟩

/-- Cells are made of the facts that have a column. -/
theorem propertyCell?_eq (row : Row) :
    propertyCell? row = ((fact? row).filter Fact.hasColumn).map Fact.cell := by
  unfold propertyCell? fact?
  cases row.get? "property" with
  | none => cases row.get? "resource" <;> cases row.get? "name" <;> rfl
  | some property =>
    by_cases hname : property = Vocabulary.nameProperty
    · -- Whatever else such a row binds, it tells nothing or a fact without a column.
      cases row.get? "resource" <;> cases row.get? "name" <;> cases row.get? "value" <;>
        simp [hname, Fact.hasColumn, Option.filter]
    · cases row.get? "resource" <;> cases row.get? "name" <;> cases row.get? "value" <;>
        simp [hname, Fact.hasColumn, Fact.cell, Option.filter]

theorem filterMap_propertyCell? (rows : List Row) :
    rows.filterMap propertyCell? = ((rows.filterMap fact?).filter Fact.hasColumn).map Fact.cell := by
  rw [List.filter_filterMap, List.map_filterMap]
  exact List.filterMap_congr fun row _ => propertyCell?_eq row

/-- The table of resources has one record for every resource of which a complete row tells a property other
    than its name, in the order in which such rows come, and no other record.  So it has all resources of
    complete rows exactly if each of them has a row about another property. -/
theorem resourcesTable_subjects {store : Store} {rows : List Row}
    (h : store.select propertiesQuery = .ok rows) (actions : List (Action World)) (cache : TagCache) :
    let facts := rows.filterMap fact?
    ∃ t seen, (resourcesView actions).data store cache .table = .ok (.table t, seen) ∧
      t.records.map Record.uri =
        ((facts.filter Fact.hasColumn).map Fact.uri).eraseDups.map some ∧
      ((∀ f ∈ facts, ∃ r ∈ t.records, r.uri = some f.uri) ↔
        ∀ f ∈ facts, ∃ g ∈ facts, g.uri = f.uri ∧ g.property ≠ Vocabulary.nameProperty) := by
  intro facts
  have hproduce : (resourcesView actions).produce store cache .table =
      .ok (issueTable cache none (groupCells (rows.filterMap propertyCell?))) := by
    simp only [resourcesView, h]
    rfl
  have huris : (Draft.issueAll cache (groupCells (rows.filterMap propertyCell?))).1.map Record.uri =
      ((facts.filter Fact.hasColumn).map Fact.uri).eraseDups.map some := by
    rw [Draft.map_uri_issueAll, groupCells_eq, filterMap_propertyCell?, List.map_map, List.map_map]
    rfl
  refine ⟨_, _, View.data_of_produce rfl hproduce, huris, ?_⟩
  have hshown : ∀ uri, (∃ r ∈ (Draft.issueAll cache (groupCells (rows.filterMap propertyCell?))).1,
      r.uri = some uri) ↔ ∃ g ∈ facts, g.uri = uri ∧ g.property ≠ Vocabulary.nameProperty := by
    intro uri
    have hmem := List.mem_map (f := Record.uri) (b := some uri)
      (l := (Draft.issueAll cache (groupCells (rows.filterMap propertyCell?))).1)
    rw [← hmem, huris]
    simp [Fact.hasColumn, and_assoc, and_comm]
  exact forall₂_congr fun f _ => hshown f.uri

/-- Of two resources, one of which has nothing but its name, the table has the other. -/
theorem resourcesTable_subjects_bash :
    let row (uri name property value : String) : Row := Dict.ofList
      [("resource", uri), ("name", name), ("property", property), ("value", value)]
    let rows := [row "urn:a" "apt" Vocabulary.nameProperty "apt",
      row "urn:b" "bash" Vocabulary.nameProperty "bash",
      row "urn:b" "bash" "http://inventag.local/version" "5.2"]
    let store : Store := { selects := Dict.empty.insert propertiesQuery rows }
    store.select propertiesQuery = .ok rows ∧
      ∃ t seen, (resourcesView []).data store {} .table = .ok (.table t, seen) ∧
        t.records.map Record.uri = [some "urn:b"] ∧
        ¬ ∃ r ∈ t.records, r.uri = some "urn:a" := by
  intro row rows store
  have hselect : store.select propertiesQuery = .ok rows := by decide +kernel
  obtain ⟨t, seen, hdata, huris, -⟩ := resourcesTable_subjects hselect [] {}
  have hfacts : ((rows.filterMap fact?).filter Fact.hasColumn).map Fact.uri = ["urn:b"] := by
    decide +kernel
  rw [hfacts] at huris
  refine ⟨hselect, t, seen, hdata, huris, ?_⟩
  rintro ⟨r, hr, huri⟩
  have hmem : some "urn:a" ∈ t.records.map Record.uri := List.mem_map.2 ⟨r, hr, huri⟩
  rw [huris] at hmem
  exact absurd hmem (by decide)

/-- A resource of which nothing but the name is told has no record, although the row is complete. -/
theorem nameOnly_missed :
    let apt : Row := Dict.ofList [("resource", "urn:a"), ("name", "apt"),
      ("property", Vocabulary.nameProperty), ("value", "apt")]
    let store : Store := { selects := Dict.empty.insert propertiesQuery [apt] }
    store.select propertiesQuery = .ok [apt] ∧
      fact? apt = some ⟨"urn:a", "apt", Vocabulary.nameProperty, "apt"⟩ ∧
      (resourcesView []).data store {} .table = .ok (.table { records := [] }, {}) := by
  intro apt store
  have hselect : store.select propertiesQuery = .ok [apt] := by decide +kernel
  have hcells : [apt].filterMap propertyCell? = [] := by decide +kernel
  refine ⟨hselect, by decide +kernel, View.data_of_produce rfl ?_⟩
  simp only [resourcesView, hselect]
  rw [Except.map, hcells]
  rfl

end Stocktake.General
