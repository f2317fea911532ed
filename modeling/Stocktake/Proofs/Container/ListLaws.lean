import Stocktake.Proofs.Container.Freshness
import Stocktake.Proofs.Query.Meaning

/-!
# Laws of the views of lists and tables

The views of a list or a table are known by the positions that they keep.  Queries that are combined
combine these: a conjunction keeps what is left when one view is filtered by the other query, and a
disjunction and a negation keep what either view and what the first view does not.  Main statement:
`filtered_laws`.
-/

namespace Stocktake

/-- The combinators have their usual factories. -/
structure Registry.HasCombinators (registry : Registry) : Prop where
  conjunction : registry.combine.get? "and" = some .and
  disjunction : registry.combine.get? "or" = some .or
  negation : registry.combine.get? "not" = some .not

namespace Query

open Yaml (Value)

/-- The query that combines queries under a name. -/
def combination (name : String) (parts : List Value) : Value :=
  .mapping [(.string name, .sequence parts)]

section Compile

variable {registry : Registry} {defaultFilter : String}

/-- What is a query by itself is one as a part of a list. -/
theorem compileItem_of_part {query : Value} (hpart : isPart query = true) {f : Filter}
    (h : compileRoot registry defaultFilter query = .ok f) :
    compileItem registry defaultFilter query = some (.ok f) := by
  rw [isPart_eq registry defaultFilter, Option.isSome_iff_exists] at hpart
  obtain ⟨answer, hanswer⟩ := hpart
  rw [compileRoot, hanswer, Option.getD_some] at h
  rw [hanswer, h]

/-- Two queries that compile do so under a name that is known. -/
theorem compileRoot_combination {name : String} {factory : CombineFactory}
    (hfactory : registry.combine.get? name = some factory) {p q : Value} (hp : isPart p = true)
    (hq : isPart q = true) {f g : Filter} (hf : compileRoot registry defaultFilter p = .ok f)
    (hg : compileRoot registry defaultFilter q = .ok g) :
    compileRoot registry defaultFilter (combination name [p, q]) = .ok (factory.build [f, g]) := by
  have hitems : compileItems registry defaultFilter [p, q] = .ok [f, g] := by
    simp only [compileItems, compileItem_of_part hp hf, compileItem_of_part hq hg]
  rw [combination, compileRoot, compileItem, compileEntries, compileNamed, hitems, Option.getD_some]
  simp only [compileCombine, hfactory]

end Compile

end Query

section Views

variable (store : Store) (cache : TagCache)

/-- Filtering the records that are left by another filter keeps those that pass both, and finds no other
    tags. -/
theorem filterRecords_filterRecords {rs : List Record} (hcoherent : Record.Coherent rs) (f g : Filter) :
    let once := filterRecords store f cache rs
    let twice := filterRecords store g once.2 once.1
    twice.1 = rs.filter (fun r => f.keeps store once.2 r && g.keeps store once.2 r) ∧
      ∀ id, twice.2.get id = once.2.get id := by
  intro once twice
  have hgets : ∀ id, twice.2.get id = once.2.get id :=
    hcoherent.get_refreshAll_refreshAll_of_subset (List.filter_subset_self _) store cache
  refine ⟨?_, hgets⟩
  have htwice : twice.1 = (rs.filter (f.keeps store once.2)).filter (g.keeps store twice.2) := rfl
  rw [htwice, Filter.keeps_congr hgets, List.filter_filter]
  refine List.filter_congr fun r _ => ?_
  rw [Bool.and_comm]

namespace Container

variable {c : Container}

/-- Filtering a list or a table twice is filtering it by what passes both filters. -/
theorem filtered_filtered (hflat : c.shape ≠ .tree) (hcoherent : Record.Coherent c.records)
    {f g h : Filter}
    (hboth : ∀ r, h.keeps store (c.refresh store cache) r =
      (f.keeps store (c.refresh store cache) r && g.keeps store (c.refresh store cache) r)) :
    let once := c.filtered store f cache
    let twice := once.1.filtered store g once.2
    twice.1 = (c.filtered store h cache).1 ∧ ∀ id, twice.2.get id = (c.refresh store cache).get id := by
  intro once twice
  cases c with
  | list rs =>
    obtain ⟨hkept, hgets⟩ := filterRecords_filterRecords store cache hcoherent f g
    refine ⟨congrArg list ?_, hgets⟩
    exact hkept.trans (List.filter_congr fun r _ => (hboth r).symm)
  | table t =>
    obtain ⟨hkept, hgets⟩ := filterRecords_filterRecords store cache hcoherent f g
    refine ⟨congrArg (fun rs => table { t with records := rs }) ?_, hgets⟩
    exact hkept.trans (List.filter_congr fun r _ => (hboth r).symm)
  | tree root => exact absurd rfl hflat

/-- A list or a table keeps a position if the record there passes. -/
theorem holdsPassing_of_flat (hflat : c.shape ≠ .tree) (passes : Record → Bool) (i : Nat) :
    c.holdsPassing passes [i] = c.records[i]?.any passes := by
  cases c with
  | list rs => rfl
  | table t => rfl
  | tree root => exact absurd rfl hflat

end Container

end Views

/-- A session keeps the view under a name, and the source as it was under another one. -/
theorem Session.filter_eq {s : Session} {source query : String} {wrapper : Option Bool} {f : Filter}
    (hf : s.compile wrapper query = .ok f) (into : String) :
    s.filter source query wrapper into = .ok
      (let view := (s.container source).filtered s.world.store f s.world.cache
      s.keep into view.1 view.2) := by
  rw [Session.filter, hf]
  rfl

theorem Session.container_keep (s : Session) (into name : String) (c : Container) (cache : TagCache) :
    (s.keep into c cache).container name = if name = into then c else s.container name := by
  rw [keep, container, container, Dict.get?_insert]
  by_cases h : name = into
  · rw [if_pos h, if_pos h, Option.getD_some]
  · rw [if_neg h, if_neg h]

open Query (combination compileRoot isPart)

/-- The view of a list or a table keeps the positions at which a record passes after a look at its tags, in
    their order, with the same records and columns.  Queries that compile do so combined.  Filtering by one
    and then by the other keeps what their conjunction keeps, in whichever order they stand, and sees the
    same tags; their disjunction keeps what either keeps, and a negation what its first part does not.  A
    session keeps the source of a view as it was.  In the container a number stands for one record, as it
    does where the records have been handed out. -/
theorem filtered_laws {registry : Registry} (hr : registry.HasCombinators) {defaultFilter : String}
    {p q : Yaml.Value} (hp : isPart p = true) (hq : isPart q = true) {f g : Filter}
    (hf : compileRoot registry defaultFilter p = .ok f)
    (hg : compileRoot registry defaultFilter q = .ok g) (store : Store) (cache : TagCache)
    {c : Container} (hflat : c.shape ≠ .tree) (hcoherent : Record.Coherent c.records) :
    let looked := c.refresh store cache
    let view := fun h : Filter => c.filtered store h cache
    let kept := fun h : Filter => c.holdsPassing (h.keeps store looked)
    let twice := (view f).1.filtered store g (view f).2
    (∀ h, view h = (c.shownAt (kept h), looked) ∧
      ∀ i, kept h [i] = c.records[i]?.any (h.keeps store looked)) ∧
    (∃ conj conj' disj neg,
      compileRoot registry defaultFilter (combination "and" [p, q]) = .ok conj ∧
      compileRoot registry defaultFilter (combination "and" [q, p]) = .ok conj' ∧
      compileRoot registry defaultFilter (combination "or" [p, q]) = .ok disj ∧
      compileRoot registry defaultFilter (combination "not" [p, q]) = .ok neg ∧
      twice.1 = (view conj).1 ∧ twice.1 = (view conj').1 ∧
      (∀ id, twice.2.get id = looked.get id) ∧
      (∀ i, kept disj [i] = true ↔ kept f [i] = true ∨ kept g [i] = true) ∧
      ∀ i < c.records.length, kept neg [i] = true ↔ ¬ kept f [i] = true) ∧
    ∀ (s : Session) (source query into : String) (wrapper : Option Bool) (h : Filter),
      s.world.store = store → s.world.cache = cache → s.container source = c →
      s.compile wrapper query = .ok h → source ≠ into →
      ∃ s', s.filter source query wrapper into = .ok s' ∧ s'.container into = (view h).1 ∧
        s'.container source = c := by
  intro looked view kept twice
  have hkept : ∀ h i, kept h [i] = c.records[i]?.any (h.keeps store looked) :=
    fun h => Container.holdsPassing_of_flat hflat _
  refine ⟨fun h => ⟨Container.filtered_eq store h cache c, hkept h⟩, ?_, ?_⟩
  · have hboth : ∀ r, (Filter.and [f, g]).keeps store looked r =
        (f.keeps store looked r && g.keeps store looked r) := by
      intro r
      rw [Filter.keeps_and, List.all_cons, List.all_cons, List.all_nil, Bool.and_true]
    have hboth' : ∀ r, (Filter.and [g, f]).keeps store looked r =
        (f.keeps store looked r && g.keeps store looked r) := by
      intro r
      rw [Filter.keeps_and, List.all_cons, List.all_cons, List.all_nil, Bool.and_true, Bool.and_comm]
    obtain ⟨htwice, hgets⟩ := Container.filtered_filtered store cache hflat hcoherent hboth
    refine ⟨.and [f, g], .and [g, f], .or [f, g], .not [f, g],
      Query.compileRoot_combination hr.conjunction hp hq hf hg,
      Query.compileRoot_combination hr.conjunction hq hp hg hf,
      Query.compileRoot_combination hr.disjunction hp hq hf hg,
      Query.compileRoot_combination hr.negation hp hq hf hg,
      htwice, (Container.filtered_filtered store cache hflat hcoherent hboth').1, hgets, ?_, ?_⟩
    · intro i
      rw [hkept, hkept, hkept]
      cases c.records[i]? with
      | none => simp
      | some r => simp [Filter.keeps_or]
    · intro i hi
      rw [hkept, hkept, List.getElem?_eq_getElem hi, Option.any_some, Option.any_some,
        Filter.keeps_not_cons, Bool.not_eq_true', Bool.not_eq_true]
  · rintro s source query into wrapper h rfl rfl rfl hcompile hinto
    refine ⟨_, Session.filter_eq hcompile into, ?_, ?_⟩
    · rw [Session.container_keep, if_pos rfl]
    · rw [Session.container_keep, if_neg hinto]

/-- Of the hidden records of a table, one stands twice, and the store does not tell the tags of another;
    the first is left when the table is filtered by its subject too. -/
theorem filtered_laws_hiddenRows :
    let registry := (Registry.withCombinators.enterDecide .tag).enterDecide .uri
    let a : Record := { id := 0, display := "a", reference := some { uri := "urn:a" } }
    let b : Record := { id := 1, display := "b", reference := some { uri := "urn:b" } }
    let plain : Record := { id := 2, display := "plain" }
    let c : Container := .table { records := [a, b, plain, a], explicit := some ["Name"] }
    let cache : TagCache := ⟨#[[], [⟨"hidden", ""⟩], []]⟩
    let p : Yaml.Value := .mapping [(.string "tag", .string "hidden")]
    let q : Yaml.Value := .mapping [(.string "uri", .string "urn:a")]
    let once := c.filtered taciturnStore (.tag "hidden") cache
    let twice := once.1.filtered taciturnStore (.uri "urn:a") once.2
    registry.HasCombinators ∧ isPart p = true ∧ isPart q = true ∧
      compileRoot registry "text" p = .ok (.tag "hidden") ∧
      compileRoot registry "text" q = .ok (.uri "urn:a") ∧
      c.shape ≠ .tree ∧ Record.Coherent c.records ∧
      once.1.records = [a, b, a] ∧ twice.1.records = [a, a] ∧
      ∃ conj, compileRoot registry "text" (combination "and" [p, q]) = .ok conj ∧
        twice.1 = (c.filtered taciturnStore conj cache).1 := by
  intro registry a b plain c cache p q once twice
  have hr : registry.HasCombinators := {
    conjunction := rfl
    disjunction := rfl
    negation := rfl }
  have hflat : c.shape ≠ .tree := by decide
  have hcoherent : Record.Coherent c.records := by
    unfold Record.Coherent
    decide
  have hp : isPart p = true := rfl
  have hq : isPart q = true := rfl
  have hf : compileRoot registry "text" p = .ok (.tag "hidden") := rfl
  have hg : compileRoot registry "text" q = .ok (.uri "urn:a") := rfl
  obtain ⟨-, ⟨conj, -, -, -, hconj, -, -, -, htwice, -⟩, -⟩ :=
    filtered_laws hr hp hq hf hg taciturnStore cache hflat hcoherent
  exact ⟨hr, hp, hq, hf, hg, hflat, hcoherent, rfl, rfl, conj, hconj, htwice⟩

end Stocktake
