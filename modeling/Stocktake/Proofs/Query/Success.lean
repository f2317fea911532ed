import Stocktake.Proofs.Query.Meaning

/-!
# Queries that give a filter

What must hold for a query to give a filter, step by step of its compilation; and that the filter is made
by factories of the registry, whatever the query.  Main statement: `makes_of_build`.
-/

namespace Stocktake

/-- What a registry can make of patterns. -/
inductive Registry.Makes (registry : Registry) : Filter → Prop
  | all : Makes registry .all
  | decide {name pattern : String} {factory : DecideFactory} {f : Filter} :
      registry.decide.get? name = some factory → factory.build pattern = .ok f → Makes registry f
  | combine {name : String} {factory : CombineFactory} {children : List Filter} :
      registry.combine.get? name = some factory → (∀ child ∈ children, Makes registry child) →
      Makes registry (factory.build children)

namespace Query

open Yaml (Value)

variable {registry : Registry} {defaultFilter : String}

section Steps

theorem compileDecide_eq_ok {name pattern : String} {f : Filter} :
    compileDecide registry name pattern = .ok f ↔
      ∃ factory, registry.decide.get? name = some factory ∧ factory.build pattern = .ok f := by
  unfold compileDecide
  cases registry.decide.get? name with
  | none => simp only [reduceCtorEq, false_and, exists_false]
  | some factory => simp only [Option.some.injEq, exists_eq_left']

theorem compileCombine_eq_ok {name : String} {children : List Filter} {f : Filter} :
    compileCombine registry name children = .ok f ↔
      ∃ factory, registry.combine.get? name = some factory ∧ factory.build children = f := by
  unfold compileCombine
  cases registry.combine.get? name with
  | none => simp only [reduceCtorEq, false_and, exists_false]
  | some factory => simp only [Except.ok.injEq, Option.some.injEq, exists_eq_left']

/-- A map gives a filter only if it has one name. -/
theorem compileEntries_eq_ok {entries : List (Value × Value)} {f : Filter} :
    compileEntries registry defaultFilter entries = .ok f ↔
      ∃ name value, entries = [(.string name, value)] ∧
        compileNamed registry defaultFilter name value = .ok f := by
  constructor
  · intro h
    match entries, h with
    | [(key, value)], h =>
      cases key with
      | string name =>
        rw [compileEntries] at h
        exact ⟨name, value, rfl, h⟩
      | _ => cases h
    | _ :: _ :: _, h =>
      rw [compileEntries_many] at h
      cases h
  · rintro ⟨name, value, rfl, h⟩
    rw [compileEntries]
    exact h

theorem compileNamed_sequence_eq_ok {name : String} {items : List Value} {f : Filter} :
    compileNamed registry defaultFilter name (.sequence items) = .ok f ↔
      ∃ children, compileItems registry defaultFilter items = .ok children ∧
        compileCombine registry name children = .ok f := by
  rw [compileNamed]
  cases compileItems registry defaultFilter items with
  | error e => simp only [reduceCtorEq, false_and, exists_false]
  | ok children => simp only [Except.ok.injEq, exists_eq_left']

/-- An item of a list is passed over, or gives the first of the filters. -/
theorem compileItems_cons_eq_ok {item : Value} {rest : List Value} {children : List Filter} :
    compileItems registry defaultFilter (item :: rest) = .ok children ↔
      (compileItem registry defaultFilter item = none ∧
        compileItems registry defaultFilter rest = .ok children) ∨
      ∃ child others, compileItem registry defaultFilter item = some (.ok child) ∧
        compileItems registry defaultFilter rest = .ok others ∧ child :: others = children := by
  rw [compileItems]
  cases compileItem registry defaultFilter item with
  | none => simp only [true_and, reduceCtorEq, false_and, exists_false, or_false]
  | some answer =>
    cases answer with
    | error e => simp only [reduceCtorEq, Option.some.injEq, false_and, exists_false, or_false]
    | ok child =>
      cases compileItems registry defaultFilter rest with
      | error e => simp only [reduceCtorEq, false_and, and_false, exists_false, or_false]
      | ok others =>
        simp only [Except.ok.injEq, reduceCtorEq, false_and, false_or, Option.some.injEq,
          exists_and_left, exists_eq_left']

/-- A query that is neither a string nor a map is passed by everything. -/
theorem compileRoot_eq_ok {query : Value} {f : Filter} :
    compileRoot registry defaultFilter query = .ok f ↔
      (compileItem registry defaultFilter query = none ∧ f = .all) ∨
      compileItem registry defaultFilter query = some (.ok f) := by
  unfold compileRoot
  cases compileItem registry defaultFilter query with
  | none => simp only [Option.getD_none, Except.ok.injEq, true_and, reduceCtorEq, or_false, eq_comm]
  | some answer => simp only [Option.getD_some, reduceCtorEq, false_and, false_or, Option.some.injEq]

theorem build_eq_ok {settings : Settings} {text : String} {f : Filter} :
    build settings registry text = .ok f ↔
      ∃ query, readText text = .ok query ∧ compile settings registry query = .ok f := by
  unfold build
  cases readText text with
  | error e => simp only [reduceCtorEq, false_and, exists_false]
  | ok query => simp only [Except.ok.injEq, exists_eq_left']

end Steps

section Makes

theorem makes_of_compileDecide {name pattern : String} {f : Filter}
    (h : compileDecide registry name pattern = .ok f) : registry.Makes f := by
  obtain ⟨factory, hget, hbuild⟩ := compileDecide_eq_ok.1 h
  exact .decide hget hbuild

mutual

theorem makes_of_compileItem : ∀ (v : Value) (f : Filter),
    compileItem registry defaultFilter v = some (.ok f) → registry.Makes f
  | .string pattern, f, h => by
    rw [compileItem, Option.some.injEq] at h
    exact makes_of_compileDecide (compileDefault_eq_ok.1 h)
  | .mapping entries, f, h => by
    rw [compileItem, Option.some.injEq] at h
    obtain ⟨name, value, rfl, hvalue⟩ := compileEntries_eq_ok.1 h
    exact makes_of_compileNamed name value f hvalue
  | .null, f, h => nomatch h
  | .bool _, f, h => nomatch h
  | .number _, f, h => nomatch h
  | .sequence _, f, h => nomatch h
  | .tagged _ _, f, h => nomatch h

theorem makes_of_compileNamed (name : String) : ∀ (v : Value) (f : Filter),
    compileNamed registry defaultFilter name v = .ok f → registry.Makes f
  | .string pattern, f, h => by
    rw [compileNamed] at h
    exact makes_of_compileDecide h
  | .sequence items, f, h => by
    obtain ⟨children, hitems, hname⟩ := compileNamed_sequence_eq_ok.1 h
    obtain ⟨factory, hget, rfl⟩ := compileCombine_eq_ok.1 hname
    exact .combine hget (makes_of_compileItems items children hitems)
  | .null, f, h => by cases h; exact .all
  | .bool _, f, h => by cases h; exact .all
  | .number _, f, h => by cases h; exact .all
  | .mapping _, f, h => by cases h; exact .all
  | .tagged _ _, f, h => by cases h; exact .all

theorem makes_of_compileItems : ∀ (items : List Value) (children : List Filter),
    compileItems registry defaultFilter items = .ok children →
    ∀ child ∈ children, registry.Makes child
  | [], children, h => by
    cases h
    exact fun child hchild => nomatch hchild
  | item :: rest, children, h => by
    rcases compileItems_cons_eq_ok.1 h with ⟨-, hrest⟩ | ⟨first, others, hitem, hrest, rfl⟩
    · exact makes_of_compileItems rest children hrest
    · intro child hchild
      rcases List.mem_cons.1 hchild with rfl | hchild
      · exact makes_of_compileItem item child hitem
      · exact makes_of_compileItems rest others hrest child hchild

end

/-- The filter of a query is made by factories of the registry. -/
theorem makes_of_build {settings : Settings} {text : String} {f : Filter}
    (h : build settings registry text = .ok f) : registry.Makes f := by
  obtain ⟨query, -, hquery⟩ := build_eq_ok.1 h
  rcases compileRoot_eq_ok.1 hquery with ⟨-, rfl⟩ | hitem
  · exact .all
  · exact makes_of_compileItem _ f hitem

end Makes

end Query

end Stocktake
