import Mathlib
import Stocktake.Proofs.Module.Aggregation
import Stocktake.Proofs.Query.Success

/-!
# What a query looks up

A query looks up the default filter for a string, a decide filter for a name over a string and a combine
filter for a name over a list; a name over anything else is looked up nowhere.  Registries that find the
same there give the same answer, whatever else they hold, so that further modules change nothing for a
query that names none of their filters.  Main statements: `finds_of_build`, `build_depends_on_consulted`.
-/

namespace Stocktake

/-- A name that is looked up in one of the two tables of a registry. -/
inductive Lookup
  | decide (name : String)
  | combine (name : String)
  deriving DecidableEq, Repr

namespace Registry

/-- Whether two registries have the same factory for a lookup, or both none. -/
def AgreeOn (registry registry' : Registry) : Lookup → Prop
  | .decide name => registry.decide.get? name = registry'.decide.get? name
  | .combine name => registry.combine.get? name = registry'.combine.get? name

/-- Whether there is a factory for a lookup. -/
def finds (registry : Registry) : Lookup → Bool
  | .decide name => registry.decide.has name
  | .combine name => registry.combine.has name

end Registry

namespace Query

open Yaml (Value)

section Lookups

variable (defaultFilter : String)

mutual

/-- What the filter of a string or a map looks up, in order; a value of another kind has none. -/
def lookups : Value → List Lookup
  | .string _ => [.decide defaultFilter]
  | .mapping entries => entryLookups entries
  | _ => []

/-- What a map looks up. -/
def entryLookups : List (Value × Value) → List Lookup
  | [(.string name, value)] => namedLookups name value
  | _ => []

/-- What a name over a value looks up. -/
def namedLookups (name : String) : Value → List Lookup
  | .string _ => [.decide name]
  | .sequence items => itemLookups items ++ [.combine name]
  | _ => []

/-- What the items of a list look up. -/
def itemLookups : List Value → List Lookup
  | [] => []
  | item :: rest => lookups item ++ itemLookups rest

end

/-- The wrapper looks up three names more. -/
theorem lookups_wrap (hiddenTag : String) (query : Value) :
    lookups defaultFilter (wrap hiddenTag query) =
      [.decide "tag", .combine "not"] ++ lookups defaultFilter query ++ [.combine "and"] := by
  simp only [wrap, lookups, entryLookups, namedLookups, itemLookups, List.append_nil,
    List.nil_append, List.cons_append]

end Lookups

/-- What a query text looks up; one that cannot be read looks up nothing. -/
def consulted (settings : Settings) (text : String) : List Lookup :=
  match readText text with
  | .error _ => []
  | .ok query =>
    if settings.useWrapper then
      [.decide "tag", .combine "not"] ++ lookups settings.defaultFilter query ++ [.combine "and"]
    else lookups settings.defaultFilter query

/-- An item that is passed over looks up nothing. -/
theorem lookups_of_compileItem_none {registry : Registry} {defaultFilter : String} {v : Value}
    (h : compileItem registry defaultFilter v = none) : lookups defaultFilter v = [] := by
  cases v with
  | string pattern => rw [compileItem] at h; cases h
  | mapping entries => rw [compileItem] at h; cases h
  | _ => rfl

section Agree

variable {registry registry' : Registry} {defaultFilter : String}

theorem compileDefault_congr (h : registry.AgreeOn registry' (.decide defaultFilter))
    (pattern : String) :
    compileDefault registry defaultFilter pattern = compileDefault registry' defaultFilter pattern := by
  unfold compileDefault
  rw [show registry.decide.get? defaultFilter = registry'.decide.get? defaultFilter from h]

theorem compileDecide_congr {name : String} (h : registry.AgreeOn registry' (.decide name))
    (pattern : String) :
    compileDecide registry name pattern = compileDecide registry' name pattern := by
  unfold compileDecide
  rw [show registry.decide.get? name = registry'.decide.get? name from h]

theorem compileCombine_congr {name : String} (h : registry.AgreeOn registry' (.combine name))
    (children : List Filter) :
    compileCombine registry name children = compileCombine registry' name children := by
  unfold compileCombine
  rw [show registry.combine.get? name = registry'.combine.get? name from h]

-- By recursion on the query, along the recursion of `compileItem`: what a part looks up is among what
-- the whole does, so that the agreement goes down to the parts.
mutual

theorem compileItem_congr : ∀ v : Value, (∀ l ∈ lookups defaultFilter v, registry.AgreeOn registry' l) →
    compileItem registry defaultFilter v = compileItem registry' defaultFilter v
  | .string pattern, h => by
    rw [compileItem, compileItem, compileDefault_congr (h _ (by simp [lookups]))]
  | .mapping entries, h => by
    rw [lookups] at h
    rw [compileItem, compileItem, compileEntries_congr entries h]
  | .null, _ => rfl
  | .bool _, _ => rfl
  | .number _, _ => rfl
  | .sequence _, _ => rfl
  | .tagged _ _, _ => rfl

theorem compileEntries_congr : ∀ entries : List (Value × Value),
    (∀ l ∈ entryLookups defaultFilter entries, registry.AgreeOn registry' l) →
    compileEntries registry defaultFilter entries = compileEntries registry' defaultFilter entries
  | [], _ => rfl
  | [(key, value)], h => by
    cases key with
    | string name =>
      rw [entryLookups] at h
      rw [compileEntries, compileEntries, compileNamed_congr name value h]
    | _ => rfl
  | a :: b :: rest, _ => by rw [compileEntries_many, compileEntries_many]

theorem compileNamed_congr (name : String) : ∀ v : Value,
    (∀ l ∈ namedLookups defaultFilter name v, registry.AgreeOn registry' l) →
    compileNamed registry defaultFilter name v = compileNamed registry' defaultFilter name v
  | .string pattern, h => by
    rw [compileNamed, compileNamed, compileDecide_congr (h _ (by simp [namedLookups]))]
  | .sequence items, h => by
    rw [namedLookups] at h
    have hitems := compileItems_congr items fun l hl => h l (List.mem_append_left _ hl)
    have hname : registry.AgreeOn registry' (.combine name) :=
      h _ (List.mem_append_right _ List.mem_cons_self)
    rw [compileNamed, compileNamed, hitems]
    cases compileItems registry' defaultFilter items with
    | error e => rfl
    | ok children => exact compileCombine_congr hname children
  | .null, _ => rfl
  | .bool _, _ => rfl
  | .number _, _ => rfl
  | .mapping _, _ => rfl
  | .tagged _ _, _ => rfl

theorem compileItems_congr : ∀ items : List Value,
    (∀ l ∈ itemLookups defaultFilter items, registry.AgreeOn registry' l) →
    compileItems registry defaultFilter items = compileItems registry' defaultFilter items
  | [], _ => rfl
  | item :: rest, h => by
    rw [itemLookups] at h
    have hitem := compileItem_congr item fun l hl => h l (List.mem_append_left _ hl)
    have hrest := compileItems_congr rest fun l hl => h l (List.mem_append_right _ hl)
    rw [compileItems, compileItems, hitem, hrest]

end

theorem compileRoot_congr {query : Value}
    (h : ∀ l ∈ lookups defaultFilter query, registry.AgreeOn registry' l) :
    compileRoot registry defaultFilter query = compileRoot registry' defaultFilter query := by
  rw [compileRoot, compileRoot, compileItem_congr query h]

/-- What a text looks up is what the query in it does, with the wrapper if there is one. -/
theorem consulted_of_readText {settings : Settings} {text : String} {query : Value}
    (h : readText text = .ok query) :
    consulted settings text = lookups settings.defaultFilter
      (if settings.useWrapper then wrap settings.hiddenTag query else query) := by
  unfold consulted
  cases hwrapper : settings.useWrapper with
  | true => simp only [h, if_true, lookups_wrap]
  | false => simp only [h, Bool.false_eq_true, if_false]

/-- Registries that agree on what a query looks up give the same filter or the same error. -/
theorem build_congr {settings : Settings} {text : String}
    (h : ∀ l ∈ consulted settings text, registry.AgreeOn registry' l) :
    build settings registry text = build settings registry' text := by
  unfold build
  cases hread : readText text with
  | error e => rfl
  | ok query =>
    rw [consulted_of_readText hread] at h
    exact compileRoot_congr h

end Agree

section Found

variable {registry : Registry} {defaultFilter : String}

theorem finds_of_compileDecide {name pattern : String} {f : Filter}
    (h : compileDecide registry name pattern = .ok f) : registry.finds (.decide name) := by
  obtain ⟨factory, hget, -⟩ := compileDecide_eq_ok.1 h
  rw [Registry.finds, Dict.has, hget, Option.isSome_some]

theorem finds_of_compileCombine {name : String} {children : List Filter} {f : Filter}
    (h : compileCombine registry name children = .ok f) : registry.finds (.combine name) := by
  obtain ⟨factory, hget, -⟩ := compileCombine_eq_ok.1 h
  rw [Registry.finds, Dict.has, hget, Option.isSome_some]

mutual

theorem finds_of_compileItem : ∀ (v : Value) (f : Filter),
    compileItem registry defaultFilter v = some (.ok f) →
    ∀ l ∈ lookups defaultFilter v, registry.finds l
  | .string pattern, f, h => by
    rw [compileItem, Option.some.injEq] at h
    intro l hl
    obtain rfl := List.mem_singleton.1 hl
    exact finds_of_compileDecide (compileDefault_eq_ok.1 h)
  | .mapping entries, f, h => by
    rw [compileItem, Option.some.injEq] at h
    obtain ⟨name, value, rfl, hvalue⟩ := compileEntries_eq_ok.1 h
    exact finds_of_compileNamed name value f hvalue
  | .null, f, h => nomatch h
  | .bool _, f, h => nomatch h
  | .number _, f, h => nomatch h
  | .sequence _, f, h => nomatch h
  | .tagged _ _, f, h => nomatch h

theorem finds_of_compileNamed (name : String) : ∀ (v : Value) (f : Filter),
    compileNamed registry defaultFilter name v = .ok f →
    ∀ l ∈ namedLookups defaultFilter name v, registry.finds l
  | .string pattern, f, h => by
    rw [compileNamed] at h
    intro l hl
    obtain rfl := List.mem_singleton.1 hl
    exact finds_of_compileDecide h
  | .sequence items, f, h => by
    obtain ⟨children, hitems, hname⟩ := compileNamed_sequence_eq_ok.1 h
    intro l hl
    rcases List.mem_append.1 hl with hl | hl
    · exact finds_of_compileItems items children hitems l hl
    · obtain rfl := List.mem_singleton.1 hl
      exact finds_of_compileCombine hname
  | .null, _, _ => fun _ hl => nomatch hl
  | .bool _, _, _ => fun _ hl => nomatch hl
  | .number _, _, _ => fun _ hl => nomatch hl
  | .mapping _, _, _ => fun _ hl => nomatch hl
  | .tagged _ _, _, _ => fun _ hl => nomatch hl

theorem finds_of_compileItems : ∀ (items : List Value) (children : List Filter),
    compileItems registry defaultFilter items = .ok children →
    ∀ l ∈ itemLookups defaultFilter items, registry.finds l
  | [], _, _ => fun _ hl => nomatch hl
  | item :: rest, children, h => by
    rw [itemLookups]
    intro l hl
    rcases compileItems_cons_eq_ok.1 h with ⟨hitem, hrest⟩ | ⟨first, others, hitem, hrest, -⟩
    · rw [lookups_of_compileItem_none hitem, List.nil_append] at hl
      exact finds_of_compileItems rest children hrest l hl
    · rcases List.mem_append.1 hl with hl | hl
      · exact finds_of_compileItem item first hitem l hl
      · exact finds_of_compileItems rest others hrest l hl

end

/-- A query gives a filter only if everything is found that it looks up: none of it is idle. -/
theorem finds_of_build {settings : Settings} {text : String} {f : Filter}
    (h : build settings registry text = .ok f) : ∀ l ∈ consulted settings text, registry.finds l := by
  obtain ⟨query, hread, hquery⟩ := build_eq_ok.1 h
  rw [consulted_of_readText hread]
  rcases compileRoot_eq_ok.1 hquery with ⟨hitem, -⟩ | hitem
  · rw [lookups_of_compileItem_none hitem]
    exact fun _ hl => nomatch hl
  · exact finds_of_compileItem _ f hitem

end Found

/-- Only what a query looks up counts for it: registries that agree there give the same filter or the same
    error, and modules that declare nothing of it change nothing when they are loaded among others.  All
    of it counts, since a query that gives a filter has found all of it. -/
theorem build_depends_on_consulted (settings : Settings) (text : String) :
    (∀ registry registry' : Registry, (∀ l ∈ consulted settings text, registry.AgreeOn registry' l) →
      build settings registry text = build settings registry' text) ∧
    (∀ before more after : List Module,
      (∀ name, .decide name ∈ consulted settings text → ¬ Declares more name) →
      build settings (Catalog.ofModules (before ++ more ++ after)).registry text =
        build settings (Catalog.ofModules (before ++ after)).registry text) ∧
    ∀ (registry : Registry) (f : Filter), build settings registry text = .ok f →
      ∀ l ∈ consulted settings text, registry.finds l := by
  refine ⟨fun registry registry' h => build_congr h, ?_, fun registry f h => finds_of_build h⟩
  intro before more after h
  apply build_congr
  intro l hl
  cases l with
  | decide name => exact Catalog.get?_ofModules_of_not_declares (h name hl)
  | combine name =>
    have hcombine : ∀ modules, (Catalog.ofModules modules).registry.combine.get? name =
        Registry.withCombinators.combine.get? name := by
      intro modules
      rw [Catalog.combine_ofModules]
    exact (hcombine _).trans (hcombine _).symm

/-- A module with another `text`. -/
def labels : Module where
  name := "Labels"
  description := "Labels of resources"
  filters := [.ask "text" "Label" "The ask query holds"]

/-- Where `name` is the default, neither a first nor another `text` counts. -/
theorem build_depends_on_consulted_labels :
    let settings : Settings := { defaultFilter := "name" }
    let registry := (Registry.withCombinators.enterDecide .tag).enterDecide .displayName
    let registry' := registry.enterDecide .text
    consulted settings "a" = [.decide "tag", .combine "not", .decide "name", .combine "and"] ∧
      ¬ registry.AgreeOn registry' (.decide "text") ∧
      (∀ l ∈ consulted settings "a", registry.AgreeOn registry' l) ∧
      build settings registry "a" = build settings registry' "a" ∧
      (∀ name, .decide name ∈ consulted settings "a" → ¬ Declares [labels] name) ∧
      build settings (Catalog.ofModules (standardModules "hidden" ++ [labels] ++ [])).registry "a" =
        build settings (Catalog.ofModules (standardModules "hidden" ++ [])).registry "a" ∧
      build settings registry "a" = .ok (.and [.not [.tag "hidden"], .name "a"]) ∧
      ∀ l ∈ consulted settings "a", registry.finds l := by
  intro settings registry registry'
  have hread : Yaml.read "a" = some (.string "a") := by cbv
  have hconsulted : consulted settings "a" =
      [.decide "tag", .combine "not", .decide "name", .combine "and"] := by
    simp only [consulted, readText, hread]
    rfl
  have hdiffer : ¬ registry.AgreeOn registry' (.decide "text") := by
    intro h
    cases h
  have hagree : ∀ l ∈ consulted settings "a", registry.AgreeOn registry' l := by
    rw [hconsulted]
    intro l hl
    simp only [List.mem_cons, List.not_mem_nil, or_false] at hl
    rcases hl with rfl | rfl | rfl | rfl
    · rfl
    · rfl
    · rfl
    · rfl
  have hdeclares : ∀ name, .decide name ∈ consulted settings "a" → ¬ Declares [labels] name := by
    rw [hconsulted]
    rintro name hname ⟨m, hm, f, hf, rfl⟩
    obtain rfl := List.mem_singleton.1 hm
    obtain rfl := List.mem_singleton.1 hf
    exact absurd hname (by decide)
  have hbuild : build settings registry "a" = .ok (.and [.not [.tag "hidden"], .name "a"]) := by
    simp only [build, readText, hread]
    rfl
  obtain ⟨hsame, hmore, hfound⟩ := build_depends_on_consulted settings "a"
  exact ⟨hconsulted, hdiffer, hagree, hsame registry registry' hagree, hdeclares,
    hmore (standardModules "hidden") [labels] [] hdeclares, hbuild, hfound registry _ hbuild⟩

end Query

end Stocktake
