import Stocktake.Module.Standard

/-!
# What a catalog finds

Modules enter their factories one after the other, so that a catalog finds under every key the factory
that was entered last.  No module enters a combinator: those of a catalog are always the usual ones.
Main statements: `Catalog.get?_ofModules`, `Catalog.combine_ofModules`.
-/

namespace Stocktake

namespace Registry

theorem get?_foldl_enterDecide (factories : List DecideFactory) (registry : Registry) (key : String) :
    (factories.foldl enterDecide registry).decide.get? key =
      (factories.reverse.find? fun f => f.key == key).or (registry.decide.get? key) := by
  induction factories generalizing registry with
  | nil => rfl
  | cons f rest ih =>
    rw [List.foldl_cons, ih, List.reverse_cons, List.find?_append]
    cases hlater : rest.reverse.find? fun f => f.key == key with
    | some later => rfl
    | none =>
      -- No later factory has the key, so that the first one counts, if it has it.
      have hentered : (registry.enterDecide f).decide.get? key =
          if key = f.key then some f else registry.decide.get? key :=
        Dict.get?_insert registry.decide f.key key f
      rw [hentered]
      by_cases hkey : f.key = key
      · simp [hkey]
      · simp [hkey, Ne.symm hkey]

theorem combine_foldl_enterDecide (factories : List DecideFactory) (registry : Registry) :
    (factories.foldl enterDecide registry).combine = registry.combine := by
  induction factories generalizing registry with
  | nil => rfl
  | cons f rest ih =>
    rw [List.foldl_cons, ih]
    rfl

end Registry

namespace Catalog

/-- Under a key the last factory of all modules is found. -/
theorem get?_ofModules (modules : List Module) (key : String) :
    (ofModules modules).registry.decide.get? key =
      (modules.flatMap Module.filters).reverse.find? fun f => f.key == key := by
  have hnothing : Registry.withCombinators.decide.get? key = none := rfl
  rw [ofModules, Registry.get?_foldl_enterDecide, hnothing, Option.or_none]

/-- What later modules declare hides what earlier ones do. -/
theorem get?_ofModules_append (earlier later : List Module) (key : String) :
    (ofModules (earlier ++ later)).registry.decide.get? key =
      ((ofModules later).registry.decide.get? key).or ((ofModules earlier).registry.decide.get? key) := by
  rw [get?_ofModules, get?_ofModules, get?_ofModules, List.flatMap_append, List.reverse_append,
    List.find?_append]

theorem get?_ofModules_eq_none {modules : List Module} {key : String} :
    (ofModules modules).registry.decide.get? key = none ↔
      ∀ m ∈ modules, ∀ f ∈ m.filters, f.key ≠ key := by
  rw [get?_ofModules, List.find?_eq_none]
  constructor
  · intro h m hm f hf
    have hmem : f ∈ (modules.flatMap Module.filters).reverse :=
      List.mem_reverse.2 (List.mem_flatMap.2 ⟨m, hm, hf⟩)
    simpa using h f hmem
  · intro h f hf
    obtain ⟨m, hm, hfm⟩ := List.mem_flatMap.1 (List.mem_reverse.1 hf)
    simpa using h m hm f hfm

/-- The combinators are the usual ones, whatever the modules are. -/
theorem combine_ofModules (modules : List Module) :
    (ofModules modules).registry.combine = Registry.withCombinators.combine := by
  rw [ofModules, Registry.combine_foldl_enterDecide]

/-- The standard modules have the usual `tag`. -/
theorem get?_standard_tag (hiddenTag : String) :
    (standard hiddenTag).registry.decide.get? "tag" = some .tag := by
  rw [standard, get?_ofModules]
  rfl

end Catalog

end Stocktake
