import Stocktake.Proofs.Module.Catalog

/-!
# What loaders bring

A catalog has the modules of its loaders one after the other, with all that they bundle.  Under a key the
factory counts that is declared last, first by the order of the modules and then within the module, and a
listing has these factories in the order of their keys.  The combinations stand in a table of their own,
which no module enters.  Main statement: `aggregates_ofLoaders`.
-/

namespace Stocktake

/-- Some module declares a factory under the key. -/
def Declares (modules : List Module) (key : String) : Prop :=
  ∃ m ∈ modules, ∃ f ∈ m.filters, f.key = key

/-- The factory stands under the key, and neither behind it in its module nor in a later module there is
    one with that key. -/
def DeclaredLast (modules : List Module) (key : String) (f : DecideFactory) : Prop :=
  ∃ earlier m later before after,
    modules = earlier ++ m :: later ∧ m.filters = before ++ f :: after ∧ f.key = key ∧
    (∀ g ∈ after, g.key ≠ key) ∧ ¬ Declares later key

section DeclaredLast

variable {modules : List Module} {m : Module} {key : String} {f : DecideFactory}

theorem not_declares_iff : ¬ Declares modules key ↔ ∀ m ∈ modules, ∀ f ∈ m.filters, f.key ≠ key := by
  simp only [Declares, not_exists, not_and, ne_eq]

theorem DeclaredLast.declares (h : DeclaredLast modules key f) : Declares modules key := by
  obtain ⟨earlier, m, later, before, after, rfl, hfilters, hkey, -, -⟩ := h
  refine ⟨m, List.mem_append_right _ List.mem_cons_self, f, ?_, hkey⟩
  rw [hfilters]
  exact List.mem_append_right _ List.mem_cons_self

theorem DeclaredLast.key_eq (h : DeclaredLast modules key f) : f.key = key := by
  obtain ⟨-, -, -, -, -, -, -, hkey, -, -⟩ := h
  exact hkey

/-- A module in front changes nothing about a key that is declared behind it. -/
theorem declaredLast_cons_of_declares (h : Declares modules key) :
    DeclaredLast (m :: modules) key f ↔ DeclaredLast modules key f := by
  constructor
  · rintro ⟨earlier, m', later, before, after, hmodules, hfilters, hkey, hafter, hlater⟩
    cases earlier with
    | nil =>
      obtain ⟨-, rfl⟩ := List.cons.inj hmodules
      exact absurd h hlater
    | cons first earlier =>
      obtain ⟨-, rfl⟩ := List.cons.inj hmodules
      exact ⟨earlier, m', later, before, after, rfl, hfilters, hkey, hafter, hlater⟩
  · rintro ⟨earlier, m', later, before, after, rfl, hfilters, hkey, hafter, hlater⟩
    exact ⟨m :: earlier, m', later, before, after, rfl, hfilters, hkey, hafter, hlater⟩

/-- A key that is declared nowhere behind a module is left to that module. -/
theorem declaredLast_cons_of_not_declares (h : ¬ Declares modules key) :
    DeclaredLast (m :: modules) key f ↔
      ∃ before after, m.filters = before ++ f :: after ∧ f.key = key ∧ ∀ g ∈ after, g.key ≠ key := by
  constructor
  · rintro ⟨earlier, m', later, before, after, hmodules, hfilters, hkey, hafter, hlater⟩
    cases earlier with
    | nil =>
      obtain ⟨rfl, -⟩ := List.cons.inj hmodules
      exact ⟨before, after, hfilters, hkey, hafter⟩
    | cons first earlier =>
      obtain ⟨-, rfl⟩ := List.cons.inj hmodules
      have hlast : DeclaredLast (earlier ++ m' :: later) key f :=
        ⟨earlier, m', later, before, after, rfl, hfilters, hkey, hafter, hlater⟩
      exact absurd hlast.declares h
  · rintro ⟨before, after, hfilters, hkey, hafter⟩
    exact ⟨[], m, modules, before, after, rfl, hfilters, hkey, hafter, h⟩

end DeclaredLast

namespace Registry

/-- Every decide factory stands under its own key. -/
def Keyed (registry : Registry) : Prop := ∀ x ∈ registry.decide.entries, x.2.key = x.1

variable {registry : Registry}

theorem Keyed.enterDecide (h : registry.Keyed) (f : DecideFactory) : (registry.enterDecide f).Keyed := by
  intro x hx
  rcases Dict.mem_put hx with rfl | hold
  · rfl
  · exact h x hold

theorem Keyed.foldl_enterDecide (h : registry.Keyed) (factories : List DecideFactory) :
    (factories.foldl Registry.enterDecide registry).Keyed := by
  induction factories generalizing registry with
  | nil => exact h
  | cons f rest ih => exact ih (h.enterDecide f)

/-- A listing has the factories that are found under their keys. -/
theorem Keyed.mem_decideFactories (h : registry.Keyed) {f : DecideFactory} :
    f ∈ registry.decideFactories ↔ registry.decide.get? f.key = some f := by
  constructor
  · intro hf
    obtain ⟨x, hx, rfl⟩ := List.mem_map.1 hf
    have hfound := Dict.lookup_of_mem registry.decide.sorted hx
    rw [h x hx]
    exact hfound
  · intro hf
    exact List.mem_map.2 ⟨(f.key, f), Dict.mem_of_lookup hf, rfl⟩

theorem Keyed.pairwise_decideFactories (h : registry.Keyed) :
    registry.decideFactories.Pairwise fun f g => f.key < g.key := by
  refine List.pairwise_map.2 (registry.decide.sorted.imp_of_mem ?_)
  intro x y hx hy hlt
  rw [h x hx, h y hy]
  exact hlt

end Registry

namespace Catalog

theorem keyed_ofModules (modules : List Module) : (ofModules modules).registry.Keyed := by
  have hempty : Registry.withCombinators.Keyed := fun x hx => nomatch hx
  exact hempty.foldl_enterDecide _

theorem get?_ofModules_singleton {m : Module} {key : String} {f : DecideFactory} :
    (ofModules [m]).registry.decide.get? key = some f ↔
      ∃ before after, m.filters = before ++ f :: after ∧ f.key = key ∧ ∀ g ∈ after, g.key ≠ key := by
  rw [get?_ofModules, List.flatMap_singleton, List.find?_eq_some_iff_append]
  constructor
  · rintro ⟨hkey, after, before, hfilters, hafter⟩
    refine ⟨before.reverse, after.reverse, ?_, beq_iff_eq.1 hkey, ?_⟩
    · rw [List.reverse_eq_iff] at hfilters
      simpa using hfilters
    · intro g hg
      simpa using hafter g (List.mem_reverse.1 hg)
  · rintro ⟨before, after, hfilters, hkey, hafter⟩
    refine ⟨beq_iff_eq.2 hkey, after.reverse, before.reverse, ?_, ?_⟩
    · rw [hfilters]
      simp
    · intro g hg
      simpa using hafter g (List.mem_reverse.1 hg)

/-- Under a key the factory is found that is declared last. -/
theorem get?_ofModules_eq_some {modules : List Module} {key : String} {f : DecideFactory} :
    (ofModules modules).registry.decide.get? key = some f ↔ DeclaredLast modules key f := by
  induction modules with
  | nil =>
    constructor
    · intro h
      cases h
    · intro h
      obtain ⟨m, hm, -⟩ := h.declares
      cases hm
  | cons m rest ih =>
    have hsplit : (ofModules (m :: rest)).registry.decide.get? key =
        ((ofModules rest).registry.decide.get? key).or ((ofModules [m]).registry.decide.get? key) :=
      get?_ofModules_append [m] rest key
    rw [hsplit]
    by_cases hrest : Declares rest key
    · have hsome : (ofModules rest).registry.decide.get? key ≠ none := by
        intro hnone
        exact not_declares_iff.2 (get?_ofModules_eq_none.1 hnone) hrest
      obtain ⟨g, hg⟩ := Option.ne_none_iff_exists'.1 hsome
      rw [declaredLast_cons_of_declares hrest, ← ih, hg, Option.some_or]
    · have hnone := get?_ofModules_eq_none.2 (not_declares_iff.1 hrest)
      rw [declaredLast_cons_of_not_declares hrest, hnone, Option.none_or, get?_ofModules_singleton]

theorem get?_ofModules_eq_none_iff {modules : List Module} {key : String} :
    (ofModules modules).registry.decide.get? key = none ↔ ¬ Declares modules key := by
  rw [get?_ofModules_eq_none, not_declares_iff]

/-- Modules that declare nothing under a key change nothing about it. -/
theorem get?_ofModules_of_not_declares {before more after : List Module} {key : String}
    (h : ¬ Declares more key) :
    (ofModules (before ++ more ++ after)).registry.decide.get? key =
      (ofModules (before ++ after)).registry.decide.get? key := by
  rw [get?_ofModules_append, get?_ofModules_append before more, get?_ofModules_append before after,
    get?_ofModules_eq_none_iff.2 h, Option.none_or]

/-- What a catalog is to have of the modules that each of its loaders brings. -/
structure Aggregates (c : Catalog) (brought : List (List Module)) : Prop where
  modules : c.modules = brought.flatten
  views : c.views = (brought.flatten.map Module.views).flatten
  imports : c.imports = (brought.flatten.map Module.imports).flatten
  exports : c.exports = (brought.flatten.map Module.exports).flatten
  /-- Under a key the factory is found that is declared last. -/
  found : ∀ key f, c.registry.decide.get? key = some f ↔ DeclaredLast brought.flatten key f
  missing : ∀ key, c.registry.decide.get? key = none ↔ ¬ Declares brought.flatten key
  /-- No key is listed twice. -/
  increasing : c.registry.decideFactories.Pairwise fun f g => f.key < g.key
  listed : ∀ f, f ∈ c.registry.decideFactories ↔ DeclaredLast brought.flatten f.key f
  complete : ∀ key, key ∈ c.registry.decideFactories.map DecideFactory.key ↔ Declares brought.flatten key
  combinations : c.registry.combineFactories = [.and, .not, .or]
  combination : ∀ name, c.registry.combine.get? name =
    CombineFactory.standard.find? fun f => f.key == name

theorem mem_decideFactories_ofModules {modules : List Module} {f : DecideFactory} :
    f ∈ (ofModules modules).registry.decideFactories ↔ DeclaredLast modules f.key f := by
  rw [(keyed_ofModules modules).mem_decideFactories, get?_ofModules_eq_some]

/-- Every declared key is listed, and no other. -/
theorem mem_keys_decideFactories_ofModules {modules : List Module} {key : String} :
    key ∈ (ofModules modules).registry.decideFactories.map DecideFactory.key ↔ Declares modules key := by
  rw [List.mem_map]
  constructor
  · rintro ⟨f, hf, rfl⟩
    exact (mem_decideFactories_ofModules.1 hf).declares
  · intro h
    have hfound : (ofModules modules).registry.decide.get? key ≠ none := by
      intro hnone
      exact get?_ofModules_eq_none_iff.1 hnone h
    obtain ⟨f, hf⟩ := Option.ne_none_iff_exists'.1 hfound
    have hlast := get?_ofModules_eq_some.1 hf
    obtain rfl : f.key = key := hlast.key_eq
    exact ⟨f, mem_decideFactories_ofModules.2 hlast, rfl⟩

/-- The combinations are found by their names alone. -/
theorem get?_combine_ofModules (modules : List Module) (name : String) :
    (ofModules modules).registry.combine.get? name =
      CombineFactory.standard.find? fun f => f.key == name := by
  have hstandard : Registry.withCombinators.combine =
      ((Dict.empty.insert "and" .and).insert "or" .or).insert "not" CombineFactory.not := rfl
  rw [combine_ofModules, hstandard, Dict.get?_insert, Dict.get?_insert, Dict.get?_insert]
  by_cases hand : name = "and"
  · subst hand
    rfl
  by_cases hor : name = "or"
  · subst hor
    rfl
  by_cases hnot : name = "not"
  · subst hnot
    rfl
  rw [if_neg hnot, if_neg hor, if_neg hand, Dict.get?_empty, eq_comm, List.find?_eq_none]
  simp [CombineFactory.standard, CombineFactory.and, CombineFactory.or, CombineFactory.not,
    Ne.symm hand, Ne.symm hor, Ne.symm hnot]

/-- Whatever loaders bring, their catalog has all of it, and finds and lists what was declared last. -/
theorem aggregates_ofLoaders (hiddenTag : String) (loaders : List Loader) :
    (ofLoaders hiddenTag loaders).Aggregates (loaders.map fun load => load hiddenTag) := by
  have hmodules : ofLoaders hiddenTag loaders =
      ofModules (loaders.map fun load => load hiddenTag).flatten := by
    rw [ofLoaders, List.flatMap_def]
  generalize loaders.map (fun load => load hiddenTag) = brought at hmodules ⊢
  rw [hmodules]
  exact {
    modules := rfl
    views := List.flatMap_def ..
    imports := List.flatMap_def ..
    exports := List.flatMap_def ..
    found := fun key f => get?_ofModules_eq_some
    missing := fun key => get?_ofModules_eq_none_iff
    increasing := (keyed_ofModules brought.flatten).pairwise_decideFactories
    listed := fun f => mem_decideFactories_ofModules
    complete := fun key => mem_keys_decideFactories_ofModules
    combinations := by
      rw [Registry.combineFactories, combine_ofModules]
      rfl
    combination := get?_combine_ofModules brought.flatten }

end Catalog

end Stocktake
