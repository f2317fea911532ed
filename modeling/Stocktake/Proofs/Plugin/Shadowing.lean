import Stocktake.Plugin.Loader
import Stocktake.Proofs.Module.Catalog
import Stocktake.Proofs.Query.Wrapper

/-!
# Plugins and the wrapper of queries

The wrapper is a query like any other: its `tag` is looked up where plugins enter their filters, too.
As long as no plugin enters a filter of that name, wrapped queries leave out the hidden records, whatever
else the plugins enter.  A plugin that does takes the test for the hidden tag away from the wrapper: a
question to the store is put in its place, and what has no subject passes.  Main statement:
`hidden_concealed_iff`.
-/

namespace Stocktake

section Loading

variable {hiddenTag : String} {m : Module}

/-- Where no types were registered, a module is made of a text as its manifest describes it. -/
theorem exists_manifest_of_loadText {text : String}
    (h : loadText (.standard hiddenTag) text = .ok m) :
    ∃ manifest : Manifest, m = manifest.module hiddenTag := by
  unfold loadText at h
  split at h
  · cases h
  · rename_i entries _
    split at h
    · cases h
    · rename_i kind _
      split at h
      · cases h
      · rename_i maker hmaker
        obtain rfl : maker = queryMaker hiddenTag := by
          rw [PluginTypes.standard, Dict.get?_insert] at hmaker
          split at hmaker
          · exact (Option.some.inj hmaker).symm
          · cases hmaker
        cases hentries : Manifest.ofEntries entries with
        | error fault =>
          simp only [queryMaker, hentries] at h
          cases h
        | ok manifest =>
          simp only [queryMaker, hentries] at h
          exact ⟨manifest, (Except.ok.inj h).symm⟩

theorem exists_manifest_of_mem_loadModules {directory : FileTree}
    (hm : m ∈ loadModules (.standard hiddenTag) directory) :
    ∃ manifest : Manifest, m = manifest.module hiddenTag := by
  obtain ⟨octets, -, hload⟩ := List.mem_filterMap.1 hm
  cases hread : loadManifest (.standard hiddenTag) octets with
  | error e =>
    rw [hread] at hload
    cases hload
  | ok m' =>
    rw [hread] at hload
    obtain rfl : m' = m := Option.some.inj hload
    unfold loadManifest at hread
    split at hread
    · cases hread
    · exact exists_manifest_of_loadText hread

/-- The factories of plugins put a question to the store, whatever the pattern is. -/
theorem build_of_mem_loadModules {directory : FileTree}
    (hm : m ∈ loadModules (.standard hiddenTag) directory) {factory : DecideFactory}
    (hfactory : factory ∈ m.filters) (pattern : String) :
    ∃ query, factory.build pattern = .ok (.ask factory.key query) := by
  obtain ⟨manifest, rfl⟩ := exists_manifest_of_mem_loadModules hm
  obtain ⟨spec, -, rfl⟩ := List.mem_map.1 hfactory
  exact ⟨DecideFactory.fillTemplate spec.ask pattern, rfl⟩

end Loading

namespace Query

variable {registry : Registry}

/-- What the wrapper makes of a blank query where `tag` is any factory. -/
theorem build_blank_of_tag {settings : Settings}
    (hconjunction : registry.combine.get? "and" = some .and)
    (hnegation : registry.combine.get? "not" = some .not) {factory : DecideFactory}
    (htag : registry.decide.get? "tag" = some factory) {hidden : Filter}
    (hbuild : factory.build settings.hiddenTag = .ok hidden) :
    build { settings with useWrapper := true } registry "" = .ok (.and [.not [hidden]]) := by
  have hinner : compileItem registry settings.defaultFilter
      (.mapping [(.string "tag", .string settings.hiddenTag)]) = some (.ok hidden) := by
    rw [compileItem, compileEntries, compileNamed, compileDecide, htag]
    exact congrArg some hbuild
  have houter : compileItem registry settings.defaultFilter (visibleQuery settings.hiddenTag) =
      some (.ok (.not [hidden])) := by
    rw [visibleQuery, compileItem, compileEntries, compileNamed, compileItems, hinner]
    simp only [compileItems, compileCombine, hnegation]
    rfl
  have hread : readText "" = .ok .null := rfl
  rw [visibleQuery] at houter
  simp only [build, hread, compile, if_true]
  rw [compileRoot, wrap, compileItem, compileEntries, compileNamed, compileItems, houter,
    Option.getD_some]
  simp only [compileItems, compileItem, compileCombine, hconjunction]
  rfl

end Query

section Catalogs

variable (hiddenTag : String) (directory : FileTree)

/-- The filters at hand when the plugins of a directory are loaded after the standard modules. -/
def pluginRegistry : Registry :=
  (Catalog.ofModules (standardModules hiddenTag ++ loadModules (.standard hiddenTag) directory)).registry

theorem get?_pluginRegistry_tag :
    (pluginRegistry hiddenTag directory).decide.get? "tag" =
      ((Catalog.ofModules (loadModules (.standard hiddenTag) directory)).registry.decide.get? "tag").or
        (some .tag) := by
  have hstandard := Catalog.get?_standard_tag hiddenTag
  rw [Catalog.standard] at hstandard
  rw [pluginRegistry, Catalog.get?_ofModules_append, hstandard]

theorem get?_pluginRegistry_and :
    (pluginRegistry hiddenTag directory).combine.get? "and" = some .and := by
  rw [pluginRegistry, Catalog.combine_ofModules]
  rfl

theorem get?_pluginRegistry_not :
    (pluginRegistry hiddenTag directory).combine.get? "not" = some .not := by
  rw [pluginRegistry, Catalog.combine_ofModules]
  rfl

variable {hiddenTag directory}

/-- Plugins without a filter called `tag` leave the wrapper alone. -/
theorem supportsWrapper_pluginRegistry
    (h : ∀ m ∈ loadModules (.standard hiddenTag) directory, ∀ f ∈ m.filters, f.key ≠ "tag") :
    (pluginRegistry hiddenTag directory).SupportsWrapper where
  conjunction := get?_pluginRegistry_and hiddenTag directory
  negation := get?_pluginRegistry_not hiddenTag directory
  tag := by
    rw [get?_pluginRegistry_tag, Catalog.get?_ofModules_eq_none.2 h, Option.none_or]

/-- With a plugin that has a filter called `tag`, the wrapped blank query lets pass whatever has no
    subject, hidden or not. -/
theorem build_blank_of_shadowed (settings : Query.Settings) {m : Module}
    (hm : m ∈ loadModules (.standard settings.hiddenTag) directory) {factory : DecideFactory}
    (hfactory : factory ∈ m.filters) (hkey : factory.key = "tag") :
    ∃ f, Query.build { settings with useWrapper := true } (pluginRegistry settings.hiddenTag directory) ""
        = .ok f ∧
      ∀ (store : Store) (r : Reading), r.uri = none → f.accepts store r = true := by
  cases hfound : (Catalog.ofModules (loadModules (.standard settings.hiddenTag) directory)).registry.decide.get?
      "tag" with
  | none => exact absurd hkey (Catalog.get?_ofModules_eq_none.1 hfound m hm factory hfactory)
  | some last =>
    have htag : (pluginRegistry settings.hiddenTag directory).decide.get? "tag" = some last := by
      rw [get?_pluginRegistry_tag, hfound, Option.some_or]
    have hlast : last ∈ (loadModules (.standard settings.hiddenTag) directory).flatMap Module.filters := by
      rw [Catalog.get?_ofModules] at hfound
      exact List.mem_reverse.1 (List.mem_of_find?_eq_some hfound)
    obtain ⟨m', hm', hlast'⟩ := List.mem_flatMap.1 hlast
    obtain ⟨query, hbuild⟩ := build_of_mem_loadModules hm' hlast' settings.hiddenTag
    refine ⟨_, Query.build_blank_of_tag (get?_pluginRegistry_and settings.hiddenTag directory)
      (get?_pluginRegistry_not settings.hiddenTag directory) htag hbuild, ?_⟩
    intro store r hr
    have hasks : Filter.asks store query r = false := by
      rw [Filter.asks, hr]
    rw [Filter.accepts_and, List.all_cons, List.all_nil, Bool.and_true, Filter.accepts_not_cons,
      Filter.accepts, hasks, Bool.not_false]

end Catalogs

/-- With plugins loaded after the standard modules, wrapped queries leave out all hidden records if and
    only if no plugin has a filter called `tag`. -/
theorem hidden_concealed_iff (settings : Query.Settings) (directory : FileTree) :
    (∀ text f,
      Query.build { settings with useWrapper := true } (pluginRegistry settings.hiddenTag directory) text
        = .ok f →
      ∀ (store : Store) (r : Reading), (∃ t ∈ r.tags, t.name = settings.hiddenTag) →
        f.accepts store r = false) ↔
    ∀ m ∈ loadModules (.standard settings.hiddenTag) directory, ∀ factory ∈ m.filters,
      factory.key ≠ "tag" := by
  constructor
  · intro hconcealed m hm factory hfactory hkey
    obtain ⟨f, hbuild, haccepts⟩ := build_blank_of_shadowed settings hm hfactory hkey
    let letter : Reading := { display := "letter", tags := [{ name := settings.hiddenTag }] }
    have hhidden : ∃ t ∈ letter.tags, t.name = settings.hiddenTag :=
      ⟨{ name := settings.hiddenTag }, List.mem_singleton_self _, rfl⟩
    have hrejected := hconcealed "" f hbuild {} letter hhidden
    rw [haccepts {} letter rfl] at hrejected
    cases hrejected
  · intro hunshadowed text f hbuild store r hhidden
    exact Query.accepts_of_hidden (supportsWrapper_pluginRegistry hunshadowed) hbuild store hhidden

/-- A plugin with a filter called `tag` surfaces a hidden letter: with it, the wrapped blank query lets
    the letter pass. -/
theorem shadowed_surfaces_letter :
    let manifest := "type = \"query\"\nname = \"Labels\"\n\n[[filters]]\nkey = \"tag\"\n" ++
      "name = \"Label\"\nask = \"ASK \x7b ?uri <urn:label> ?pattern \x7d\"\n"
    let directory : FileTree := .directory [(Text.octets "labels.toml", .file (Text.octets manifest))]
    let letter : Reading := { display := "letter", tags := [{ name := "hidden" }] }
    "hidden" ≠ "" ∧ ∃ f, Query.build {} (pluginRegistry "hidden" directory) "" = .ok f ∧
      f.accepts {} letter = true := by
  intro manifest directory letter
  have hkeys : ((loadModules (.standard "hidden") directory).flatMap Module.filters).map
      DecideFactory.key = ["tag"] := by
    decide +kernel
  have hmem : "tag" ∈ ((loadModules (.standard "hidden") directory).flatMap Module.filters).map
      DecideFactory.key := by
    rw [hkeys]
    exact List.mem_singleton_self "tag"
  obtain ⟨factory, hfactory, hkey⟩ := List.mem_map.1 hmem
  obtain ⟨m, hm, hfm⟩ := List.mem_flatMap.1 hfactory
  obtain ⟨f, hbuild, haccepts⟩ := build_blank_of_shadowed {} hm hfm hkey
  exact ⟨by decide, f, hbuild, haccepts {} letter rfl⟩

end Stocktake
