import Mathlib
import Stocktake.Module.Standard
import Stocktake.Proofs.Module.Catalog
import Stocktake.Proofs.Query.Success
import Stocktake.Proofs.Text.Quoting

/-!
# What a shown filter tells

The standard modules make filters that can be read back from the way they are shown: the label in front
of the parenthesis names the test or the combination, a quoted pattern tells where it ends, and no part
of a combination starts with the parenthesis that closes it.  Patterns may hold anything, also what looks
like another filter.  Main statements: `Filter.Legible.delimited`, `filter_eq_of_describe_eq`.
-/

namespace Stocktake

theorem Regex.Pattern.source_of_parse? {source : String} {p : Regex.Pattern}
    (h : Regex.Pattern.parse? source = some p) : p.source = source := by
  unfold Regex.Pattern.parse? at h
  split at h
  · split_ifs at h with hsize
    cases h
    rfl
  · cases h

namespace Filter

/-- The test that is shown with this label and this pattern. -/
def shownTest? (label pattern : String) : Option Filter :=
  match label with
  | "text" => some (.text pattern)
  | "name" => some (.name pattern)
  | "tag" => some (.tag pattern)
  | "regex" => (Regex.Pattern.parse? pattern).map .regex
  | "uri" => some (.uri pattern)
  | "sparql" => some (.ask "sparql" pattern)
  | "dpkg" => some (.ask "dpkg" pattern)
  | _ => none

/-- The combination that is shown with this label. -/
def shownCombination? (label : String) : Option (List Filter → Filter) :=
  match label with
  | "and" => some .and
  | "or" => some .or
  | "not" => some .not
  | _ => none

/-- A filter that can be read back from the way it is shown. -/
inductive Legible : Filter → Prop
  | all : Legible .all
  | test {label pattern : String} {f : Filter} : shownTest? label pattern = some f → Legible f
  | combination {label : String} {combine : List Filter → Filter} {children : List Filter} :
      shownCombination? label = some combine → (∀ child ∈ children, Legible child) →
      Legible (combine children)

section Labels

def testLabels : List String := ["text", "name", "tag", "regex", "uri", "sparql", "dpkg"]

def combinationLabels : List String := ["and", "or", "not"]

/-- A label ends before the parenthesis, and starts neither like `all` nor like the end of a list. -/
def IsLabel (label : String) : Prop :=
  '(' ∉ label.toList ∧ 2 ≤ label.toList.length ∧ label.toList.take 2 ≠ ['a', 'l'] ∧
    label.toList.take 1 ≠ [')']

instance (label : String) : Decidable (IsLabel label) := inferInstanceAs (Decidable (_ ∧ _))

theorem isLabel_of_mem : ∀ label ∈ testLabels ++ combinationLabels, IsLabel label := by decide

theorem combinationLabels_not_mem : ∀ label ∈ combinationLabels, label ∉ testLabels := by decide

theorem mem_testLabels {label pattern : String} {f : Filter} (h : shownTest? label pattern = some f) :
    label ∈ testLabels := by
  unfold shownTest? at h
  split at h
  case h_8 => cases h
  all_goals decide

theorem mem_combinationLabels {label : String} {combine : List Filter → Filter}
    (h : shownCombination? label = some combine) : label ∈ combinationLabels := by
  unfold shownCombination? at h
  split at h
  case h_4 => cases h
  all_goals decide

end Labels

/-- The characters of a label with something in parentheses. -/
theorem toList_parenthesized (label inside : String) : (label ++ "(" ++ inside ++ ")").toList =
    label.toList ++ '(' :: (inside.toList ++ [')']) := by
  have hopen : "(".toList = ['('] := rfl
  have hclose : ")".toList = [')'] := rfl
  simp only [String.toList_append, List.append_assoc, hopen, hclose, List.cons_append,
    List.nil_append]

/-- What stands behind the label of a shown test. -/
theorem describe_of_shownTest? {label pattern : String} {f : Filter}
    (h : shownTest? label pattern = some f) :
    f.describe.toList = label.toList ++ '(' :: ((Text.quoted pattern).toList ++ [')']) := by
  have hleaf : f.describe = describeLeaf label pattern := by
    unfold shownTest? at h
    split at h
    case h_4 =>
      obtain ⟨p, hp, rfl⟩ := Option.map_eq_some_iff.1 h
      have hsource : p.source = pattern := Regex.Pattern.source_of_parse? hp
      rw [describe, hsource]
    case h_8 => cases h
    all_goals
      cases h
      rw [describe]
  rw [hleaf, describeLeaf, toList_parenthesized]

/-- What stands behind the label of a shown combination. -/
theorem describe_of_shownCombination? {label : String} {combine : List Filter → Filter}
    (h : shownCombination? label = some combine) (children : List Filter) :
    (combine children).describe.toList =
      label.toList ++ '(' :: ((describeList children).toList ++ [')']) := by
  have hparts : (combine children).describe = label ++ "(" ++ describeList children ++ ")" := by
    unfold shownCombination? at h
    split at h
    case h_4 => cases h
    all_goals
      cases h
      rw [describe]
      rfl
  rw [hparts, toList_parenthesized]

/-- Behind the first filter of a list every other one stands behind a comma. -/
theorem describeList_cons (f : Filter) (fs : List Filter) :
    (describeList (f :: fs)).toList =
      f.describe.toList ++ fs.flatMap fun g => ',' :: ' ' :: g.describe.toList := by
  induction fs generalizing f with
  | nil => rw [describeList, List.flatMap_nil, List.append_nil]
  | cons g gs ih =>
    rw [describeList, String.toList_append, String.toList_append, ih, List.flatMap_cons]
    · simp only [List.append_assoc]
      rfl
    · exact List.cons_ne_nil g gs

/-- A filter that is shown with a label in front of a parenthesis. -/
def Labelled (f : Filter) : Prop :=
  ∃ label inside, IsLabel label ∧ f.describe.toList = label.toList ++ '(' :: inside

section Labelled

variable {label pattern : String} {f : Filter} {combine : List Filter → Filter}

theorem isLabel_of_shownTest? (h : shownTest? label pattern = some f) : IsLabel label :=
  isLabel_of_mem label (List.mem_append_left _ (mem_testLabels h))

theorem isLabel_of_shownCombination? (h : shownCombination? label = some combine) : IsLabel label :=
  isLabel_of_mem label (List.mem_append_right _ (mem_combinationLabels h))

theorem labelled_of_shownTest? (h : shownTest? label pattern = some f) : f.Labelled :=
  ⟨label, _, isLabel_of_shownTest? h, describe_of_shownTest? h⟩

theorem labelled_of_shownCombination? (h : shownCombination? label = some combine)
    (children : List Filter) : (combine children).Labelled :=
  ⟨label, _, isLabel_of_shownCombination? h, describe_of_shownCombination? h children⟩

/-- A label can be told from what stands behind its parenthesis. -/
theorem IsLabel.append_inj {label' : String} (h : IsLabel label) (h' : IsLabel label')
    {r s : List Char} (heq : label.toList ++ '(' :: r = label'.toList ++ '(' :: s) :
    label = label' ∧ r = s := by
  obtain ⟨hlabel, hbehind⟩ := Text.append_mark_inj h.1 h'.1 heq
  exact ⟨String.toList_inj.1 hlabel, hbehind⟩

theorem Labelled.append_ne_all (hf : f.Labelled) (r s : List Char) :
    f.describe.toList ++ r ≠ Filter.all.describe.toList ++ s := by
  obtain ⟨label, inside, ⟨-, hlength, hall, -⟩, hshown⟩ := hf
  intro h
  have hfront := congrArg (List.take 2) h
  rw [hshown, List.append_assoc, List.take_append_of_le_length hlength] at hfront
  exact hall hfront

theorem Labelled.append_ne_close (hf : f.Labelled) (r s : List Char) :
    f.describe.toList ++ r ≠ ')' :: s := by
  obtain ⟨label, inside, ⟨-, hlength, -, hclose⟩, hshown⟩ := hf
  intro h
  have hfront := congrArg (List.take 1) h
  rw [hshown, List.append_assoc, List.take_append_of_le_length (Nat.le_of_succ_le hlength)] at hfront
  exact hclose hfront

/-- What closes a list does not start a filter. -/
theorem Legible.append_ne_close (hf : f.Legible) (r s : List Char) :
    f.describe.toList ++ r ≠ ')' :: s := by
  cases hf with
  | all =>
    intro h
    exact absurd (List.cons.inj h).1 (by decide)
  | test h => exact (labelled_of_shownTest? h).append_ne_close r s
  | combination h _ => exact (labelled_of_shownCombination? h _).append_ne_close r s

end Labelled

/-- A filter can be told from what stands behind it. -/
def Delimited (f : Filter) : Prop :=
  ∀ g r s, Legible g → f.describe.toList ++ r = g.describe.toList ++ s → f = g ∧ r = s

/-- Filters behind commas can be told from each other and from what stands behind the parenthesis. -/
theorem flatMap_describe_append_inj {fs gs : List Filter} {r s : List Char}
    (hfs : ∀ f ∈ fs, f.Delimited) (hgs : ∀ g ∈ gs, g.Legible)
    (h : (fs.flatMap fun f => ',' :: ' ' :: f.describe.toList) ++ ')' :: r =
      (gs.flatMap fun g => ',' :: ' ' :: g.describe.toList) ++ ')' :: s) : fs = gs ∧ r = s := by
  induction fs generalizing gs with
  | nil =>
    cases gs with
    | nil => exact ⟨rfl, (List.cons.inj h).2⟩
    | cons g gs => exact absurd (List.cons.inj h).1 (by decide)
  | cons f fs ih =>
    cases gs with
    | nil => exact absurd (List.cons.inj h).1 (by decide)
    | cons g gs =>
      simp only [List.flatMap_cons, List.cons_append, List.append_assoc, List.cons.injEq,
        true_and] at h
      obtain ⟨rfl, hrest⟩ := hfs f List.mem_cons_self g _ _ (hgs g List.mem_cons_self) h
      obtain ⟨rfl, hbehind⟩ := ih (fun f hf => hfs f (List.mem_cons_of_mem _ hf))
        (fun g hg => hgs g (List.mem_cons_of_mem _ hg)) hrest
      exact ⟨rfl, hbehind⟩

theorem describeList_append_inj {fs gs : List Filter} {r s : List Char}
    (hfs : ∀ f ∈ fs, f.Legible) (hdelimited : ∀ f ∈ fs, f.Delimited) (hgs : ∀ g ∈ gs, g.Legible)
    (h : (describeList fs).toList ++ ')' :: r = (describeList gs).toList ++ ')' :: s) :
    fs = gs ∧ r = s := by
  cases fs with
  | nil =>
    cases gs with
    | nil => exact ⟨rfl, (List.cons.inj h).2⟩
    | cons g gs =>
      rw [describeList_cons, List.append_assoc] at h
      exact absurd h.symm ((hgs g List.mem_cons_self).append_ne_close _ r)
  | cons f fs =>
    cases gs with
    | nil =>
      rw [describeList_cons, List.append_assoc] at h
      exact absurd h ((hfs f List.mem_cons_self).append_ne_close _ s)
    | cons g gs =>
      rw [describeList_cons, describeList_cons, List.append_assoc, List.append_assoc] at h
      obtain ⟨rfl, hrest⟩ := hdelimited f List.mem_cons_self g _ _ (hgs g List.mem_cons_self) h
      obtain ⟨rfl, hbehind⟩ :=
        flatMap_describe_append_inj (fun f hf => hdelimited f (List.mem_cons_of_mem _ hf))
          (fun g hg => hgs g (List.mem_cons_of_mem _ hg)) hrest
      exact ⟨rfl, hbehind⟩

section Delimited

variable {label label' pattern pattern' : String} {f g : Filter}
  {combine combine' : List Filter → Filter} {children children' : List Filter} {r s : List Char}

theorem tests_append_inj (hf : shownTest? label pattern = some f)
    (hg : shownTest? label' pattern' = some g)
    (h : f.describe.toList ++ r = g.describe.toList ++ s) : f = g ∧ r = s := by
  simp only [describe_of_shownTest? hf, describe_of_shownTest? hg, List.append_assoc,
    List.cons_append, List.nil_append] at h
  obtain ⟨rfl, hinside⟩ := (isLabel_of_shownTest? hf).append_inj (isLabel_of_shownTest? hg) h
  obtain ⟨rfl, hclose⟩ := Text.quoted_append_inj hinside
  exact ⟨Option.some.inj (hf.symm.trans hg), (List.cons.inj hclose).2⟩

theorem test_append_ne_combination (hf : shownTest? label pattern = some f)
    (hg : shownCombination? label' = some combine) :
    f.describe.toList ++ r ≠ (combine children).describe.toList ++ s := by
  intro h
  simp only [describe_of_shownTest? hf, describe_of_shownCombination? hg, List.append_assoc,
    List.cons_append, List.nil_append] at h
  obtain ⟨rfl, -⟩ := (isLabel_of_shownTest? hf).append_inj (isLabel_of_shownCombination? hg) h
  exact combinationLabels_not_mem label (mem_combinationLabels hg) (mem_testLabels hf)

theorem combinations_append_inj (hf : shownCombination? label = some combine)
    (hg : shownCombination? label' = some combine') (hfs : ∀ f ∈ children, f.Legible)
    (hdelimited : ∀ f ∈ children, f.Delimited) (hgs : ∀ g ∈ children', g.Legible)
    (h : (combine children).describe.toList ++ r = (combine' children').describe.toList ++ s) :
    combine children = combine' children' ∧ r = s := by
  simp only [describe_of_shownCombination? hf, describe_of_shownCombination? hg, List.append_assoc,
    List.cons_append, List.nil_append] at h
  obtain ⟨rfl, hinside⟩ :=
    (isLabel_of_shownCombination? hf).append_inj (isLabel_of_shownCombination? hg) h
  obtain ⟨rfl, hbehind⟩ := describeList_append_inj hfs hdelimited hgs hinside
  obtain rfl := Option.some.inj (hf.symm.trans hg)
  exact ⟨rfl, hbehind⟩

end Delimited

/-- A legible filter can be told from what stands behind it. -/
theorem Legible.delimited {f : Filter} (hf : f.Legible) : f.Delimited := by
  -- By induction on the first filter: its parts are told from what is behind them before it is itself.
  induction hf with
  | all =>
    intro g r s hg h
    cases hg with
    | all => exact ⟨rfl, List.append_cancel_left h⟩
    | test hg => exact absurd h.symm ((labelled_of_shownTest? hg).append_ne_all s r)
    | combination hg _ => exact absurd h.symm ((labelled_of_shownCombination? hg _).append_ne_all s r)
  | test hf =>
    intro g r s hg h
    cases hg with
    | all => exact absurd h ((labelled_of_shownTest? hf).append_ne_all r s)
    | test hg => exact tests_append_inj hf hg h
    | combination hg _ => exact absurd h (test_append_ne_combination hf hg)
  | combination hf hchildren ih =>
    intro g r s hg h
    cases hg with
    | all => exact absurd h ((labelled_of_shownCombination? hf _).append_ne_all r s)
    | test hg => exact absurd h.symm (test_append_ne_combination hg hf)
    | combination hg hgs => exact combinations_append_inj hf hg hchildren ih hgs h

/-- Legible filters that are shown alike are the same. -/
theorem Legible.eq_of_describe_eq {f g : Filter} (hf : f.Legible) (hg : g.Legible)
    (h : f.describe = g.describe) : f = g := by
  have hchars : f.describe.toList ++ [] = g.describe.toList ++ [] := by rw [h]
  exact (hf.delimited g [] [] hg hchars).1

end Filter

section Standard

/-- What the factories of the standard modules make is shown with their keys. -/
theorem shownTest?_of_standardFactory {hiddenTag : String} {factory : DecideFactory}
    (hfactory : factory ∈ (standardModules hiddenTag).flatMap Module.filters) {pattern : String}
    {f : Filter} (h : factory.build pattern = .ok f) :
    ∃ shown, Filter.shownTest? factory.key shown = some f := by
  have hfilters : (standardModules hiddenTag).flatMap Module.filters =
      [.displayName, .text, .tag, General.queryFilter, .regex, .uri, Packages.filesFilter] := rfl
  simp only [hfilters, List.mem_cons, List.not_mem_nil, or_false] at hfactory
  rcases hfactory with rfl | rfl | rfl | rfl | rfl | rfl | rfl
  · cases h
    exact ⟨pattern, rfl⟩
  · cases h
    exact ⟨pattern, rfl⟩
  · cases h
    exact ⟨pattern, rfl⟩
  · cases h
    exact ⟨pattern, rfl⟩
  · cases hparse : Regex.Pattern.parse? pattern with
    | none =>
      simp only [DecideFactory.regex, hparse] at h
      cases h
    | some p =>
      simp only [DecideFactory.regex, hparse] at h
      cases h
      exact ⟨pattern, by rw [DecideFactory.regex, Filter.shownTest?, hparse]; rfl⟩
  · cases h
    exact ⟨pattern, rfl⟩
  · cases h
    exact ⟨DecideFactory.fillTemplate Packages.filterTemplate pattern, rfl⟩

theorem shownCombination?_of_mem {factory : CombineFactory}
    (h : factory ∈ CombineFactory.standard) :
    Filter.shownCombination? factory.key = some factory.build := by
  simp only [CombineFactory.standard, List.mem_cons, List.not_mem_nil, or_false] at h
  rcases h with rfl | rfl | rfl
  · rfl
  · rfl
  · rfl

/-- What the standard modules make is legible. -/
theorem Registry.Makes.legible {hiddenTag : String} {f : Filter}
    (h : (Catalog.standard hiddenTag).registry.Makes f) : f.Legible := by
  induction h with
  | all => exact .all
  | decide hget hbuild =>
    rw [Catalog.standard, Catalog.get?_ofModules] at hget
    have hfactory := List.mem_reverse.1 (List.mem_of_find?_eq_some hget)
    obtain ⟨shown, hshown⟩ := shownTest?_of_standardFactory hfactory hbuild
    exact .test hshown
  | combine hget hchildren ih =>
    rw [Catalog.standard, Catalog.combine_ofModules] at hget
    obtain ⟨hfactory, -⟩ := Registry.CombinesAsUsual.withCombinators _ _ hget
    exact .combination (shownCombination?_of_mem hfactory) ih

end Standard

namespace Query

/-- Queries whose filters are shown alike have the same filter, part for part. -/
theorem filter_eq_of_describe_eq {hiddenTag hiddenTag' : String} {settings settings' : Settings}
    {text text' : String} {f g : Filter}
    (hf : build settings (Catalog.standard hiddenTag).registry text = .ok f)
    (hg : build settings' (Catalog.standard hiddenTag').registry text' = .ok g)
    (h : f.describe = g.describe) :
    f = g ∧ ∀ store r, f.accepts store r = g.accepts store r := by
  obtain rfl := (makes_of_build hf).legible.eq_of_describe_eq (makes_of_build hg).legible h
  exact ⟨rfl, fun _ _ => rfl⟩

/-- A name that is the default, and the same name in a map. -/
theorem filter_eq_of_describe_eq_defaultName :
    let registry := (Catalog.standard "hidden").registry
    let f := Filter.and [.not [.tag "hidden"], .name "a"]
    build { defaultFilter := "name" } registry "a" = .ok f ∧
      build {} registry "name: a" = .ok f ∧
      f.describe = "and(not(tag(\"hidden\")), name(\"a\"))" ∧
      f = f ∧ ∀ store r, f.accepts store r = f.accepts store r := by
  intro registry f
  have hdefault : Yaml.read "a" = some (.string "a") := by cbv
  have hnamed : Yaml.read "name: a" = some (.mapping [(.string "name", .string "a")]) := by cbv
  have hf : build { defaultFilter := "name" } registry "a" = .ok f := by
    simp only [build, readText, hdefault]
    rfl
  have hg : build {} registry "name: a" = .ok f := by
    simp only [build, readText, hnamed]
    rfl
  have hshown : f.describe = "and(not(tag(\"hidden\")), name(\"a\"))" := by decide +kernel
  exact ⟨hf, hg, hshown, filter_eq_of_describe_eq hf hg rfl⟩

end Query

end Stocktake
