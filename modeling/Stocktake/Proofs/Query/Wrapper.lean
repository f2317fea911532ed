import Stocktake.Query.Compile

/-!
# The wrapper of queries

What the wrapper adds to a query: the records with the hidden tag do not pass any more.  It changes
neither whether a text is a query nor the error of one that is not, although a query that holds of
everything at the root is left out as a part of `and`.  Main statement: `build_wrapped`.
-/

namespace Stocktake

/-- The names that stand in the wrapper have their usual factories. -/
structure Registry.SupportsWrapper (registry : Registry) : Prop where
  conjunction : registry.combine.get? "and" = some .and
  negation : registry.combine.get? "not" = some .not
  tag : registry.decide.get? "tag" = some .tag

namespace Query

open Yaml (Value)

/-- Holds of the records that are not hidden.  With the empty tag it holds of none, since every record
    passes the filter for that. -/
def visible (hiddenTag : String) : Filter := .not [.tag hiddenTag]

/-- The query of `visible`. -/
def visibleQuery (hiddenTag : String) : Value :=
  .mapping [(.string "not", .sequence [.mapping [(.string "tag", .string hiddenTag)]])]

theorem accepts_visible (store : Store) (r : Reading) (hiddenTag : String) :
    (visible hiddenTag).accepts store r = true ↔
      hiddenTag ≠ "" ∧ ∀ t ∈ r.tags, t.name ≠ hiddenTag := by
  rw [visible, Filter.accepts_not_cons, Filter.accepts, Bool.not_eq_true', Bool.or_eq_false_iff,
    beq_eq_false_iff_ne]
  refine and_congr_right fun _ => ?_
  rw [← Bool.not_eq_true, Tag.anyNamed_iff, not_exists]
  exact forall_congr' fun t => not_and

variable {registry : Registry} (defaultFilter : String)

theorem compileItem_visibleQuery (hr : registry.SupportsWrapper) (hiddenTag : String) :
    compileItem registry defaultFilter (visibleQuery hiddenTag) = some (.ok (visible hiddenTag)) := by
  have hinner : compileItem registry defaultFilter
      (.mapping [(.string "tag", .string hiddenTag)]) = some (.ok (.tag hiddenTag)) := by
    rw [compileItem, compileEntries, compileNamed, compileDecide, hr.tag]
    rfl
  rw [visibleQuery, compileItem, compileEntries, compileNamed, compileItems, hinner]
  simp only [compileItems, compileCombine, hr.negation]
  rfl

/-- A wrapped query is the conjunction of `visible` and, unless it is left out, the query. -/
theorem compileRoot_wrap (hr : registry.SupportsWrapper) (hiddenTag : String) (query : Value) :
    compileRoot registry defaultFilter (wrap hiddenTag query) =
      match compileItem registry defaultFilter query with
      | none => .ok (.and [visible hiddenTag])
      | some (.ok f) => .ok (.and [visible hiddenTag, f])
      | some (.error e) => .error e := by
  have hvisible := compileItem_visibleQuery defaultFilter hr hiddenTag
  rw [visibleQuery] at hvisible
  rw [compileRoot, wrap, compileItem, compileEntries, compileNamed, compileItems, hvisible,
    Option.getD_some]
  simp only [compileItems, compileCombine, hr.conjunction]
  rcases compileItem registry defaultFilter query with _ | (e | f)
  · rfl
  · rfl
  · rfl

/-- The wrapped filter of a text is there only with the plain one, and adds `visible` to it. -/
theorem exists_plain_of_build {settings : Settings} (hr : registry.SupportsWrapper) {text : String}
    {wrapped : Filter} (h : build { settings with useWrapper := true } registry text = .ok wrapped) :
    ∃ plain, build { settings with useWrapper := false } registry text = .ok plain ∧
      ∀ store r, wrapped.accepts store r =
        ((visible settings.hiddenTag).accepts store r && plain.accepts store r) := by
  unfold build at h ⊢
  cases htext : readText text with
  | error e =>
    rw [htext] at h
    cases h
  | ok query =>
    simp only [htext, compile, if_true, compileRoot_wrap settings.defaultFilter hr] at h
    simp only [compile, Bool.false_eq_true, if_false, compileRoot]
    rcases hitem : compileItem registry settings.defaultFilter query with _ | (e | f)
    · rw [hitem] at h
      cases h
      refine ⟨.all, rfl, fun store r => ?_⟩
      rw [Filter.accepts_and, List.all_cons, List.all_nil, Filter.accepts]
    · rw [hitem] at h
      cases h
    · rw [hitem] at h
      cases h
      refine ⟨f, rfl, fun store r => ?_⟩
      rw [Filter.accepts_and, List.all_cons, List.all_cons, List.all_nil, Bool.and_true]

theorem accepts_of_hidden {settings : Settings} (hr : registry.SupportsWrapper) {text : String}
    {wrapped : Filter} (h : build { settings with useWrapper := true } registry text = .ok wrapped)
    (store : Store) {r : Reading} (hhidden : ∃ t ∈ r.tags, t.name = settings.hiddenTag) :
    wrapped.accepts store r = false := by
  obtain ⟨plain, -, haccepts⟩ := exists_plain_of_build hr h
  have hinvisible : (visible settings.hiddenTag).accepts store r = false := by
    rw [Bool.eq_false_iff, Ne, accepts_visible]
    rintro ⟨-, hnone⟩
    obtain ⟨t, ht, hname⟩ := hhidden
    exact hnone t ht hname
  rw [haccepts, hinvisible, Bool.false_and]

theorem accepts_of_untagged {settings : Settings} (hr : registry.SupportsWrapper) {text : String}
    {wrapped plain : Filter}
    (h : build { settings with useWrapper := true } registry text = .ok wrapped)
    (h' : build { settings with useWrapper := false } registry text = .ok plain)
    (hnonempty : settings.hiddenTag ≠ "") (store : Store) {r : Reading} (huntagged : r.tags = []) :
    wrapped.accepts store r = plain.accepts store r := by
  obtain ⟨plain', hplain', haccepts⟩ := exists_plain_of_build hr h
  obtain rfl : plain' = plain := Except.ok.inj (hplain'.symm.trans h')
  have hvisible : (visible settings.hiddenTag).accepts store r = true := by
    rw [accepts_visible, huntagged]
    exact ⟨hnonempty, fun t ht => absurd ht List.not_mem_nil⟩
  rw [haccepts, hvisible, Bool.true_and]

/-- Whether wrapped or not, a text gives a filter or the same error; and the wrapped filter holds of the
    records that are not hidden and of which the other one holds. -/
theorem build_wrapped (settings : Settings) (hr : registry.SupportsWrapper) (text : String) :
    (∀ e, build { settings with useWrapper := true } registry text = .error e ↔
      build { settings with useWrapper := false } registry text = .error e) ∧
    ∀ wrapped plain,
      build { settings with useWrapper := true } registry text = .ok wrapped →
      build { settings with useWrapper := false } registry text = .ok plain →
      ∀ (store : Store) (r : Reading), wrapped.accepts store r = true ↔
        settings.hiddenTag ≠ "" ∧ (∀ t ∈ r.tags, t.name ≠ settings.hiddenTag) ∧
          plain.accepts store r = true := by
  unfold build
  cases readText text with
  | error e =>
    refine ⟨fun _ => Iff.rfl, ?_⟩
    intro wrapped plain hwrapped
    cases hwrapped
  | ok query =>
    have hwrap := compileRoot_wrap settings.defaultFilter hr settings.hiddenTag query
    simp only [compile, if_true, Bool.false_eq_true, if_false, hwrap]
    rw [compileRoot]
    cases compileItem registry settings.defaultFilter query with
    | none =>
      -- Everything passes the query at the root; as a part it is left out.
      refine ⟨fun e => by simp only [Option.getD_none, reduceCtorEq], ?_⟩
      rintro wrapped plain ⟨⟩ ⟨⟩ store r
      rw [Filter.accepts_and, List.all_cons, List.all_nil, Bool.and_true, accepts_visible,
        Filter.accepts]
      simp only [and_true]
    | some answer =>
      cases answer with
      | error e =>
        refine ⟨fun _ => Iff.rfl, ?_⟩
        intro wrapped plain hwrapped
        cases hwrapped
      | ok f =>
        refine ⟨fun e => by simp only [Option.getD_some, reduceCtorEq], ?_⟩
        rintro wrapped plain ⟨⟩ ⟨⟩ store r
        rw [Filter.accepts_and, List.all_cons, List.all_cons, List.all_nil, Bool.and_true,
          Bool.and_eq_true, accepts_visible, and_assoc]

/-- The combinators and `tag`, but no default filter. -/
def tagRegistry : Registry := Registry.withCombinators.enterDecide .tag

theorem supportsWrapper_tagRegistry : tagRegistry.SupportsWrapper where
  conjunction := rfl
  negation := rfl
  tag := rfl

/-- A blank query, for a record that is starred and not hidden. -/
theorem build_wrapped_blank :
    tagRegistry.SupportsWrapper ∧
      build { useWrapper := true } tagRegistry " " = .ok (.and [visible "hidden"]) ∧
      build { useWrapper := false } tagRegistry " " = .ok .all ∧
      ((Filter.and [visible "hidden"]).accepts {} { display := "a", tags := [⟨"starred", ""⟩] } = true ↔
        "hidden" ≠ "" ∧ (∀ t ∈ [(⟨"starred", ""⟩ : Tag)], t.name ≠ "hidden") ∧
          Filter.all.accepts {} { display := "a", tags := [⟨"starred", ""⟩] } = true) := by
  refine ⟨supportsWrapper_tagRegistry, rfl, rfl, ?_⟩
  exact (build_wrapped {} supportsWrapper_tagRegistry " ").2 _ _ rfl rfl {} _

end Query

end Stocktake
