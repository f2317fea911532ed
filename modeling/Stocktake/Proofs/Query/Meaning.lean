import Stocktake.Query.Compile

/-!
# The meaning of queries

What a query says of a record, read off the query itself: `holds` knows no filters, only what the
named tests say of a pattern.  A list counts with its strings and maps alone, so that the first part
of a `not` is the first of those.  Main statement: `accepts_compile`, the filter of a query passes the
records of which the query holds.
-/

namespace Stocktake

/-- What the named test says of a record; nothing passes a test that there is not. -/
def Registry.test (registry : Registry) (store : Store) (r : Reading) (name pattern : String) : Bool :=
  match registry.decide.get? name with
  | some factory =>
    match factory.build pattern with
    | .ok f => f.accepts store r
    | .error _ => false
  | none => false

/-- Every combination has its usual factory, if it has one. -/
def Registry.CombinesAsUsual (registry : Registry) : Prop :=
  ∀ name factory, registry.combine.get? name = some factory →
    factory ∈ CombineFactory.standard ∧ factory.key = name

namespace Registry.CombinesAsUsual

variable {registry : Registry}

theorem enterCombine (h : registry.CombinesAsUsual) {f : CombineFactory}
    (hf : f ∈ CombineFactory.standard) : (registry.enterCombine f).CombinesAsUsual := by
  intro name factory hg
  rw [Registry.enterCombine, Dict.get?_insert] at hg
  split at hg
  · rename_i hname
    cases hg
    exact ⟨hf, hname.symm⟩
  · exact h name factory hg

theorem enterDecide (h : registry.CombinesAsUsual) (f : DecideFactory) :
    (registry.enterDecide f).CombinesAsUsual := h

theorem withCombinators : Registry.withCombinators.CombinesAsUsual := by
  have hempty : ({} : Registry).CombinesAsUsual := fun name factory h => nomatch h
  have hand := hempty.enterCombine (f := .and) (by simp [CombineFactory.standard])
  have hor := hand.enterCombine (f := .or) (by simp [CombineFactory.standard])
  exact hor.enterCombine (f := .not) (by simp [CombineFactory.standard])

end Registry.CombinesAsUsual

namespace Query

open Yaml (Value)

/-- Whether a value counts as a part of a list. -/
def isPart : Value → Bool
  | .string _ => true
  | .mapping _ => true
  | _ => false

/-- What a combination says when its parts say this.  A negation counts its first part, and holds
    without one. -/
def combined (name : String) (parts : List Bool) : Bool :=
  if name = "and" then parts.all id
  else if name = "or" then parts.any id
  else if name = "not" then !parts.headD false
  else true

section Holds

variable (test : String → String → Bool) (defaultFilter : String)

mutual

/-- Whether a query holds of a record of which the tests say this. -/
def holds : Value → Bool
  | .string pattern => test defaultFilter pattern
  | .mapping entries => holdsEntries entries
  | _ => true

/-- Whether a map holds: that of a name and what the name is applied to. -/
def holdsEntries : List (Value × Value) → Bool
  | [(.string name, value)] => holdsNamed name value
  | _ => true

/-- Whether a name holds, applied to a pattern or to parts. -/
def holdsNamed (name : String) : Value → Bool
  | .string pattern => test name pattern
  | .sequence items => combined name (partsHold items)
  | _ => true

/-- What the parts of a list say, in order. -/
def partsHold : List Value → List Bool
  | [] => []
  | item :: rest => if isPart item then holds item :: partsHold rest else partsHold rest

end

theorem partsHold_eq (items : List Value) :
    partsHold test defaultFilter items = (items.filter isPart).map (holds test defaultFilter) := by
  induction items with
  | nil => rw [partsHold, List.filter_nil, List.map_nil]
  | cons item rest ih =>
    rw [partsHold, List.filter_cons, ih]
    split
    · rw [List.map_cons]
    · rfl

theorem holdsNamed_sequence (name : String) (items : List Value) :
    holdsNamed test defaultFilter name (.sequence items) =
      combined name ((items.filter isPart).map (holds test defaultFilter)) := by
  rw [holdsNamed, partsHold_eq]

example : holds test defaultFilter
    (.mapping [(.string "not", .sequence [.null, .string "a", .string "b"])]) =
      !test defaultFilter "a" := rfl

end Holds

theorem isPart_eq (registry : Registry) (defaultFilter : String) (v : Value) :
    isPart v = (compileItem registry defaultFilter v).isSome := by
  cases v with
  | string pattern => rw [compileItem]; rfl
  | mapping entries => rw [compileItem]; rfl
  | _ => rfl

theorem compileEntries_many (registry : Registry) (defaultFilter : String) (a b : Value × Value)
    (rest : List (Value × Value)) :
    compileEntries registry defaultFilter (a :: b :: rest) =
      .error (.manyKeys (a :: b :: rest).length) := by
  obtain ⟨key, value⟩ := a
  cases key <;> rw [compileEntries] <;> exact nofun

section Accepts

variable {registry : Registry} (store : Store) (r : Reading)

theorem test_of_compileDecide {name pattern : String} {f : Filter}
    (h : compileDecide registry name pattern = .ok f) :
    registry.test store r name pattern = f.accepts store r := by
  unfold compileDecide at h
  unfold Registry.test
  cases hd : registry.decide.get? name with
  | none => rw [hd] at h; cases h
  | some factory =>
    have hbuild : factory.build pattern = .ok f := by
      rw [hd] at h
      exact h
    simp only [hbuild]

-- Only the errors of the two differ.
theorem compileDefault_eq_ok {defaultFilter pattern : String} {f : Filter} :
    compileDefault registry defaultFilter pattern = .ok f ↔
      compileDecide registry defaultFilter pattern = .ok f := by
  unfold compileDefault compileDecide
  cases registry.decide.get? defaultFilter with
  | none => simp only [reduceCtorEq]
  | some factory => exact Iff.rfl

theorem accepts_compileCombine (hc : registry.CombinesAsUsual) {name : String}
    {children : List Filter} {f : Filter} (h : compileCombine registry name children = .ok f) :
    f.accepts store r = combined name (children.map (Filter.accepts store r)) := by
  unfold compileCombine at h
  cases hg : registry.combine.get? name with
  | none => rw [hg] at h; cases h
  | some factory =>
    rw [hg] at h
    cases h
    obtain ⟨hmem, rfl⟩ := hc name factory hg
    simp only [CombineFactory.standard, List.mem_cons, List.not_mem_nil, or_false] at hmem
    rcases hmem with rfl | rfl | rfl
    · show (Filter.and children).accepts store r = (children.map _).all id
      rw [Filter.accepts_and, List.all_map]
      rfl
    · show (Filter.or children).accepts store r = (children.map _).any id
      rw [Filter.accepts_or, List.any_map]
      rfl
    · show (Filter.not children).accepts store r = !(children.map _).headD false
      cases children with
      | nil => exact Filter.accepts_not_nil store r
      | cons child rest => exact Filter.accepts_not_cons store r child rest

-- By recursion on the query, along the recursion of `compileItem`; the list of children a combination
-- gets is matched part by part with what the parts of the query say.
mutual

theorem accepts_compileItem (hc : registry.CombinesAsUsual) {defaultFilter : String} :
    ∀ (v : Value) (f : Filter), compileItem registry defaultFilter v = some (.ok f) →
      f.accepts store r = holds (registry.test store r) defaultFilter v
  | .string pattern, f, h => by
    rw [compileItem, Option.some.injEq] at h
    rw [holds, test_of_compileDecide store r (compileDefault_eq_ok.1 h)]
  | .mapping entries, f, h => by
    rw [compileItem, Option.some.injEq] at h
    rw [holds]
    exact accepts_compileEntries hc entries f h
  | .null, f, h => nomatch h
  | .bool _, f, h => nomatch h
  | .number _, f, h => nomatch h
  | .sequence _, f, h => nomatch h
  | .tagged _ _, f, h => nomatch h

theorem accepts_compileEntries (hc : registry.CombinesAsUsual) {defaultFilter : String} :
    ∀ (entries : List (Value × Value)) (f : Filter),
      compileEntries registry defaultFilter entries = .ok f →
      f.accepts store r = holdsEntries (registry.test store r) defaultFilter entries
  | [], f, h => nomatch h
  | [(key, value)], f, h => by
    cases key with
    | string name =>
      rw [compileEntries] at h
      rw [holdsEntries]
      exact accepts_compileNamed hc name value f h
    | _ => cases h
  | _ :: _ :: _, f, h => by
    rw [compileEntries_many] at h
    cases h

theorem accepts_compileNamed (hc : registry.CombinesAsUsual) {defaultFilter : String}
    (name : String) : ∀ (v : Value) (f : Filter),
      compileNamed registry defaultFilter name v = .ok f →
      f.accepts store r = holdsNamed (registry.test store r) defaultFilter name v
  | .string pattern, f, h => by
    rw [compileNamed] at h
    rw [holdsNamed, test_of_compileDecide store r h]
  | .sequence items, f, h => by
    rw [compileNamed] at h
    cases hi : compileItems registry defaultFilter items with
    | error e => rw [hi] at h; cases h
    | ok children =>
      rw [hi] at h
      rw [holdsNamed_sequence, accepts_compileCombine store r hc h,
        accepts_compileItems hc items children hi]
  | .null, f, h => by cases h; rfl
  | .bool _, f, h => by cases h; rfl
  | .number _, f, h => by cases h; rfl
  | .mapping _, f, h => by cases h; rfl
  | .tagged _ _, f, h => by cases h; rfl

theorem accepts_compileItems (hc : registry.CombinesAsUsual) {defaultFilter : String} :
    ∀ (items : List Value) (children : List Filter),
      compileItems registry defaultFilter items = .ok children →
      children.map (Filter.accepts store r) =
        (items.filter isPart).map (holds (registry.test store r) defaultFilter)
  | [], children, h => by
    cases h
    rfl
  | item :: rest, children, h => by
    have hpart := isPart_eq registry defaultFilter item
    rw [compileItems] at h
    rw [List.filter_cons, hpart]
    cases hi : compileItem registry defaultFilter item with
    | none =>
      rw [hi] at h
      rw [Option.isSome_none, if_neg Bool.false_ne_true]
      exact accepts_compileItems hc rest children h
    | some answer =>
      rw [hi] at h
      rw [Option.isSome_some, if_pos rfl]
      cases answer with
      | error e => cases h
      | ok child =>
        cases hrest : compileItems registry defaultFilter rest with
        | error e => rw [hrest] at h; cases h
        | ok others =>
          rw [hrest] at h
          cases h
          rw [List.map_cons, List.map_cons, accepts_compileItem hc item child hi,
            accepts_compileItems hc rest others hrest]

end

/-- The filter of an unwrapped query passes the records of which the query holds. -/
theorem accepts_compile (hc : registry.CombinesAsUsual) {settings : Settings}
    (hs : settings.useWrapper = false) {query : Value} {f : Filter}
    (h : compile settings registry query = .ok f) :
    f.accepts store r = holds (registry.test store r) settings.defaultFilter query := by
  rw [compile, hs, if_neg Bool.false_ne_true, compileRoot] at h
  cases hi : compileItem registry settings.defaultFilter query with
  | none =>
    have hpart := isPart_eq registry settings.defaultFilter query
    rw [hi] at h hpart
    cases h
    cases query with
    | string pattern => cases hpart
    | mapping entries => cases hpart
    | _ => rfl
  | some answer =>
    rw [hi, Option.getD_some] at h
    subst h
    exact accepts_compileItem store r hc query f hi

end Accepts

/-- Needles that are not starred; the number in the negation is no part of it. -/
def unstarredNeedles : Value :=
  .mapping [(.string "and", .sequence [
    .string "needle",
    .mapping [(.string "not", .sequence [
      .number (.integer 7), .mapping [(.string "tag", .string "starred")], .string "x"])]])]

/-- A needle that is starred. -/
theorem accepts_compile_unstarredNeedles :
    let registry := (Registry.withCombinators.enterDecide .text).enterDecide .tag
    let r : Reading := { display := "needle", tags := [⟨"starred", ""⟩] }
    registry.CombinesAsUsual ∧ ({ useWrapper := false } : Settings).useWrapper = false ∧
      compile { useWrapper := false } registry unstarredNeedles =
        .ok (.and [.text "needle", .not [.tag "starred", .text "x"]]) ∧
      (Filter.and [.text "needle", .not [.tag "starred", .text "x"]]).accepts {} r =
        holds (registry.test {} r) "text" unstarredNeedles := by
  intro registry r
  have hc : registry.CombinesAsUsual :=
    (Registry.CombinesAsUsual.withCombinators.enterDecide .text).enterDecide .tag
  have hs : ({ useWrapper := false } : Settings).useWrapper = false := rfl
  have h : compile { useWrapper := false } registry unstarredNeedles =
      .ok (.and [.text "needle", .not [.tag "starred", .text "x"]]) := rfl
  exact ⟨hc, hs, h, accepts_compile {} r hc hs h⟩

end Query

end Stocktake
