import Stocktake.Proofs.Query.Meaning

/-!
# Where queries are faulty

A fault of a query has a place: the indices of the items on the way from the query to the part that is
faulty.  The name over a list is looked up after the items of the list, so it has the index behind the
last of them.  What is met depth first and from left to right is then met in the lexicographic order of
the places, and of all faults the one reported is the least.  Main statement: `compileRoot_firstFault`.
-/

namespace Stocktake.Query

open Yaml (Value)

/-- The items of a named list.  No other value is looked into. -/
def listedItems : Value → List Value
  | .mapping [(.string _, .sequence items)] => items
  | _ => []

/-- The error of an answer. -/
def refusal? {α : Type} : Except FilterError α → Option FilterError
  | .ok _ => none
  | .error e => some e

/-- Why a pattern gives no filter: there is no factory, or it refuses the pattern. -/
def patternFault? (factory : Option DecideFactory) (unknown : FilterError) (pattern : String) :
    Option FilterError :=
  match factory with
  | none => some unknown
  | some factory => refusal? (factory.build pattern)

section Faults

variable (registry : Registry) (defaultFilter : String)

/-- What is wrong with a query, its items and the name over them apart. -/
def ownFault? : Value → Option FilterError
  | .string pattern =>
    patternFault? (registry.decide.get? defaultFilter) (.unknownDefaultFilter defaultFilter) pattern
  | .mapping [] => some .emptyMap
  | .mapping [(.string name, .string pattern)] =>
    patternFault? (registry.decide.get? name) (.unknownFilter name) pattern
  | .mapping [(.string _, _)] => none
  | .mapping [(key, _)] => some (.invalidFilterName (kindName key))
  | .mapping entries => some (.manyKeys entries.length)
  | _ => none

/-- What is wrong with the name over a list. -/
def nameFault? : Value → Option FilterError
  | .mapping [(.string name, .sequence _)] =>
    if (registry.combine.get? name).isSome then none else some (.unknownCombineFilter name)
  | _ => none

/-- The query has this fault at this place. -/
def FaultAt : Value → List Nat → FilterError → Prop
  | query, [], e => ownFault? registry defaultFilter query = some e
  | query, i :: place, e =>
    (∃ item, (listedItems query)[i]? = some item ∧ FaultAt item place e) ∨
      i = (listedItems query).length ∧ place = [] ∧ nameFault? registry query = some e

/-- Some item has this fault, at the place that starts with its index. -/
def FaultAmong (items : List Value) : List Nat → FilterError → Prop
  | [], _ => False
  | i :: place, e => ∃ item, items[i]? = some item ∧ FaultAt registry defaultFilter item place e

end Faults

/-- A fault that stands at the first place of all, where there is no other. -/
def IsFirst (fault : List Nat → FilterError → Prop) (place : List Nat) (e : FilterError) : Prop :=
  fault place e ∧ ∀ other e', fault other e' → (other = place ∧ e' = e) ∨ place < other

/-- The error is that of the first fault; without an error there is no fault. -/
def Reports (error? : Option FilterError) (fault : List Nat → FilterError → Prop) : Prop :=
  match error? with
  | none => ∀ place e, ¬ fault place e
  | some e => ∃ place, IsFirst fault place e

/-- There is one first fault at most. -/
theorem IsFirst.error_unique {fault : List Nat → FilterError → Prop} {place other : List Nat}
    {e e' : FilterError} (h : IsFirst fault place e) (h' : IsFirst fault other e') : e = e' := by
  rcases h.2 other e' h'.1 with ⟨-, heq⟩ | hlt
  · exact heq.symm
  · rcases h'.2 place e h.1 with ⟨-, heq⟩ | hlt'
    · exact heq
    · exact absurd hlt' (List.lt_asymm hlt)

theorem Reports.congr {error? : Option FilterError} {fault fault' : List Nat → FilterError → Prop}
    (h : Reports error? fault) (heq : ∀ place e, fault' place e ↔ fault place e) :
    Reports error? fault' := by
  have : fault' = fault := by
    funext place e
    exact propext (heq place e)
  rw [this]
  exact h

section Leaves

variable {registry : Registry} {defaultFilter : String}

/-- Where nothing is looked into, the own fault is the only one. -/
theorem reports_leaf {query : Value} {error? : Option FilterError}
    (hitems : listedItems query = []) (hname : nameFault? registry query = none)
    (hown : ownFault? registry defaultFilter query = error?) :
    Reports error? (FaultAt registry defaultFilter query) := by
  have hbelow : ∀ i place e, ¬ FaultAt registry defaultFilter query (i :: place) e := by
    intro i place e h
    simp [FaultAt, hitems, hname] at h
  cases error? with
  | none =>
    rintro (_ | ⟨i, place⟩) e h
    · rw [FaultAt, hown] at h
      cases h
    · exact hbelow i place e h
  | some e =>
    refine ⟨[], hown, ?_⟩
    rintro (_ | ⟨i, place⟩) e' h
    · rw [FaultAt, hown, Option.some.injEq] at h
      exact .inl ⟨rfl, h.symm⟩
    · exact absurd h (hbelow i place e')

theorem ownFault?_string (pattern : String) :
    ownFault? registry defaultFilter (.string pattern) =
      refusal? (compileDefault registry defaultFilter pattern) := by
  rw [ownFault?, compileDefault]
  cases registry.decide.get? defaultFilter with
  | none => rfl
  | some factory => rfl

theorem ownFault?_named (name pattern : String) :
    ownFault? registry defaultFilter (.mapping [(.string name, .string pattern)]) =
      refusal? (compileDecide registry name pattern) := by
  rw [ownFault?, compileDecide]
  cases registry.decide.get? name with
  | none => rfl
  | some factory => rfl

theorem nameFault?_sequence (name : String) (items : List Value) (children : List Filter) :
    nameFault? registry (.mapping [(.string name, .sequence items)]) =
      refusal? (compileCombine registry name children) := by
  rw [nameFault?, compileCombine]
  cases registry.combine.get? name with
  | none => rfl
  | some factory => rfl

end Leaves

section Items

variable {registry : Registry} {defaultFilter : String} {item : Value} {rest : List Value}

theorem faultAmong_cons (place : List Nat) (e : FilterError) :
    FaultAmong registry defaultFilter (item :: rest) place e ↔
      (∃ below, place = 0 :: below ∧ FaultAt registry defaultFilter item below e) ∨
        ∃ i below, place = (i + 1) :: below ∧
          FaultAmong registry defaultFilter rest (i :: below) e := by
  rcases place with _ | ⟨_ | i, below⟩
  · simp [FaultAmong]
  · simp [FaultAmong]
  · simp [FaultAmong, and_assoc]

/-- An item without faults moves those behind it on by one index. -/
theorem reports_faultAmong_of_faultless {error? : Option FilterError}
    (hitem : ∀ place e, ¬ FaultAt registry defaultFilter item place e)
    (h : Reports error? (FaultAmong registry defaultFilter rest)) :
    Reports error? (FaultAmong registry defaultFilter (item :: rest)) := by
  cases error? with
  | none =>
    intro place e hfault
    rcases (faultAmong_cons place e).1 hfault with ⟨below, -, hbelow⟩ | ⟨i, below, -, hrest⟩
    · exact hitem below e hbelow
    · exact h (i :: below) e hrest
  | some e =>
    obtain ⟨_ | ⟨i, below⟩, hfault, hleast⟩ := h
    · cases hfault
    · refine ⟨(i + 1) :: below, (faultAmong_cons _ e).2 (.inr ⟨i, below, rfl, hfault⟩), ?_⟩
      intro other e' hother
      rcases (faultAmong_cons other e').1 hother with ⟨q, -, hq⟩ | ⟨j, q, rfl, hrest⟩
      · exact absurd hq (hitem q e')
      · rcases hleast (j :: q) e' hrest with ⟨heq, rfl⟩ | hlt
        · cases heq
          exact .inl ⟨rfl, rfl⟩
        · rw [List.cons_lt_cons_iff] at hlt ⊢
          rcases hlt with hlt | ⟨rfl, hlt⟩
          · exact .inr (.inl (Nat.succ_lt_succ hlt))
          · exact .inr (.inr ⟨rfl, hlt⟩)

/-- The first fault of the first item comes before those behind it. -/
theorem reports_faultAmong_of_faulty {e : FilterError}
    (h : Reports (some e) (FaultAt registry defaultFilter item)) :
    Reports (some e) (FaultAmong registry defaultFilter (item :: rest)) := by
  obtain ⟨below, hfault, hleast⟩ := h
  refine ⟨0 :: below, (faultAmong_cons _ e).2 (.inl ⟨below, rfl, hfault⟩), ?_⟩
  intro other e' hother
  rcases (faultAmong_cons other e').1 hother with ⟨q, rfl, hq⟩ | ⟨j, q, rfl, -⟩
  · rcases hleast q e' hq with ⟨rfl, rfl⟩ | hlt
    · exact .inl ⟨rfl, rfl⟩
    · exact .inr (List.cons_lt_cons_iff.2 (.inr ⟨rfl, hlt⟩))
  · exact .inr (List.cons_lt_cons_iff.2 (.inl (Nat.succ_pos j)))

variable {name : String} {items : List Value}

theorem faultAt_sequence (place : List Nat) (e : FilterError) :
    FaultAt registry defaultFilter (.mapping [(.string name, .sequence items)]) place e ↔
      FaultAmong registry defaultFilter items place e ∨ place = [items.length] ∧
        nameFault? registry (.mapping [(.string name, .sequence items)]) = some e := by
  cases place with
  | nil => simp [FaultAt, FaultAmong, ownFault?]
  | cons i place =>
    simp only [FaultAt, FaultAmong, listedItems, List.cons.injEq, and_assoc]

/-- The name over a list comes behind its items. -/
theorem reports_sequence {error? : Option FilterError}
    (h : Reports error? (FaultAmong registry defaultFilter items)) :
    Reports (error?.or (nameFault? registry (.mapping [(.string name, .sequence items)])))
      (FaultAt registry defaultFilter (.mapping [(.string name, .sequence items)])) := by
  refine Reports.congr ?_ faultAt_sequence
  cases error? with
  | none =>
    rw [Option.none_or]
    cases hname : nameFault? registry (.mapping [(.string name, .sequence items)]) with
    | none =>
      rintro place e (hfault | ⟨-, hfault⟩)
      · exact h place e hfault
      · cases hfault
    | some e =>
      refine ⟨[items.length], .inr ⟨rfl, rfl⟩, ?_⟩
      rintro other e' (hother | ⟨rfl, heq⟩)
      · exact absurd hother (h other e')
      · exact .inl ⟨rfl, (Option.some.inj heq).symm⟩
  | some e =>
    rw [Option.some_or]
    obtain ⟨_ | ⟨i, below⟩, hfault, hleast⟩ := h
    · cases hfault
    · refine ⟨i :: below, .inl hfault, ?_⟩
      rintro other e' (hother | ⟨rfl, -⟩)
      · exact hleast other e' hother
      · obtain ⟨item, hget, -⟩ := hfault
        have hi : i < items.length := (List.getElem?_eq_some_iff.1 hget).1
        exact .inr (List.cons_lt_cons_iff.2 (.inl hi))

end Items

section Compile

variable (registry : Registry) (defaultFilter : String)

theorem not_faultAt_of_not_part {v : Value} (h : isPart v = false) (place : List Nat)
    (e : FilterError) : ¬ FaultAt registry defaultFilter v place e := by
  intro hfault
  cases v with
  | string pattern => cases h
  | mapping entries => cases h
  | _ => cases place <;> simp [FaultAt, ownFault?, listedItems, nameFault?] at hfault

-- By recursion on the query, along the recursion of `compileItem`: what is known of the items of a list
-- is known of their faults among each other, and the name over them is added last.
mutual

theorem reports_compileItem : ∀ (v : Value) (answer : Except FilterError Filter),
    compileItem registry defaultFilter v = some answer →
    Reports (refusal? answer) (FaultAt registry defaultFilter v)
  | .string pattern, answer, h => by
    rw [compileItem, Option.some.injEq] at h
    rw [← h]
    exact reports_leaf rfl rfl (ownFault?_string pattern)
  | .mapping entries, answer, h => by
    rw [compileItem, Option.some.injEq] at h
    rw [← h]
    exact reports_compileEntries entries
  | .null, answer, h => nomatch h
  | .bool _, answer, h => nomatch h
  | .number _, answer, h => nomatch h
  | .sequence _, answer, h => nomatch h
  | .tagged _ _, answer, h => nomatch h

theorem reports_compileEntries : ∀ entries : List (Value × Value),
    Reports (refusal? (compileEntries registry defaultFilter entries))
      (FaultAt registry defaultFilter (.mapping entries))
  | [] => reports_leaf rfl rfl rfl
  | [(key, value)] => by
    cases key with
    | string name =>
      rw [compileEntries]
      exact reports_compileNamed name value
    | _ => exact reports_leaf rfl rfl rfl
  | (key, value) :: b :: rest => by
    rw [compileEntries_many]
    cases key with
    | string name => cases value <;> exact reports_leaf rfl rfl rfl
    | _ => exact reports_leaf rfl rfl rfl

theorem reports_compileNamed (name : String) : ∀ v : Value,
    Reports (refusal? (compileNamed registry defaultFilter name v))
      (FaultAt registry defaultFilter (.mapping [(.string name, v)]))
  | .string pattern => by
    rw [compileNamed]
    exact reports_leaf rfl rfl (ownFault?_named name pattern)
  | .sequence items => by
    have hitems := reports_compileItems items
    rw [compileNamed]
    cases hi : compileItems registry defaultFilter items with
    | error e =>
      rw [hi] at hitems
      exact reports_sequence hitems
    | ok children =>
      rw [hi] at hitems
      simp only [← nameFault?_sequence name items]
      exact reports_sequence hitems
  | .null => reports_leaf rfl rfl rfl
  | .bool _ => reports_leaf rfl rfl rfl
  | .number _ => reports_leaf rfl rfl rfl
  | .mapping _ => reports_leaf rfl rfl rfl
  | .tagged _ _ => reports_leaf rfl rfl rfl

theorem reports_compileItems : ∀ items : List Value,
    Reports (refusal? (compileItems registry defaultFilter items))
      (FaultAmong registry defaultFilter items)
  | [] => by
    rintro (_ | ⟨i, place⟩) e h
    · exact h
    · obtain ⟨item, hget, -⟩ := h
      cases hget
  | item :: rest => by
    have hrest := reports_compileItems rest
    rw [compileItems]
    cases hi : compileItem registry defaultFilter item with
    | none =>
      have hpart : isPart item = false := by rw [isPart_eq registry defaultFilter, hi]; rfl
      exact reports_faultAmong_of_faultless
        (not_faultAt_of_not_part registry defaultFilter hpart) hrest
    | some answer =>
      have hitem := reports_compileItem item answer hi
      cases answer with
      | error e => exact reports_faultAmong_of_faulty hitem
      | ok child =>
        have hall := reports_faultAmong_of_faultless hitem hrest
        cases hr : compileItems registry defaultFilter rest with
        | error e => rw [hr] at hall; exact hall
        | ok children => rw [hr] at hall; exact hall

end

/-- A query without faults gives a filter, and any other one the error of its first fault: that of the
    least place. -/
theorem compileRoot_firstFault (query : Value) :
    ((∃ f, compileRoot registry defaultFilter query = .ok f) ↔
      ∀ place e, ¬ FaultAt registry defaultFilter query place e) ∧
    ∀ e, compileRoot registry defaultFilter query = .error e ↔
      ∃ place, IsFirst (FaultAt registry defaultFilter query) place e := by
  have hreports : Reports (refusal? (compileRoot registry defaultFilter query))
      (FaultAt registry defaultFilter query) := by
    have hpart := isPart_eq registry defaultFilter query
    rw [compileRoot]
    cases hi : compileItem registry defaultFilter query with
    | none =>
      rw [hi] at hpart
      exact not_faultAt_of_not_part registry defaultFilter hpart
    | some answer => exact reports_compileItem registry defaultFilter query answer hi
  cases hc : compileRoot registry defaultFilter query with
  | ok f =>
    rw [hc] at hreports
    refine ⟨⟨fun _ => hreports, fun _ => ⟨f, rfl⟩⟩, fun e => ⟨fun h => (by cases h), ?_⟩⟩
    rintro ⟨place, hfault, -⟩
    exact absurd hfault (hreports place e)
  | error e₀ =>
    rw [hc] at hreports
    obtain ⟨place, hfirst⟩ := hreports
    refine ⟨⟨?_, fun h => absurd hfirst.1 (h place e₀)⟩, fun e => ⟨?_, ?_⟩⟩
    · rintro ⟨f, hf⟩
      cases hf
    · intro heq
      cases heq
      exact ⟨place, hfirst⟩
    · rintro ⟨other, hother⟩
      rw [hfirst.error_unique hother]

-- Three faults: the string has no default filter, the map is empty, and there is no such name.
example : compileRoot .withCombinators "text"
    (.mapping [(.string "xor", .sequence [.null, .string "a", .mapping []])]) =
      .error (.unknownDefaultFilter "text") := rfl

end Compile

end Stocktake.Query
