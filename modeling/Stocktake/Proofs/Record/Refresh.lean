import Stocktake.Record.Basic

/-!
# Looking up tags

Which tags are found in the cache after a look at the store: for every number those that the store told
last of a record with this number, and the old ones if it told none.  So a second look at the same
records and the same store finds nothing new.  Main statements: `get_refreshAll`,
`get_refreshAll_refreshAll`.
-/

namespace Stocktake.Record

/-- The tags that the store tells of a record, if the record has a subject and the store tells. -/
def told (store : Store) (r : Record) : Option (List Tag) :=
  r.reference.bind fun reference => (reference.tags store).toOption

/-- The tags told last of the records with a number. -/
def lastTold (store : Store) (id : Nat) : List Record → Option (List Tag)
  | [] => none
  | r :: rs => (lastTold store id rs).or (if r.id = id then r.told store else none)

theorem freshTags_eq (store : Store) (cache : TagCache) (r : Record) :
    r.freshTags store cache = (r.told store).getD (cache.get r.id) := by
  unfold freshTags told
  cases r.reference with
  | none => rfl
  | some reference =>
    rw [Option.bind_some]
    simp only
    cases reference.tags store with
    | error e => rfl
    | ok tags => rfl

theorem get_refresh_eq (store : Store) (cache : TagCache) (r : Record) (id : Nat) :
    (r.refresh store cache).get id =
      (if r.id = id then r.told store else none).getD (cache.get id) := by
  by_cases h : r.id = id
  · subst h
    rw [get_refresh, freshTags_eq, if_pos rfl]
  · rw [get_refresh_of_ne store cache r (Ne.symm h), if_neg h, Option.getD_none]

/-- After a look at records every number has the tags told last, or the old ones. -/
theorem get_refreshAll (store : Store) (cache : TagCache) (rs : List Record) (id : Nat) :
    (refreshAll store cache rs).get id = (lastTold store id rs).getD (cache.get id) := by
  unfold refreshAll
  induction rs generalizing cache with
  | nil => rfl
  | cons r rs ih =>
    rw [List.foldl_cons, ih, get_refresh_eq, lastTold]
    cases lastTold store id rs with
    | none => rw [Option.getD_none, Option.none_or]
    | some tags => rfl

/-- A second look finds nothing new. -/
theorem get_refreshAll_refreshAll (store : Store) (cache : TagCache) (rs : List Record) (id : Nat) :
    (refreshAll store (refreshAll store cache rs) rs).get id = (refreshAll store cache rs).get id := by
  rw [get_refreshAll, get_refreshAll]
  cases lastTold store id rs with
  | none => rfl
  | some tags => rfl

theorem lastTold_eq_none {store : Store} {id : Nat} {rs : List Record} :
    lastTold store id rs = none ↔ ∀ r ∈ rs, r.id = id → r.told store = none := by
  induction rs with
  | nil => simp [lastTold]
  | cons r rs ih => simp [lastTold, ih, and_comm]

theorem exists_of_lastTold_eq_some {store : Store} {id : Nat} {rs : List Record} {tags : List Tag}
    (h : lastTold store id rs = some tags) : ∃ r ∈ rs, r.id = id ∧ r.told store = some tags := by
  induction rs with
  | nil => cases h
  | cons r rs ih =>
    rw [lastTold] at h
    rcases Option.or_eq_some_iff.1 h with hrest | ⟨-, hhead⟩
    · obtain ⟨s, hs, htold⟩ := ih hrest
      exact ⟨s, List.mem_cons_of_mem r hs, htold⟩
    · obtain ⟨hid, htold⟩ := Option.ite_none_right_eq_some.1 hhead
      exact ⟨r, List.mem_cons_self, hid, htold⟩

/-- A number stands for one record: what bears the same one refers to the same subject. -/
def Coherent (rs : List Record) : Prop :=
  ∀ r ∈ rs, ∀ s ∈ rs, r.id = s.id → r.reference = s.reference

/-- Where numbers stand for one record, the tags told last are those told of the record. -/
theorem Coherent.lastTold_eq {rs : List Record} (h : Coherent rs) (store : Store) {r : Record}
    (hr : r ∈ rs) : lastTold store r.id rs = r.told store := by
  cases hlast : lastTold store r.id rs with
  | none => exact (lastTold_eq_none.1 hlast r hr rfl).symm
  | some tags =>
    obtain ⟨s, hs, hid, htold⟩ := exists_of_lastTold_eq_some hlast
    rw [told, h r hr s hs hid.symm, ← told, htold]

/-- After a look at records every one of them has the tags told of it, or the old ones. -/
theorem Coherent.get_refreshAll {rs : List Record} (h : Coherent rs) (store : Store)
    (cache : TagCache) {r : Record} (hr : r ∈ rs) :
    (refreshAll store cache rs).get r.id = (r.told store).getD (cache.get r.id) := by
  rw [Record.get_refreshAll, h.lastTold_eq store hr]

/-- After a look at records a look at some of them finds nothing new. -/
theorem Coherent.get_refreshAll_refreshAll_of_subset {rs ss : List Record} (h : Coherent rs)
    (hsubset : ss ⊆ rs) (store : Store) (cache : TagCache) (id : Nat) :
    (refreshAll store (refreshAll store cache rs) ss).get id = (refreshAll store cache rs).get id := by
  rw [Record.get_refreshAll store (refreshAll store cache rs)]
  cases hlast : lastTold store id ss with
  | none => rfl
  | some tags =>
    obtain ⟨r, hr, rfl, htold⟩ := exists_of_lastTold_eq_some hlast
    rw [h.get_refreshAll store cache (hsubset hr), htold]
    rfl

/-- What is found after a look depends on the old tags only where nothing is told. -/
theorem get_refreshAll_congr {store : Store} {cache cache' : TagCache} {rs : List Record}
    (h : ∀ r ∈ rs, r.told store = none → cache.get r.id = cache'.get r.id) {r : Record}
    (hr : r ∈ rs) : (refreshAll store cache rs).get r.id = (refreshAll store cache' rs).get r.id := by
  rw [get_refreshAll, get_refreshAll]
  cases hlast : lastTold store r.id rs with
  | none => exact h r hr (lastTold_eq_none.1 hlast r hr rfl)
  | some tags => rfl

theorem read_congr {cache cache' : TagCache} (h : ∀ id, cache.get id = cache'.get id) (r : Record) :
    r.read cache = r.read cache' := by
  rw [read, read, h]

end Stocktake.Record
