/-!
# Dictionaries in key order

Finite maps from texts, kept as pairs in strictly increasing order of their keys, the order of code
points.  Two dictionaries with the same bindings are equal.  Main statements: what `insert` and
`erase` do to the bindings (`get?_insert`, `get?_erase`), that the keys stay in order (the field
`sorted`), and that the bindings make the dictionary (`ext_get?`).
-/

namespace Stocktake

theorem string_lt_irrefl (a : String) : ¬ a < a := String.lt_irrefl a

theorem string_lt_trans {a b c : String} (h : a < b) (h' : b < c) : a < c := String.lt_trans h h'

theorem string_lt_of_not {a b : String} (h : ¬ a < b) (hne : a ≠ b) : b < a := by
  rcases Classical.em (b < a) with h' | h'
  · exact h'
  · exact absurd (String.le_antisymm (String.not_lt.1 h') (String.not_lt.1 h)) hne

/-- A finite map from texts. -/
structure Dict (α : Type) where
  entries : List (String × α)
  sorted : entries.Pairwise fun x y => x.1 < y.1

namespace Dict

variable {α β : Type}

instance [DecidableEq α] : DecidableEq (Dict α) := fun a b =>
  if h : a.entries = b.entries then
    isTrue (by cases a; cases b; cases h; rfl)
  else isFalse fun e => h (e ▸ rfl)

instance [Repr α] : Repr (Dict α) := ⟨fun d n => reprPrec d.entries n⟩

/-- The dictionary without bindings. -/
def empty : Dict α := ⟨[], List.Pairwise.nil⟩

instance : Inhabited (Dict α) := ⟨empty⟩

/-- The value found under `key` in a list of bindings. -/
def lookup (key : String) : List (String × α) → Option α
  | [] => none
  | (k, v) :: rest => if k = key then some v else lookup key rest

/-- The value bound to `key`. -/
def get? (d : Dict α) (key : String) : Option α := lookup key d.entries

/-- Whether `key` is bound. -/
def has (d : Dict α) (key : String) : Bool := (d.get? key).isSome

/-- The keys in order. -/
def keys (d : Dict α) : List String := d.entries.map Prod.fst

/-- The values in the order of their keys. -/
def values (d : Dict α) : List α := d.entries.map Prod.snd

/-- The number of bindings. -/
def size (d : Dict α) : Nat := d.entries.length

/-- Puts a binding into an ordered list, over one with the same key. -/
def put (key : String) (value : α) : List (String × α) → List (String × α)
  | [] => [(key, value)]
  | (k, v) :: rest =>
    if key < k then (key, value) :: (k, v) :: rest
    else if k = key then (key, value) :: rest
    else (k, v) :: put key value rest

theorem mem_put {key : String} {value : α} {l : List (String × α)} {x : String × α}
    (h : x ∈ put key value l) : x = (key, value) ∨ x ∈ l := by
  induction l with
  | nil => simpa [put] using h
  | cons a l ih =>
    obtain ⟨k, v⟩ := a
    rw [put] at h
    split at h
    · simpa using h
    · split at h
      · rcases List.mem_cons.1 h with h | h
        · exact .inl h
        · exact .inr (List.mem_cons_of_mem _ h)
      · rcases List.mem_cons.1 h with h | h
        · exact .inr (h ▸ List.mem_cons_self)
        · exact (ih h).imp_right (List.mem_cons_of_mem _)

theorem put_sorted (key : String) (value : α) {l : List (String × α)}
    (h : l.Pairwise fun x y => x.1 < y.1) :
    (put key value l).Pairwise fun x y => x.1 < y.1 := by
  induction l with
  | nil => simp [put]
  | cons a l ih =>
    obtain ⟨k, v⟩ := a
    obtain ⟨ha, hl⟩ := List.pairwise_cons.1 h
    rw [put]
    split
    · rename_i hlt
      refine List.pairwise_cons.2 ⟨fun x hx => ?_, h⟩
      rcases List.mem_cons.1 hx with rfl | hx
      · exact hlt
      · exact string_lt_trans hlt (ha x hx)
    · rename_i hlt
      split
      · rename_i he
        subst he
        exact List.pairwise_cons.2 ⟨ha, hl⟩
      · rename_i hne
        refine List.pairwise_cons.2 ⟨fun x hx => ?_, ih hl⟩
        rcases mem_put hx with rfl | hx
        · exact string_lt_of_not hlt (Ne.symm hne)
        · exact ha x hx

/-- The dictionary with `key` bound to `value`. -/
def insert (d : Dict α) (key : String) (value : α) : Dict α :=
  ⟨put key value d.entries, put_sorted key value d.sorted⟩

/-- The dictionary without a binding of `key`. -/
def erase (d : Dict α) (key : String) : Dict α :=
  ⟨d.entries.filter fun x => x.1 != key, d.sorted.filter _⟩

/-- The bindings of a list, the last one of a key counting. -/
def ofList (l : List (String × α)) : Dict α := l.foldl (fun d (k, v) => d.insert k v) empty

/-- Every value sent through `f`. -/
def map (f : α → β) (d : Dict α) : Dict β :=
  ⟨d.entries.map fun x => (x.1, f x.2), d.sorted.map _ fun _ _ h => h⟩

theorem mem_of_lookup {key : String} {value : α} {l : List (String × α)}
    (h : lookup key l = some value) : (key, value) ∈ l := by
  induction l with
  | nil => cases h
  | cons a l ih =>
    obtain ⟨k, v⟩ := a
    by_cases hk : k = key
    · subst hk
      obtain rfl : v = value := by simpa [lookup] using h
      exact List.mem_cons_self
    · exact List.mem_cons_of_mem _ (ih (by simpa [lookup, hk] using h))

theorem lookup_of_mem {l : List (String × α)} (h : l.Pairwise fun x y => x.1 < y.1)
    {x : String × α} (hx : x ∈ l) : lookup x.1 l = some x.2 := by
  induction l with
  | nil => cases hx
  | cons a l ih =>
    obtain ⟨ha, hl⟩ := List.pairwise_cons.1 h
    rcases List.mem_cons.1 hx with rfl | hx
    · simp [lookup]
    · have hne : a.1 ≠ x.1 := fun e => string_lt_irrefl a.1 (by simpa only [← e] using ha x hx)
      rw [lookup, if_neg hne, ih hl hx]

theorem isSome_lookup {key : String} {l : List (String × α)} :
    (lookup key l).isSome ↔ key ∈ l.map Prod.fst := by
  induction l with
  | nil => simp [lookup]
  | cons a l ih =>
    obtain ⟨k, v⟩ := a
    by_cases hk : k = key
    · simp [lookup, hk]
    · simp [lookup, hk, Ne.symm hk, ih]

theorem lookup_eq_none_of_lt {key : String} {l : List (String × α)}
    (h : ∀ x ∈ l, key < x.1) : lookup key l = none := by
  induction l with
  | nil => rfl
  | cons a l ih =>
    obtain ⟨k, v⟩ := a
    have hk := h (k, v) List.mem_cons_self
    have hne : k ≠ key := fun e => string_lt_irrefl key (by simp only [e] at hk; exact hk)
    simp [lookup, hne, ih fun x hx => h x (List.mem_cons_of_mem _ hx)]

theorem lookup_put (key k' : String) (value : α) (l : List (String × α)) :
    lookup k' (put key value l) = if k' = key then some value else lookup k' l := by
  induction l with
  | nil =>
    by_cases hk : k' = key
    · simp [put, lookup, hk]
    · simp [put, lookup, hk, Ne.symm hk]
  | cons a l ih =>
    obtain ⟨k, v⟩ := a
    rw [put]
    split
    · by_cases hk : k' = key
      · simp [lookup, hk]
      · simp [lookup, hk, Ne.symm hk]
    · split
      · rename_i he
        subst he
        by_cases hk : k' = k
        · simp [lookup, hk]
        · simp [lookup, hk, Ne.symm hk]
      · rename_i hne
        by_cases hk : k = k'
        · subst hk
          simp [lookup, hne]
        · simp [lookup, hk, ih]

theorem get?_insert (d : Dict α) (key k' : String) (value : α) :
    (d.insert key value).get? k' = if k' = key then some value else d.get? k' :=
  lookup_put key k' value d.entries

theorem lookup_filter (key k' : String) (l : List (String × α)) :
    lookup k' (l.filter fun x => x.1 != key) = if k' = key then none else lookup k' l := by
  induction l with
  | nil => simp [lookup]
  | cons a l ih =>
    obtain ⟨k, v⟩ := a
    by_cases hk : k = key
    · subst hk
      by_cases hk' : k' = k
      · subst hk'
        simpa using ih
      · simp [lookup, ih, hk', Ne.symm hk']
    · by_cases hk' : k = k'
      · subst hk'
        simp [lookup, hk]
      · simp [lookup, hk, hk', ih]

theorem get?_erase (d : Dict α) (key k' : String) :
    (d.erase key).get? k' = if k' = key then none else d.get? k' :=
  lookup_filter key k' d.entries

theorem get?_empty (key : String) : (empty : Dict α).get? key = none := rfl

/-- Where the first key is below all keys of another ordered list, it is not found there. -/
theorem lookup_eq_none_of_lt_head {key k : String} {v : α} {l : List (String × α)}
    (h : ((k, v) :: l).Pairwise fun x y => x.1 < y.1) (hlt : key < k) :
    lookup key ((k, v) :: l) = none := by
  apply lookup_eq_none_of_lt
  intro x hx
  rcases List.mem_cons.1 hx with rfl | hx
  · exact hlt
  · exact string_lt_trans hlt ((List.pairwise_cons.1 h).1 x hx)

theorem lookup_ext {l l' : List (String × α)} (h : l.Pairwise fun x y => x.1 < y.1)
    (h' : l'.Pairwise fun x y => x.1 < y.1) (hlookup : ∀ key, lookup key l = lookup key l') :
    l = l' := by
  induction l generalizing l' with
  | nil =>
    cases l' with
    | nil => rfl
    | cons b l' =>
      have hb := hlookup b.1
      simp [lookup] at hb
  | cons a l ih =>
    obtain ⟨k, v⟩ := a
    cases l' with
    | nil =>
      have ha := hlookup k
      simp [lookup] at ha
    | cons b l' =>
      obtain ⟨k', v'⟩ := b
      have hfirst : lookup k ((k, v) :: l) = some v := by simp [lookup]
      have hfirst' : lookup k' ((k', v') :: l') = some v' := by simp [lookup]
      -- The smaller of the two first keys would not be found in the other list.
      have hkey : k = k' := by
        by_cases hlt : k < k'
        · rw [hlookup, lookup_eq_none_of_lt_head h' hlt] at hfirst
          cases hfirst
        · by_cases hne : k = k'
          · exact hne
          · rw [← hlookup, lookup_eq_none_of_lt_head h (string_lt_of_not hlt hne)] at hfirst'
            cases hfirst'
      subst hkey
      obtain rfl : v = v' := by
        rw [hlookup, hfirst'] at hfirst
        exact (Option.some.inj hfirst).symm
      obtain ⟨ha, hl⟩ := List.pairwise_cons.1 h
      obtain ⟨hb, hl'⟩ := List.pairwise_cons.1 h'
      rw [ih hl hl' fun key => ?_]
      by_cases hk : k = key
      · subst hk
        rw [lookup_eq_none_of_lt ha, lookup_eq_none_of_lt hb]
      · have hrest := hlookup key
        simpa only [lookup, if_neg hk] using hrest

/-- Dictionaries with the same bindings are equal. -/
theorem ext_get? {d d' : Dict α} (h : ∀ key, d.get? key = d'.get? key) : d = d' := by
  have hentries : d.entries = d'.entries := lookup_ext d.sorted d'.sorted h
  cases d
  cases d'
  cases hentries
  rfl

theorem insert_insert (d : Dict α) (key : String) (value value' : α) :
    (d.insert key value).insert key value' = d.insert key value' := by
  apply ext_get?
  intro k
  rw [get?_insert, get?_insert, get?_insert]
  by_cases hk : k = key
  · rw [if_pos hk, if_pos hk]
  · rw [if_neg hk, if_neg hk, if_neg hk]

end Dict

end Stocktake
