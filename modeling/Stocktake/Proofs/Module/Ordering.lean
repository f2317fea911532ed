import Stocktake.Module.Rows
import Stocktake.Proofs.Text.OctetOrder
import Mathlib.Data.List.Forall2
import Mathlib.Data.List.Nodup

/-!
# The orders of rows and of names

What a view shows stands in one of three orders: subjects as they first come up in the rows
(`List.eraseDups`), names increasing and each once (`sortedNames`), and records by a key, those with equal
keys in the order that they had (`sortByKey`).  Main statements: `eraseDups_map_cons`, along which lists
that are grouped by a key are taken apart (`keyInduction`), `pairwise_sortedNames` and `mem_sortedNames`,
`stablySorted_sortByKey`, and `StablySorted.eq`.
-/

namespace Stocktake

section FirstAppearance

variable {α : Type} (key : α → String)

/-- Induction that sets aside all things with the key of the first one. -/
@[elab_as_elim]
theorem keyInduction {motive : List α → Prop} (nil : motive [])
    (cons : ∀ x xs, motive (xs.filter fun y => key y ≠ key x) → motive (x :: xs)) (xs : List α) :
    motive xs := by
  match xs with
  | [] => exact nil
  | x :: xs => exact cons x xs (keyInduction nil cons _)
termination_by xs.length
decreasing_by exact Nat.lt_succ_of_le (List.length_filter_le _ _)

/-- The first key comes first, and then the others as they come up among the other things. -/
theorem eraseDups_map_cons (x : α) (xs : List α) :
    ((x :: xs).map key).eraseDups =
      key x :: ((xs.filter fun y => key y ≠ key x).map key).eraseDups := by
  rw [List.map_cons, List.eraseDups_cons, List.filter_map]
  refine congrArg (fun ys : List α => key x :: (ys.map key).eraseDups) (List.filter_congr fun y _ => ?_)
  simp [Bool.beq_eq_decide_eq]

theorem nodup_eraseDups (names : List String) : names.eraseDups.Nodup := by
  induction names using keyInduction id with
  | nil => simp
  | cons x xs ih =>
    have hcons := eraseDups_map_cons id x xs
    rw [List.map_id, List.map_id] at hcons
    rw [hcons]
    refine List.nodup_cons.2 ⟨fun hmem => ?_, ih⟩
    have hne := (List.mem_filter.1 (List.mem_eraseDups.1 hmem)).2
    simp at hne

end FirstAppearance

section Increasing

theorem mem_insertName {name x : String} {l : List String} :
    x ∈ insertName name l ↔ x = name ∨ x ∈ l := by
  induction l with
  | nil => simp [insertName]
  | cons y l ih =>
    rw [insertName]
    split
    · exact List.mem_cons
    · split
      · rename_i he
        subst he
        simp
      · rw [List.mem_cons, ih, List.mem_cons]
        exact or_left_comm

theorem pairwise_insertName (name : String) {l : List String} (h : l.Pairwise (· < ·)) :
    (insertName name l).Pairwise (· < ·) := by
  induction l with
  | nil => simp [insertName]
  | cons y l ih =>
    obtain ⟨hy, hl⟩ := List.pairwise_cons.1 h
    rw [insertName]
    split
    · rename_i hlt
      refine List.pairwise_cons.2 ⟨fun x hx => ?_, h⟩
      rcases List.mem_cons.1 hx with rfl | hx
      · exact hlt
      · exact string_lt_trans hlt (hy x hx)
    · rename_i hlt
      split
      · exact h
      · rename_i hne
        refine List.pairwise_cons.2 ⟨fun x hx => ?_, ih hl⟩
        rcases mem_insertName.1 hx with rfl | hx
        · exact string_lt_of_not hlt (Ne.symm hne)
        · exact hy x hx

theorem mem_sortedNames {x : String} {names : List String} : x ∈ sortedNames names ↔ x ∈ names := by
  induction names with
  | nil => rfl
  | cons name names ih =>
    have hcons : sortedNames (name :: names) = insertName name (sortedNames names) := rfl
    rw [hcons, mem_insertName, ih, List.mem_cons]

theorem pairwise_sortedNames (names : List String) : (sortedNames names).Pairwise (· < ·) := by
  induction names with
  | nil => exact .nil
  | cons name names ih => exact pairwise_insertName name ih

theorem nodup_of_increasing {names : List String} (h : names.Pairwise (· < ·)) : names.Nodup := by
  refine h.imp ?_
  rintro x y hlt rfl
  exact string_lt_irrefl x hlt

end Increasing

section Lookup

variable {α β : Type} [DecidableEq β] {f : α → β}

theorem find?_eq_some_iff_of_nodup {l : List α} (h : (l.map f).Nodup) (b : β) (a : α) :
    (l.find? fun x => f x = b) = some a ↔ a ∈ l ∧ f a = b := by
  constructor
  · intro ha
    exact ⟨List.mem_of_find?_eq_some ha, by simpa using List.find?_some ha⟩
  · rintro ⟨ha, rfl⟩
    cases hfind : l.find? fun x => f x = f a with
    | none => exact absurd (List.find?_eq_none.1 hfind a ha) (by simp)
    | some x =>
      have hx : f x = f a := by simpa using List.find?_some hfind
      rw [List.inj_on_of_nodup_map h (List.mem_of_find?_eq_some hfind) ha hx]

theorem find?_eq_find?_of_perm {l l' : List α} (h : l.Perm l') (hnodup : (l.map f).Nodup) (b : β) :
    (l.find? fun x => f x = b) = l'.find? fun x => f x = b := by
  have hnodup' : (l'.map f).Nodup := (h.map f).nodup_iff.1 hnodup
  ext a
  rw [find?_eq_some_iff_of_nodup hnodup, find?_eq_some_iff_of_nodup hnodup', h.mem_iff]

end Lookup

/-- Lists are related one by one by what is equal of them. -/
theorem forall₂_iff_map_eq {α β γ : Type} {f : α → γ} {g : β → γ} {xs : List α} {ys : List β} :
    List.Forall₂ (fun x y => f x = g y) xs ys ↔ xs.map f = ys.map g := by
  rw [← List.forall₂_eq_eq_eq, List.forall₂_map_left_iff, List.forall₂_map_right_iff]

section Keys

variable {α : Type}

/-- Things put apart by their keys are all there, whatever the order of the keys is. -/
theorem flatMap_filter_perm (key : α → String) {names : List String} (hnames : names.Nodup)
    {xs : List α} (hxs : ∀ x ∈ xs, key x ∈ names) :
    (names.flatMap fun name => xs.filter fun x => key x = name).Perm xs := by
  induction names generalizing xs with
  | nil =>
    have hnone : xs = [] := List.eq_nil_iff_forall_not_mem.2 fun x hx => List.not_mem_nil (hxs x hx)
    rw [hnone]
    exact .nil
  | cons name names ih =>
    obtain ⟨hname, hrest⟩ := List.nodup_cons.1 hnames
    have hothers : ∀ x ∈ xs.filter (fun x => !decide (key x = name)), key x ∈ names := by
      intro x hx
      obtain ⟨hmem, hne⟩ := List.mem_filter.1 hx
      exact (List.mem_cons.1 (hxs x hmem)).resolve_left (by simpa using hne)
    have hgroups : (names.flatMap fun n => xs.filter fun x => key x = n) =
        names.flatMap fun n => (xs.filter fun x => !decide (key x = name)).filter fun x => key x = n := by
      refine List.flatMap_congr fun n hn => ?_
      rw [List.filter_filter]
      refine List.filter_congr fun x _ => ?_
      by_cases hx : key x = n
      · have hne : n ≠ name := fun he => hname (he ▸ hn)
        simp [hx, hne]
      · simp [hx]
    rw [List.flatMap_cons, hgroups]
    exact ((ih hrest hothers).append_left _).trans (List.filter_append_perm _ xs)

/-- The `ys` are the `xs` in the order of the octets of their keys, and those with the same key are in the
    order that they have among the `xs`. -/
structure StablySorted (key : α → String) (xs ys : List α) : Prop where
  perm : ys.Perm xs
  sorted : ys.Pairwise fun a b => ¬ Text.octets (key b) < Text.octets (key a)
  stable : ∀ k, (ys.filter fun a => key a = k) = xs.filter fun a => key a = k

theorem not_octets_lt {a b : String} (h : ¬ b < a) : ¬ Text.octets b < Text.octets a := by
  intro hlt
  by_cases hab : b = a
  · rw [hab] at hlt
    exact List.lt_irrefl _ hlt
  · exact List.lt_asymm hlt (Text.octets_lt_octets (string_lt_of_not h hab))

theorem sortByKey_eq_mergeSort (key : α → String) (xs : List α) :
    sortByKey key xs = xs.mergeSort fun a b => decide (¬ key b < key a) := by
  rw [sortByKey, List.map_mergeSort (s := fun a b => decide (¬ key b < key a)), List.map_map]
  · exact congrArg (List.mergeSort · _) (List.map_id xs)
  · intro x hx y hy
    obtain ⟨a, -, rfl⟩ := List.mem_map.1 hx
    obtain ⟨b, -, rfl⟩ := List.mem_map.1 hy
    rfl

/-- What is made of things is sorted as they are. -/
theorem sortByKey_map {β : Type} (f : β → α) (key : α → String) (xs : List β) :
    sortByKey key (xs.map f) = (sortByKey (key ∘ f) xs).map f := by
  rw [sortByKey_eq_mergeSort, sortByKey_eq_mergeSort]
  exact (List.map_mergeSort (f := f) fun _ _ _ _ => rfl).symm

theorem stablySorted_sortByKey (key : α → String) (xs : List α) :
    StablySorted key xs (sortByKey key xs) := by
  have htrans : ∀ a b c : α, decide (¬ key b < key a) = true → decide (¬ key c < key b) = true →
      decide (¬ key c < key a) = true := by
    intro a b c hab hbc
    simp only [decide_eq_true_eq, String.not_lt] at *
    exact String.le_trans hab hbc
  have htotal : ∀ a b : α, (decide (¬ key b < key a) || decide (¬ key a < key b)) = true := by
    intro a b
    simp only [Bool.or_eq_true, decide_eq_true_eq, String.not_lt]
    exact String.le_total _ _
  rw [sortByKey_eq_mergeSort]
  have hperm := List.mergeSort_perm xs fun a b => decide (¬ key b < key a)
  refine ⟨hperm, ?_, fun k => ?_⟩
  · refine (List.pairwise_mergeSort htrans htotal xs).imp fun {a b} hab => ?_
    exact not_octets_lt (of_decide_eq_true hab)
  · -- Those with the key `k` are in order already, so that sorting keeps them as a sublist.
    have hsame : (xs.filter fun a => key a = k).Pairwise
        fun a b => decide (¬ key b < key a) = true := by
      refine List.pairwise_of_forall_mem_list fun a ha b hb => ?_
      have hka : key a = k := by simpa using (List.mem_filter.1 ha).2
      have hkb : key b = k := by simpa using (List.mem_filter.1 hb).2
      rw [hka, hkb]
      exact decide_eq_true (string_lt_irrefl k)
    have hsub := (List.sublist_mergeSort htrans htotal hsame List.filter_sublist).filter
      fun a => decide (key a = k)
    rw [List.filter_filter] at hsub
    simp only [Bool.and_self] at hsub
    exact (hsub.eq_of_length (hperm.filter _).length_eq.symm).symm

/-- Lists with the same keys, and with the same things of each key, are the same. -/
theorem eq_of_map_eq_of_filter_eq (key : α → String) {ys zs : List α} (hkeys : ys.map key = zs.map key)
    (hsame : ∀ k, (ys.filter fun a => key a = k) = zs.filter fun a => key a = k) : ys = zs := by
  induction ys generalizing zs with
  | nil => exact (List.map_eq_nil_iff.1 hkeys.symm).symm
  | cons y ys ih =>
    cases zs with
    | nil => cases hkeys
    | cons z zs =>
      obtain ⟨hkey, hrest⟩ := List.cons.inj hkeys
      have hfirst := hsame (key y)
      rw [List.filter_cons, List.filter_cons, if_pos (decide_eq_true rfl), if_pos (decide_eq_true hkey.symm)]
        at hfirst
      obtain rfl := (List.cons.inj hfirst).1
      refine congrArg (y :: ·) (ih hrest fun k => ?_)
      have hk := hsame k
      rw [List.filter_cons, List.filter_cons] at hk
      split at hk
      · exact (List.cons.inj hk).2
      · exact hk

/-- There is one order only in which things are stably sorted. -/
theorem StablySorted.eq {key : α → String} {xs ys zs : List α} (hy : StablySorted key xs ys)
    (hz : StablySorted key xs zs) : ys = zs := by
  refine eq_of_map_eq_of_filter_eq key ?_ fun k => (hy.stable k).trans (hz.stable k).symm
  have hperm : (ys.map key).Perm (zs.map key) := (hy.perm.trans hz.perm.symm).map key
  have hordered : (ys.map key).Pairwise fun a b => ¬ Text.octets b < Text.octets a :=
    List.pairwise_map.2 hy.sorted
  refine hperm.eq_of_pairwise (fun a b _ _ hab hba => ?_) hordered (List.pairwise_map.2 hz.sorted)
  -- Of two texts that differ, the octets of one come first.
  by_contra hne
  by_cases hlt : a < b
  · exact hba (Text.octets_lt_octets hlt)
  · exact hab (Text.octets_lt_octets (string_lt_of_not hlt hne))

end Keys

end Stocktake
