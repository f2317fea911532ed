import Stocktake.Bus

/-!
# Finite runs

A script is carried out with a bound on how deep notices are nested, so that something comes of it in any case.
No finite run is lost by that: a script that finishes does so within some bound, and within any greater one with
the same result.  Main statements: `post_mono`, `finishes_iff`, `follow_ofDeeds`.
-/

namespace Stocktake.Bus

mutual

/-- A script is carried out to its end. -/
inductive Finishes : Script → Bus → Bus → Prop
  | done (b : Bus) : Finishes .done b b
  | subscribe {who : Listener} {rest : Script} {b b' : Bus} (h : Finishes rest (b.subscribe who) b') :
      Finishes (.subscribe who rest) b b'
  | post {what : Notice} {rest : Script} {b mid b' : Bus}
      (h : Delivers b.history.length what b.listeners.zipIdx (b.log (.posted what)) mid)
      (hrest : Finishes rest mid b') : Finishes (.post what rest) b b'
  | recall {rest : List (String × Notice) → Script} {b b' : Bus} (h : Finishes (rest b.calls) b b') :
      Finishes (.recall rest) b b'

/-- Listeners are called one after the other for what was posted at a place, and what each of them does is
    carried out to its end. -/
inductive Delivers : Nat → Notice → List (Listener × Nat) → Bus → Bus → Prop
  | nil (place : Nat) (what : Notice) (b : Bus) : Delivers place what [] b b
  | cons {place : Nat} {what : Notice} {x : Listener × Nat} {xs : List (Listener × Nat)} {b mid b' : Bus}
      (h : Finishes (x.1.react what) (b.log (.called place x.2 x.1 what)) mid)
      (hrest : Delivers place what xs mid b') : Delivers place what (x :: xs) b b'

end

variable {script : Script} {b b' : Bus} {place depth deeper : Nat} {what : Notice} {xs : List (Listener × Nat)}

section Depth

theorem each_mono {α σ : Type} {f g : α → σ → Option σ}
    (hfg : ∀ {x s s'}, f x s = some s' → g x s = some s') {xs : List α} {s s' : σ}
    (h : each f xs s = some s') : each g xs s = some s' := by
  induction xs generalizing s with
  | nil => exact h
  | cons x xs ih =>
    obtain ⟨mid, hmid, hrest⟩ := Option.bind_eq_some_iff.1 h
    exact Option.bind_eq_some_iff.2 ⟨mid, hfg hmid, ih hrest⟩

theorem follow_mono {f g : Notice → Bus → Option Bus}
    (hfg : ∀ {what b b'}, f what b = some b' → g what b = some b') (h : follow f script b = some b') :
    follow g script b = some b' := by
  fun_induction follow f script b with
  | case1 b => exact h
  | case2 who rest b ih => exact ih h
  | case3 what rest b ih =>
    obtain ⟨mid, hmid, hrest⟩ := Option.bind_eq_some_iff.1 h
    exact Option.bind_eq_some_iff.2 ⟨mid, hfg hmid, ih mid hrest⟩
  | case4 rest b ih => exact ih h

/-- Where notices may be nested deeper, the same comes of a post. -/
theorem post_mono (hle : depth ≤ deeper) (h : post depth what b = some b') : post deeper what b = some b' := by
  induction depth generalizing deeper what b b' with
  | zero => cases h
  | succ depth ih =>
    obtain ⟨deeper, rfl⟩ := Nat.exists_eq_add_of_le' hle
    exact each_mono (fun hcall => follow_mono (ih (Nat.le_add_left _ _)) hcall) h

theorem follow_post_mono (hle : depth ≤ deeper) (h : follow (post depth) script b = some b') :
    follow (post deeper) script b = some b' :=
  follow_mono (post_mono hle) h

theorem each_call_mono (hle : depth ≤ deeper) (h : each (call (post depth) place what) xs b = some b') :
    each (call (post deeper) place what) xs b = some b' :=
  each_mono (follow_post_mono hle) h

end Depth

section Bounded

variable (hpost : ∀ {what b b'}, post depth what b = some b' →
  Delivers b.history.length what b.listeners.zipIdx (b.log (.posted what)) b')
include hpost

theorem finishes_of_follow (h : follow (post depth) script b = some b') : Finishes script b b' := by
  fun_induction follow (post depth) script b with
  | case1 b =>
    obtain rfl := Option.some.inj h
    exact .done b
  | case2 who rest b ih => exact .subscribe (ih h)
  | case3 what rest b ih =>
    obtain ⟨mid, hmid, hrest⟩ := Option.bind_eq_some_iff.1 h
    exact .post (hpost hmid) (ih mid hrest)
  | case4 rest b ih => exact .recall (ih h)

theorem delivers_of_each (h : each (call (post depth) place what) xs b = some b') :
    Delivers place what xs b b' := by
  induction xs generalizing b with
  | nil =>
    obtain rfl := Option.some.inj h
    exact .nil place what b
  | cons x xs ih =>
    obtain ⟨mid, hmid, hrest⟩ := Option.bind_eq_some_iff.1 h
    exact .cons (finishes_of_follow hpost hmid) (ih hrest)

end Bounded

theorem delivers_of_post (h : post depth what b = some b') :
    Delivers b.history.length what b.listeners.zipIdx (b.log (.posted what)) b' := by
  induction depth generalizing what b b' with
  | zero => cases h
  | succ depth ih => exact delivers_of_each ih h

mutual

theorem Finishes.exists_depth {script : Script} {b b' : Bus} :
    Finishes script b b' → ∃ depth, follow (post depth) script b = some b'
  | .done b => ⟨0, rfl⟩
  | .subscribe h => h.exists_depth
  | .post h hrest => by
    obtain ⟨depth, hdepth⟩ := h.exists_depth
    obtain ⟨depth', hdepth'⟩ := hrest.exists_depth
    have hposted := post_mono (Nat.le_max_left (depth + 1) depth') hdepth
    have hfollowed := follow_post_mono (Nat.le_max_right (depth + 1) depth') hdepth'
    exact ⟨max (depth + 1) depth', Option.bind_eq_some_iff.2 ⟨_, hposted, hfollowed⟩⟩
  | .recall h => h.exists_depth

theorem Delivers.exists_depth {place : Nat} {what : Notice} {xs : List (Listener × Nat)} {b b' : Bus} :
    Delivers place what xs b b' → ∃ depth, each (call (post depth) place what) xs b = some b'
  | .nil _ _ _ => ⟨0, rfl⟩
  | .cons h hrest => by
    obtain ⟨depth, hdepth⟩ := h.exists_depth
    obtain ⟨depth', hdepth'⟩ := hrest.exists_depth
    have hcalled := follow_post_mono (Nat.le_max_left depth depth') hdepth
    have hothers := each_call_mono (Nat.le_max_right depth depth') hdepth'
    exact ⟨max depth depth', Option.bind_eq_some_iff.2 ⟨_, hcalled, hothers⟩⟩

end

/-- A script finishes if and only if it does so within a bound, and then it does so within any greater one. -/
theorem finishes_iff : Finishes script b b' ↔
    ∃ depth, ∀ deeper, depth ≤ deeper → follow (post deeper) script b = some b' := by
  constructor
  · intro h
    obtain ⟨depth, hdepth⟩ := h.exists_depth
    exact ⟨depth, fun deeper hle => follow_post_mono hle hdepth⟩
  · rintro ⟨depth, h⟩
    exact finishes_of_follow delivers_of_post (h depth (Nat.le_refl _))

/-- What is asked of a bus from outside is a script. -/
theorem follow_ofDeeds {deeds : List Deed} :
    follow (post depth) (.ofDeeds deeds) b = each (perform depth) deeds b := by
  induction deeds generalizing b with
  | nil => rfl
  | cons deed deeds ih =>
    cases deed with
    | subscribe who => exact ih
    | post what => exact congrArg _ (funext fun mid => ih)

end Stocktake.Bus
