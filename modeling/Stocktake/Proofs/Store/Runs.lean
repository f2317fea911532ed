import Stocktake.Proofs.World.Writes

/-!
# Runs of writes

Writes that are asked for in order are done one after the other; a refusal is passed over or ends the
run.  The store then holds what the writes before the one that ended it have done, and nothing of those
after it.  Main statements: `Run.after` and `Run.stopped` put runs together, `Run.eq_of_follows` says that
a run ends in one way only, and `World.runs_writeAll` that asking for all writes is a run.
-/

namespace Stocktake

namespace Store

/-- One store becomes another through writes in order: each is done, or it is refused with an error that
    is passed over. -/
inductive Follows (passes : StoreError → Prop) : Store → List Write → Store → Prop
  | nil (s : Store) : Follows passes s [] s
  | done {s s' s'' : Store} {x : Write} {rest : List Write} :
      s.write x = .ok s' → Follows passes s' rest s'' → Follows passes s (x :: rest) s''
  | passed {s s' : Store} {x : Write} {rest : List Write} {e : StoreError} :
      s.write x = .error e → passes e → Follows passes s rest s' → Follows passes s (x :: rest) s'

/-- How writes in order end: all of them have been asked for, or one of them is refused with an error
    that is not passed over.  The store is then as the writes before that one left it. -/
inductive Run (passes : StoreError → Prop) (s : Store) (xs : List Write) :
    Except StoreError Unit → Store → Prop
  | done {s' : Store} : Follows passes s xs s' → Run passes s xs (.ok ()) s'
  | refused {before after : List Write} {x : Write} {e : StoreError} {s' : Store} :
      xs = before ++ x :: after → Follows passes s before s' → s'.write x = .error e → ¬ passes e →
      Run passes s xs (.error e) s'

/-- No error is passed over. -/
def never : StoreError → Prop := fun _ => False

section Runs

variable {passes : StoreError → Prop} {s s' s'' : Store} {x : Write} {xs ys : List Write}
  {answer : Except StoreError Unit} {e : StoreError}

theorem Follows.append (h : Follows passes s xs s') (h' : Follows passes s' ys s'') :
    Follows passes s (xs ++ ys) s'' := by
  induction h with
  | nil => exact h'
  | done hx _ ih => exact .done hx (ih h')
  | passed hx he _ ih => exact .passed hx he (ih h')

/-- A run after writes that have all been asked for. -/
theorem Run.after (h : Follows passes s xs s') (h' : Run passes s' ys answer s'') :
    Run passes s (xs ++ ys) answer s'' := by
  cases h' with
  | done hys => exact .done (h.append hys)
  | refused hys hbefore hx he =>
    subst hys
    exact .refused (List.append_assoc ..).symm (h.append hbefore) hx he

/-- Nothing is asked for after a run that was ended. -/
theorem Run.stopped (h : Run passes s xs (.error e) s') (ys : List Write) :
    Run passes s (xs ++ ys) (.error e) s' := by
  cases h with
  | refused hxs hbefore hx he =>
    subst hxs
    exact .refused (by rw [List.append_assoc, List.cons_append]) hbefore hx he

theorem Run.of_done (h : s.write x = .ok s') : Run passes s [x] (.ok ()) s' :=
  .done (.done h (.nil s'))

theorem Run.of_passed (h : s.write x = .error e) (he : passes e) : Run passes s [x] (.ok ()) s :=
  .done (.passed h he (.nil s))

theorem Run.of_refused (h : s.write x = .error e) (he : ¬ passes e) : Run passes s [x] (.error e) s :=
  .refused rfl (.nil s) h he

theorem Run.nil : Run passes s [] (.ok ()) s := .done (.nil s)

/-- What was asked for in a run that is over. -/
theorem Run.follows (h : Run passes s xs (.ok ()) s') : Follows passes s xs s' := by
  cases h with
  | done hxs => exact hxs

/-- After a write that is done, the rest of a run begins with the store that it left. -/
theorem Run.rest_of_done (hx : s.write x = .ok s') (h : Run passes s (x :: xs) answer s'') :
    Run passes s' xs answer s'' := by
  cases h with
  | done hxs =>
    cases hxs with
    | done hx' hrest =>
      cases hx.symm.trans hx'
      exact .done hrest
    | passed hx' _ _ => cases hx.symm.trans hx'
  | refused hxs hbefore hy he =>
    cases hbefore with
    | nil =>
      cases hxs
      cases hx.symm.trans hy
    | done hx' hrest =>
      cases hxs
      cases hx.symm.trans hx'
      exact .refused rfl hrest hy he
    | passed hx' _ _ =>
      cases hxs
      cases hx.symm.trans hx'

/-- After a refusal that is passed over, the rest of a run begins with the same store. -/
theorem Run.rest_of_passed (hx : s.write x = .error e) (hpasses : passes e)
    (h : Run passes s (x :: xs) answer s'') : Run passes s xs answer s'' := by
  cases h with
  | done hxs =>
    cases hxs with
    | done hx' _ => cases hx.symm.trans hx'
    | passed _ _ hrest => exact .done hrest
  | refused hxs hbefore hy he =>
    cases hbefore with
    | nil =>
      cases hxs
      cases hx.symm.trans hy
      exact absurd hpasses he
    | done hx' _ =>
      cases hxs
      cases hx.symm.trans hx'
    | passed _ _ hrest =>
      cases hxs
      exact .refused rfl hrest hy he

/-- Where all writes can be asked for, a run asks for all of them, and ends with the same store. -/
theorem Run.eq_of_follows (h : Follows passes s xs s') (h' : Run passes s xs answer s'') :
    answer = .ok () ∧ s'' = s' := by
  induction h with
  | nil s =>
    cases h' with
    | done hxs =>
      cases hxs
      exact ⟨rfl, rfl⟩
    | refused hxs =>
      have hlength := congrArg List.length hxs
      simp at hlength
  | done hx _ ih => exact ih (h'.rest_of_done hx)
  | passed hx hpasses _ ih => exact ih (h'.rest_of_passed hx hpasses)

end Runs

end Store

namespace World

/-- From one world to another, writes are asked for in order, and nothing else happens but that they are
    remembered and that progress is reported. -/
structure Runs (passes : StoreError → Prop) (xs : List Write) (w : World)
    (result : Except StoreError Unit × World) : Prop where
  run : Store.Run passes w.store xs result.1 result.2.store
  beside : result.2.beside = w.beside

section Runs

variable {passes : StoreError → Prop} {xs ys : List Write} {w w' : World}
  {result : Except StoreError Unit × World} {e : StoreError}

theorem Runs.after (h : Runs passes xs w (.ok (), w')) (h' : Runs passes ys w' result) :
    Runs passes (xs ++ ys) w result :=
  ⟨.after h.run.follows h'.run, h'.beside.trans h.beside⟩

theorem Runs.stopped (h : Runs passes xs w (.error e, w')) (ys : List Write) :
    Runs passes (xs ++ ys) w (.error e, w') :=
  ⟨h.run.stopped ys, h.beside⟩

theorem Runs.report (h : Runs passes xs w result) (r : Report) :
    Runs passes xs w (result.1, result.2.report r) :=
  ⟨h.run, h.beside⟩

theorem runs_nil (w : World) : Runs passes [] w (.ok (), w) := ⟨.nil, rfl⟩

theorem runs_write (x : Write) (w : World) : Runs Store.never [x] w (w.write x) := by
  refine ⟨?_, w.beside_write x⟩
  cases hx : w.store.write x with
  | ok s =>
    rw [write_of_ok hx]
    exact .of_done hx
  | error e =>
    rw [write_of_error hx]
    exact .of_refused hx not_false

theorem runs_writeAll (xs : List Write) (w : World) : Runs Store.never xs w (writeAll xs w) := by
  induction xs generalizing w with
  | nil => exact runs_nil w
  | cons x xs ih =>
    have hfirst := runs_write x w
    rw [writeAll]
    cases hwrite : w.write x with
    | mk answer w' =>
      rw [hwrite] at hfirst
      cases answer with
      | ok done => exact hfirst.after (ih w')
      | error e => exact hfirst.stopped xs

end Runs

end World

end Stocktake
