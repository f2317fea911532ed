import Stocktake.Proofs.Bus.Runs

/-!
# Who hears of a notice

The history of a bus tells, of every call, which post it was for and which of those who listen was called.  While
a script is carried out the history only grows, and each stretch of it is closed: the calls in it for the posts in
it are all there are, and its other calls are those of the delivery in which it lies.  Closed stretches put
together are closed, so that this is proved by induction on the run, in which deliveries and scripts alternate.
Main statements: `Stretch.append`, `Stretch.posted`, `Finishes.ran`, `finishes_delivers`.
-/

namespace Stocktake

/-- The place of the post that a call is for. -/
def Happening.place? : Happening → Option Nat
  | .called place _ _ _ => some place
  | _ => none

/-- The number of the listener that was called. -/
def Happening.number? : Happening → Option Nat
  | .called _ number _ _ => some number
  | _ => none

/-- The listener that subscribed. -/
def Happening.subscriber? : Happening → Option Listener
  | .subscribed who => some who
  | _ => none

namespace Bus

/-- Those who subscribed, in order. -/
def subscribers (es : List Happening) : List Listener := es.filterMap Happening.subscriber?

/-- The bus after more has happened. -/
def after (b : Bus) (es : List Happening) : Bus where
  listeners := b.listeners ++ subscribers es
  history := b.history ++ es

/-- The calls for the post at a place. -/
def callsFor (place : Nat) (es : List Happening) : List Happening :=
  es.filter fun e => e.place? = some place

/-- The calls for posts before a place. -/
def callsBefore (place : Nat) (es : List Happening) : List Happening :=
  es.filter fun e => e.place?.any (· < place)

/-- One call each of all listeners, in order. -/
def round (place : Nat) (what : Notice) (listeners : List Listener) : List Happening :=
  listeners.zipIdx.map fun x => .called place x.2 x.1 what

/-- What happened from a state of the bus on, where `outer` are the calls for posts before. -/
structure Stretch (outer : List Happening) (b : Bus) (es : List Happening) : Prop where
  /-- The calls for a post are one round of those who listened when it was made. -/
  heard : ∀ i what, es[i]? = some (.posted what) →
    callsFor (b.history.length + i) es = round (b.history.length + i) what (b.after (es.take i)).listeners
  /-- A call for a post of the stretch comes after it. -/
  earlier : ∀ j e place, es[j]? = some e → e.place? = some place → b.history.length ≤ place →
    ∃ i < j, place = b.history.length + i ∧ ∃ what, es[i]? = some (.posted what)
  outer_eq : callsBefore b.history.length es = outer

/-- What a listener does when it is called is what happens next. -/
def CarriedOut (b : Bus) (es : List Happening) : Prop :=
  ∀ j place number who what, es[j]? = some (.called place number who what) →
    ∃ k ≤ es.length, Finishes (who.react what) (b.after (es.take (j + 1))) (b.after (es.take k))

variable {b b' b'' : Bus} {outer outer' es es' : List Happening} {place n : Nat} {e : Happening}
  {what : Notice} {who : Listener} {listeners : List Listener}

theorem subscribers_append : subscribers (es ++ es') = subscribers es ++ subscribers es' :=
  List.filterMap_append

theorem after_nil (b : Bus) : b.after [] = b := by
  rw [after, subscribers, List.filterMap_nil, List.append_nil, List.append_nil]

theorem after_append (b : Bus) (es es' : List Happening) : (b.after es).after es' = b.after (es ++ es') := by
  simp only [after, subscribers_append, List.append_assoc]

theorem length_history_after (b : Bus) (es : List Happening) :
    (b.after es).history.length = b.history.length + es.length :=
  List.length_append

theorem lt_length_history_log (b : Bus) (e : Happening) : b.history.length < (b.log e).history.length := by
  rw [log, List.length_append]
  exact Nat.lt_succ_self _

theorem log_eq_after (h : e.subscriber? = none) : b.log e = b.after [e] := by
  rw [log, after, subscribers, List.filterMap_cons_none h, List.filterMap_nil, List.append_nil]

theorem callsFor_append : callsFor place (es ++ es') = callsFor place es ++ callsFor place es' :=
  List.filter_append ..

theorem callsBefore_append : callsBefore n (es ++ es') = callsBefore n es ++ callsBefore n es' :=
  List.filter_append ..

theorem mem_callsFor : e ∈ callsFor place es ↔ e ∈ es ∧ e.place? = some place := by
  rw [callsFor, List.mem_filter, decide_eq_true_eq]

theorem callsFor_eq_nil_iff : callsFor place es = [] ↔ ∀ e ∈ es, e.place? ≠ some place := by
  rw [callsFor, List.filter_eq_nil_iff]
  simp only [decide_eq_true_eq, ne_eq]

theorem mem_callsBefore : e ∈ callsBefore n es ↔ e ∈ es ∧ ∃ place < n, e.place? = some place := by
  rw [callsBefore, List.mem_filter, Option.any_eq_true]
  simp only [decide_eq_true_eq, and_comm]

/-- The calls for a post before a place are among the calls for all of them. -/
theorem callsFor_callsBefore (h : place < n) : callsFor place (callsBefore n es) = callsFor place es := by
  rw [callsFor, callsBefore, List.filter_filter]
  refine List.filter_congr fun e _ => ?_
  by_cases he : e.place? = some place
  · simp [he, h]
  · simp [he]

theorem place?_of_mem_round (h : e ∈ round place what listeners) : e.place? = some place := by
  obtain ⟨x, -, rfl⟩ := List.mem_map.1 h
  rfl

theorem callsFor_round : callsFor place (round place what listeners) = round place what listeners :=
  List.filter_eq_self.2 fun _ he => decide_eq_true (place?_of_mem_round he)

theorem filter_zipIdx {α : Type} (xs : List α) (n k : Nat) :
    (xs.zipIdx n).filter (fun x => x.2 = n + k) = (xs[k]?.map fun x => (x, n + k)).toList := by
  induction xs generalizing n k with
  | nil => rfl
  | cons x xs ih =>
    cases k with
    | zero =>
      have hrest : (xs.zipIdx (n + 1)).filter (fun x => x.2 = n + 0) = [] := by
        refine List.filter_eq_nil_iff.2 fun y hy => ?_
        have hlater := List.le_snd_of_mem_zipIdx hy
        rw [decide_eq_true_eq]
        omega
      rw [List.zipIdx_cons, List.filter_cons_of_pos (by simp), hrest]
      rfl
    | succ k =>
      have hnext : n + 1 + k = n + (k + 1) := by omega
      rw [List.zipIdx_cons, List.filter_cons_of_neg (by simp), ← hnext, ih (n + 1) k, List.getElem?_cons_succ]

/-- In a round, each listener is called once. -/
theorem filter_round (place k : Nat) (what : Notice) (listeners : List Listener) :
    (round place what listeners).filter (fun e => e.number? = some k) =
      (listeners[k]?.map fun who => .called place k who what).toList := by
  have hnumber : ((fun e : Happening => decide (e.number? = some k)) ∘
      fun x : Listener × Nat => .called place x.2 x.1 what) = fun x => decide (x.2 = 0 + k) := by
    funext x
    simp [Happening.number?]
  rw [round, List.filter_map, hnumber, filter_zipIdx]
  cases listeners[k]? with
  | none => rfl
  | some who => simp

namespace Stretch

theorem nil (b : Bus) : Stretch [] b [] where
  heard := by simp
  earlier := by simp
  outer_eq := rfl

theorem subscribed (b : Bus) (who : Listener) : Stretch [] b [.subscribed who] where
  heard := by simp [List.getElem?_singleton]
  earlier := by
    intro j e place he hplace
    obtain rfl := List.mem_singleton.1 (List.mem_of_getElem? he)
    cases hplace
  outer_eq := rfl

/-- A call for a post of the history. -/
theorem called {number : Nat} (h : place < b.history.length) :
    Stretch [.called place number who what] b [.called place number who what] where
  heard := by simp [List.getElem?_singleton]
  earlier := by
    intro j e place' he hplace hle
    obtain rfl := List.mem_singleton.1 (List.mem_of_getElem? he)
    obtain rfl := Option.some.inj hplace
    omega
  outer_eq := by simp [callsBefore, Happening.place?, h]

/-- The calls of a stretch are for posts before its end. -/
theorem place_lt (h : Stretch outer b es) (he : e ∈ es) (hplace : e.place? = some place) :
    place < b.history.length + es.length := by
  obtain ⟨j, hj⟩ := List.mem_iff_getElem?.1 he
  have hlt := (List.getElem?_eq_some_iff.1 hj).1
  by_cases hle : b.history.length ≤ place
  · obtain ⟨i, hi, rfl, -⟩ := h.earlier j e place hj hplace hle
    omega
  · omega

theorem callsFor_eq_nil_of_le (h : Stretch outer b es) (hle : b.history.length + es.length ≤ place) :
    callsFor place es = [] :=
  callsFor_eq_nil_iff.2 fun _ he hplace => Nat.not_lt_of_le hle (h.place_lt he hplace)

section Outer

variable (h : Stretch outer b es) (houter : ∀ e ∈ outer, ∃ place < n, e.place? = some place)
include h houter

/-- If the calls for posts before a stretch are for posts before a place, none is for posts between. -/
theorem place_lt_of_outer (he : e ∈ es) (hplace : e.place? = some place) (hlt : place < b.history.length) :
    place < n := by
  have hmem : e ∈ outer := h.outer_eq ▸ mem_callsBefore.2 ⟨he, place, hlt, hplace⟩
  obtain ⟨place', hlt', hplace'⟩ := houter e hmem
  rw [hplace] at hplace'
  exact Option.some.inj hplace' ▸ hlt'

theorem callsFor_eq_nil_of_outer (hle : n ≤ place) (hlt : place < b.history.length) : callsFor place es = [] :=
  callsFor_eq_nil_iff.2 fun _ he hplace => Nat.not_lt_of_le hle (h.place_lt_of_outer houter he hplace hlt)

theorem callsBefore_eq_outer (hle : n ≤ b.history.length) : callsBefore n es = outer := by
  refine Eq.trans (List.filter_congr fun e he => ?_) h.outer_eq
  cases hplace : e.place? with
  | none => rfl
  | some place =>
    have hiff : place < n ↔ place < b.history.length :=
      ⟨fun hlt => Nat.lt_of_lt_of_le hlt hle, h.place_lt_of_outer houter he hplace⟩
    simp only [Option.any_some, hiff]

end Outer

/-- Stretches one after the other, where the second has no calls for posts of the first. -/
theorem append (h : Stretch outer b es) (h' : Stretch outer' (b.after es) es')
    (houter : ∀ e ∈ outer', ∃ place < b.history.length, e.place? = some place) :
    Stretch (outer ++ outer') b (es ++ es') := by
  have hlength := length_history_after b es
  exact {
    heard := by
      intro i what hi
      rw [callsFor_append]
      by_cases hlt : i < es.length
      · have hlate : callsFor (b.history.length + i) es' = [] :=
          h'.callsFor_eq_nil_of_outer houter (Nat.le_add_right _ _) (by omega)
        rw [List.getElem?_append_left hlt] at hi
        rw [hlate, List.append_nil, List.take_append_of_le_length (Nat.le_of_lt hlt), h.heard i what hi]
      · obtain ⟨i, rfl⟩ := Nat.exists_eq_add_of_le (Nat.le_of_not_lt hlt)
        have hprior : callsFor (b.history.length + (es.length + i)) es = [] :=
          h.callsFor_eq_nil_of_le (by omega)
        rw [List.getElem?_append_right (Nat.le_add_right _ _), Nat.add_sub_cancel_left] at hi
        have hheard := h'.heard i what hi
        rw [hlength, Nat.add_assoc, after_append] at hheard
        rw [hprior, List.nil_append, hheard, List.take_length_add_append]
    earlier := by
      intro j e place he hplace hle
      by_cases hlt : j < es.length
      · rw [List.getElem?_append_left hlt] at he
        obtain ⟨i, hi, heq, what, hposted⟩ := h.earlier j e place he hplace hle
        exact ⟨i, hi, heq, what, by rw [List.getElem?_append_left (by omega), hposted]⟩
      · rw [List.getElem?_append_right (Nat.le_of_not_lt hlt)] at he
        have hnew : (b.after es).history.length ≤ place := by
          refine Nat.le_of_not_lt fun hprior => ?_
          have hold := h'.place_lt_of_outer houter (List.mem_of_getElem? he) hplace hprior
          omega
        obtain ⟨i, hi, heq, what, hposted⟩ := h'.earlier _ e place he hplace hnew
        refine ⟨es.length + i, by omega, by omega, what, ?_⟩
        rw [List.getElem?_append_right (Nat.le_add_right _ _), Nat.add_sub_cancel_left, hposted]
    outer_eq := by
      rw [callsBefore_append, h.outer_eq, h'.callsBefore_eq_outer houter (by omega)] }

/-- A post and the stretch in which it is delivered: its calls for posts before it are one round for the post. -/
theorem posted (h : Stretch (round b.history.length what b.listeners) (b.after [.posted what]) es) :
    Stretch [] b (.posted what :: es) := by
  have hlength : (b.after [.posted what]).history.length = b.history.length + 1 := length_history_after b _
  exact {
    heard := by
      intro i what' hi
      change callsFor _ es = _
      cases i with
      | zero =>
        obtain rfl := Happening.posted.inj (Option.some.inj hi)
        have hposted : b.history.length < (b.after [.posted what]).history.length := by omega
        rw [Nat.add_zero, ← callsFor_callsBefore hposted, h.outer_eq, callsFor_round, List.take_zero, after_nil]
      | succ i =>
        have hheard := h.heard i what' hi
        have hplace : b.history.length + 1 + i = b.history.length + (i + 1) := by omega
        rw [hlength, hplace, after_append] at hheard
        exact hheard
    earlier := by
      intro j e place he hplace hle
      cases j with
      | zero =>
        obtain rfl := Option.some.inj he
        cases hplace
      | succ j =>
        rcases Nat.eq_or_lt_of_le hle with rfl | hlt
        · exact ⟨0, by omega, rfl, what, rfl⟩
        · obtain ⟨i, hi, heq, hposted⟩ := h.earlier j e place he hplace (by omega)
          exact ⟨i + 1, by omega, by omega, hposted⟩
    outer_eq := by
      change callsBefore _ es = []
      refine List.eq_nil_iff_forall_not_mem.2 fun e he => ?_
      obtain ⟨hmem, place, hlt, hplace⟩ := mem_callsBefore.1 he
      have hround := h.outer_eq ▸ mem_callsBefore.2 ⟨hmem, place, by omega, hplace⟩
      have hlast := place?_of_mem_round hround
      rw [hplace] at hlast
      exact Nat.lt_irrefl _ (Option.some.inj hlast ▸ hlt) }

end Stretch

namespace CarriedOut

theorem nil (b : Bus) : CarriedOut b [] := by
  intro j place number who what h
  cases h

/-- One thing more before, with what was carried out on it, if it is a call. -/
theorem cons (h : CarriedOut (b.after [e]) es)
    (hfirst : ∀ place number who what, e = .called place number who what →
      Finishes (who.react what) (b.after [e]) (b.after (e :: es))) : CarriedOut b (e :: es) := by
  intro j place number who what hj
  cases j with
  | zero =>
    refine ⟨es.length + 1, Nat.le_refl _, ?_⟩
    rw [List.take_succ_cons, List.take_succ_cons, List.take_zero, List.take_length]
    exact hfirst place number who what (Option.some.inj hj)
  | succ j =>
    obtain ⟨k, hk, hrun⟩ := h j place number who what hj
    rw [after_append, after_append] at hrun
    exact ⟨k + 1, Nat.succ_le_succ hk, hrun⟩

theorem append (h : CarriedOut b es) (h' : CarriedOut (b.after es) es') : CarriedOut b (es ++ es') := by
  intro j place number who what hj
  rw [List.length_append]
  by_cases hlt : j < es.length
  · rw [List.getElem?_append_left hlt] at hj
    obtain ⟨k, hk, hrun⟩ := h j place number who what hj
    refine ⟨k, by omega, ?_⟩
    rwa [List.take_append_of_le_length hlt, List.take_append_of_le_length hk]
  · obtain ⟨j, rfl⟩ := Nat.exists_eq_add_of_le (Nat.le_of_not_lt hlt)
    rw [List.getElem?_append_right (Nat.le_add_right _ _), Nat.add_sub_cancel_left] at hj
    obtain ⟨k, hk, hrun⟩ := h' j place number who what hj
    refine ⟨es.length + k, by omega, ?_⟩
    rwa [Nat.add_assoc, List.take_length_add_append, List.take_length_add_append, ← after_append, ← after_append]

end CarriedOut

section Runs

/-- Something was done to a bus between two states, with these calls for posts before the first. -/
def Ran (outer : List Happening) (b b' : Bus) : Prop :=
  ∃ es, b' = b.after es ∧ Stretch outer b es ∧ CarriedOut b es

namespace Ran

theorem refl (b : Bus) : Ran [] b b := ⟨[], (after_nil b).symm, .nil b, .nil b⟩

theorem length_le (h : Ran outer b b') : b.history.length ≤ b'.history.length := by
  obtain ⟨es, rfl, -⟩ := h
  rw [length_history_after]
  exact Nat.le_add_right _ _

theorem append (h : Ran outer b b') (h' : Ran outer' b' b'')
    (houter : ∀ e ∈ outer', ∃ place < b.history.length, e.place? = some place) :
    Ran (outer ++ outer') b b'' := by
  obtain ⟨es, rfl, hes, hcarried⟩ := h
  obtain ⟨es', rfl, hes', hcarried'⟩ := h'
  exact ⟨es ++ es', after_append b es es', hes.append hes' houter, hcarried.append hcarried'⟩

theorem subscribe (b : Bus) (who : Listener) : Ran [] b (b.subscribe who) :=
  ⟨[.subscribed who], rfl, .subscribed b who, (CarriedOut.nil _).cons nofun⟩

theorem called {number : Nat} (hplace : place < b.history.length)
    (hrun : Finishes (who.react what) (b.log (.called place number who what)) b')
    (h : Ran [] (b.log (.called place number who what)) b') : Ran [.called place number who what] b b' := by
  rw [log_eq_after rfl] at hrun h
  obtain ⟨es, rfl, hes, hcarried⟩ := h
  rw [after_append] at hrun
  refine ⟨_, after_append .., (Stretch.called hplace).append hes nofun, hcarried.cons fun _ _ _ _ he => ?_⟩
  obtain ⟨-, -, rfl, rfl⟩ := Happening.called.inj he
  exact hrun

theorem posted (h : Ran (round b.history.length what b.listeners) (b.log (.posted what)) b') : Ran [] b b' := by
  rw [log_eq_after rfl] at h
  obtain ⟨es, rfl, hes, hcarried⟩ := h
  exact ⟨_, after_append .., hes.posted, hcarried.cons nofun⟩

end Ran

mutual

theorem Finishes.ran {script : Script} {b b' : Bus} : Finishes script b b' → Ran [] b b'
  | .done b => .refl b
  | .subscribe h => (Ran.subscribe _ _).append h.ran nofun
  | .post h hrest => (Ran.posted (h.ran (lt_length_history_log _ _))).append hrest.ran nofun
  | .recall h => h.ran

theorem Delivers.ran {place : Nat} {what : Notice} {xs : List (Listener × Nat)} {b b' : Bus} :
    Delivers place what xs b b' → place < b.history.length →
      Ran (xs.map fun x => .called place x.2 x.1 what) b b'
  | .nil _ _ b, _ => .refl b
  | .cons h hrest, hplace => by
    have hfirst := Ran.called hplace h h.ran
    refine hfirst.append (hrest.ran (Nat.lt_of_lt_of_le hplace hfirst.length_le)) fun e he => ?_
    obtain ⟨x, -, rfl⟩ := List.mem_map.1 he
    exact ⟨_, hplace, rfl⟩

end

end Runs

section Newcomers

variable {i j : Nat}

theorem listeners_after_take_succ (hj : es[j]? = some (.subscribed who)) :
    (b.after (es.take (j + 1))).listeners = (b.after (es.take j)).listeners ++ [who] := by
  rw [List.take_add_one, hj, ← after_append]
  rfl

theorem listeners_after_take_mono (b : Bus) (es : List Happening) (h : i ≤ j) :
    (b.after (es.take i)).listeners <+: (b.after (es.take j)).listeners := by
  obtain ⟨rest, hrest⟩ : es.take i <+: es.take j := List.take_prefix_take_left h
  rw [← hrest, ← after_append]
  exact List.prefix_append _ _

/-- Who subscribes is among those who listen afterwards, with the number of those before as its number. -/
theorem getElem?_listeners_of_lt (hj : es[j]? = some (.subscribed who)) (h : j < i) :
    (b.after (es.take i)).listeners[(b.after (es.take j)).listeners.length]? = some who := by
  obtain ⟨rest, hrest⟩ := listeners_after_take_mono b es (Nat.succ_le_of_lt h)
  rw [← hrest, listeners_after_take_succ hj, List.append_assoc, List.getElem?_append_right (Nat.le_refl _),
    Nat.sub_self]
  rfl

/-- Before, nobody had that number. -/
theorem getElem?_listeners_of_le (b : Bus) (es : List Happening) (h : i ≤ j) :
    (b.after (es.take i)).listeners[(b.after (es.take j)).listeners.length]? = none :=
  List.getElem?_eq_none_iff.2 (listeners_after_take_mono b es h).length_le

end Newcomers

/-- Let a script be carried out to its end, in which listeners that are called subscribe others and post notices,
    however deeply nested.  This is what comes of it within any bound on the depth but for small ones.  Nobody who
    subscribed is lost.  For every post, those who listened when it was made are called after it, each once, in
    their order, with what was posted, and nobody else is called; what a listener does when it is called is what
    happens next.  Who subscribes is not called for what was posted before, even if it is still under delivery,
    and is called once for everything that is posted afterwards. -/
theorem finishes_delivers (script : Script) (b b' : Bus) (hrun : Finishes script b b') :
    (∃ depth, ∀ deeper, depth ≤ deeper → follow (post deeper) script b = some b') ∧
    ∃ es, b'.history = b.history ++ es ∧ b'.listeners = b.listeners ++ subscribers es ∧
      (∀ i what, es[i]? = some (.posted what) →
        callsFor (b.history.length + i) es =
          round (b.history.length + i) what (b.after (es.take i)).listeners) ∧
      (∀ j place number who what, es[j]? = some (.called place number who what) →
        (∃ i < j, place = b.history.length + i ∧ es[i]? = some (.posted what)) ∧
        ∃ k ≤ es.length, Finishes (who.react what) (b.after (es.take (j + 1))) (b.after (es.take k))) ∧
      (∀ j who, es[j]? = some (.subscribed who) →
        let number := (b.after (es.take j)).listeners.length
        b'.listeners[number]? = some who ∧
        ∀ i what, es[i]? = some (.posted what) →
          (callsFor (b.history.length + i) es).filter (fun e => e.number? = some number) =
            if j < i then [.called (b.history.length + i) number who what] else []) := by
  refine ⟨finishes_iff.1 hrun, ?_⟩
  obtain ⟨es, rfl, hes, hcarried⟩ := hrun.ran
  refine ⟨es, rfl, rfl, hes.heard, ?_, ?_⟩
  · intro j place number who what hj
    refine ⟨?_, hcarried j place number who what hj⟩
    have hmem := List.mem_of_getElem? hj
    have hplace : b.history.length ≤ place := by
      refine Nat.le_of_not_lt fun hlt => ?_
      have hbefore := mem_callsBefore.2 ⟨hmem, place, hlt, rfl⟩
      rw [hes.outer_eq] at hbefore
      cases hbefore
    obtain ⟨i, hi, rfl, what', hposted⟩ := hes.earlier j _ place hj rfl hplace
    have hround := hes.heard i what' hposted ▸ mem_callsFor.2 ⟨hmem, rfl⟩
    obtain ⟨x, -, hx⟩ := List.mem_map.1 hround
    obtain ⟨-, -, -, rfl⟩ := Happening.called.inj hx
    exact ⟨i, hi, rfl, hposted⟩
  · intro j who hj number
    constructor
    · have hlt := (List.getElem?_eq_some_iff.1 hj).1
      have hlast := getElem?_listeners_of_lt (b := b) hj hlt
      rwa [List.take_length] at hlast
    · intro i what hi
      rw [hes.heard i what hi, filter_round]
      split
      next hlt => rw [getElem?_listeners_of_lt hj hlt]; rfl
      next hnot => rw [getElem?_listeners_of_le b es (Nat.le_of_not_lt hnot)]; rfl

/-- The first of two listeners, at the first call there is, subscribes a third one and posts another notice. -/
theorem finishes_delivers_nested :
    let late : Listener := .listener "late" fun _ => []
    let second : Listener := .listener "second" fun _ => []
    let first : Listener := .scripted "first" fun _ => .recall fun calls =>
      if calls.length = 1 then .subscribe late (.post (.exported "nested") .done) else .done
    let script : Script :=
      .subscribe first (.subscribe second (.post (.tagsChanged 1) (.post (.tagsChanged 2) .done)))
    let b' : Bus := {
      listeners := [first, second, late]
      history := [.subscribed first, .subscribed second,
        .posted (.tagsChanged 1), .called 2 0 first (.tagsChanged 1),
        .subscribed late, .posted (.exported "nested"), .called 5 0 first (.exported "nested"),
        .called 5 1 second (.exported "nested"), .called 5 2 late (.exported "nested"),
        .called 2 1 second (.tagsChanged 1),
        .posted (.tagsChanged 2), .called 10 0 first (.tagsChanged 2), .called 10 1 second (.tagsChanged 2),
        .called 10 2 late (.tagsChanged 2)] }
    Finishes script {} b' ∧ follow (post 2) script {} = some b' ∧
      callsFor 2 b'.history = round 2 (.tagsChanged 1) [first, second] ∧
      callsFor 5 b'.history = round 5 (.exported "nested") [first, second, late] ∧
      (callsFor 2 b'.history).filter (fun e => e.number? = some 2) = [] ∧
      (callsFor 10 b'.history).filter (fun e => e.number? = some 2) = [.called 10 2 late (.tagsChanged 2)] := by
  intro late second first script b'
  have hbounded : follow (post 2) script {} = some b' := by
    simp [b', script, first, second, late, follow, post, call, each, log, calls, subscribe, Listener.listener,
      Listener.label, Listener.react, Script.ofDeeds]
  have hrun : Finishes script {} b' := finishes_of_follow delivers_of_post hbounded
  obtain ⟨-, es, hhistory, -, hheard, -, hnew⟩ := finishes_delivers script {} b' hrun
  obtain rfl : b'.history = es := hhistory
  obtain ⟨-, hlate⟩ := hnew 4 late rfl
  exact ⟨hrun, hbounded, hheard 2 (.tagsChanged 1) rfl, hheard 5 (.exported "nested") rfl,
    hlate 2 (.tagsChanged 1) rfl, hlate 10 (.tagsChanged 2) rfl⟩

end Bus

end Stocktake
