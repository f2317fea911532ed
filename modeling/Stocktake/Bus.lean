import Stocktake.World

/-!
# Listeners

A notice goes to everyone who listens when it is posted, in the order in which they subscribed.  A
listener may subscribe others and post notices while it is called: those who subscribe meanwhile do
not hear of the notice under delivery, and a notice posted meanwhile is delivered at once.
-/

namespace Stocktake

mutual

/-- A listener, known by a label, and what it does when it hears of a notice. -/
inductive Listener where
  | scripted (label : String) (react : Notice → Script)

/-- What a listener does while it is called, step by step. -/
inductive Script where
  | done
  | subscribe (who : Listener) (rest : Script)
  | post (what : Notice) (rest : Script)
  /-- Goes on as it is fit after the calls made by now.  A listener that remembers something, or has it
      from others, knows it from these. -/
  | recall (rest : List (String × Notice) → Script)

end

/-- What can be asked of a bus. -/
inductive Deed where
  | subscribe (who : Listener)
  | post (what : Notice)

/-- The deeds one after the other. -/
def Script.ofDeeds : List Deed → Script
  | [] => .done
  | .subscribe who :: rest => .subscribe who (ofDeeds rest)
  | .post what :: rest => .post what (ofDeeds rest)

/-- A listener that remembers nothing. -/
def Listener.listener (label : String) (react : Notice → List Deed) : Listener :=
  .scripted label fun what => .ofDeeds (react what)

instance : Inhabited Listener := ⟨.listener "" fun _ => []⟩

instance : Inhabited Deed := ⟨.subscribe default⟩

/-- The label of a listener. -/
def Listener.label : Listener → String
  | .scripted label _ => label

/-- What a listener does on a notice. -/
def Listener.react : Listener → Notice → Script
  | .scripted _ react => react

/-- Something that happened on a bus. -/
inductive Happening where
  | subscribed (who : Listener)
  | posted (what : Notice)
  /-- The listener of that number was called for what was posted at that place in the history. -/
  | called (place number : Nat) (who : Listener) (what : Notice)

/-- Those who listen, each with its place as its number, and what has happened so far. -/
structure Bus where
  listeners : List Listener := []
  history : List Happening := []

/-- Does something with every item in order, as long as it can be done. -/
def each {α σ : Type} (act : α → σ → Option σ) : List α → σ → Option σ
  | [], s => some s
  | x :: rest, s => (act x s).bind (each act rest)

namespace Bus

/-- The calls made so far, with the labels of those called. -/
def calls (b : Bus) : List (String × Notice) :=
  b.history.filterMap fun
    | .called _ _ who what => some (who.label, what)
    | _ => none

/-- The bus after something more happened. -/
def log (b : Bus) (what : Happening) : Bus := { b with history := b.history ++ [what] }

/-- The bus with one more listener. -/
def subscribe (b : Bus) (who : Listener) : Bus :=
  { b.log (.subscribed who) with listeners := b.listeners ++ [who] }

/-- Carries out a script, where `deliver` delivers what is posted. -/
def follow (deliver : Notice → Bus → Option Bus) : Script → Bus → Option Bus
  | .done, b => some b
  | .subscribe who rest, b => follow deliver rest (b.subscribe who)
  | .post what rest, b => (deliver what b).bind fun b => follow deliver rest b
  | .recall rest, b => follow deliver (rest b.calls) b

/-- Calls a listener of a number, who hears of what was posted at a place in the history. -/
def call (deliver : Notice → Bus → Option Bus) (place : Nat) (what : Notice) (x : Listener × Nat)
    (b : Bus) : Option Bus :=
  follow deliver (x.1.react what) (b.log (.called place x.2 x.1 what))

/-- Delivers a notice to those who listen now.  Notices posted meanwhile may be nested `depth` deep;
    `none` if they are nested deeper. -/
def post : (depth : Nat) → Notice → Bus → Option Bus
  | 0, _, _ => none
  | depth + 1, what, b =>
    each (call (post depth) b.history.length what) b.listeners.zipIdx (b.log (.posted what))

/-- Does what is asked. -/
def perform (depth : Nat) : Deed → Bus → Option Bus
  | .subscribe who, b => some (b.subscribe who)
  | .post what, b => post depth what b

end Bus

end Stocktake
