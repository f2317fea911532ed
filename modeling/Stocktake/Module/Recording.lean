import Stocktake.Module.Basic

/-!
# Recording what was found

An import turns everything it found into writes and asks for them in one batch.  The first write that
is refused ends it.
-/

namespace Stocktake

/-- Runs the writes of things in order, with a report after each thing, up to the first write that is
    refused. -/
def recordAll {α : Type} (writes : α → List Write) (message : String) (total : Nat) :
    (done : Nat) → List α → World → Except StoreError Unit × World
  | _, [], w => (.ok (), w)
  | done, x :: rest, w =>
    match World.writeAll (writes x) w with
    | (.ok (), w) =>
      recordAll writes message total (done + 1) rest
        (w.report (.steps (done + 1) total message))
    | (.error e, w) => (.error e, w)

/-- Records things in one batch and tells the listeners when all of them are. -/
def recordBatch {α : Type} (name message : String) (writes : α → List Write) (xs : List α)
    (w : World) : Except ModuleError Unit × World :=
  let (r, w) := w.inBatch (recordAll writes message (max xs.length 1) 0 xs)
  match r with
  | .ok () => (.ok (), w.post (.imported name))
  | .error e => (.error (.store e), w)

end Stocktake
