import Stocktake.Action.Parameter
import Stocktake.Text.Quoted
import Stocktake.World

/-!
# Actions

An action works on the selected records: on those with a subject, on all of them, or on none.  It is
enabled when there are such records, and what it did is told by an outcome.
-/

namespace Stocktake

/-- What an action did. -/
inductive Outcome
  | success (affected : Nat) (details : String)
  | partly (succeeded failed : Nat) (errors : List String)
  | failed (reason : String)
  deriving DecidableEq, Repr

namespace Outcome

/-- Something was done. -/
def isSuccess : Outcome → Bool
  | .failed _ => false
  | _ => true

/-- How many records were affected. -/
def affected? : Outcome → Option Nat
  | .success n _ => some n
  | .partly n _ _ => some n
  | .failed _ => none

/-- The outcome of single results. -/
def ofResults (affected : Nat) (errors : List String) (details : String) : Outcome :=
  if errors.isEmpty then .success affected details
  else if affected > 0 then .partly affected errors.length errors
  else .failed (Text.join "; " errors)

end Outcome

/-- What an action needs of the selection. -/
inductive Need
  /-- Records with a subject; the others are not passed on. -/
  | resources
  /-- Any records. -/
  | selection
  | nothing
  deriving DecidableEq, Repr

/-- How a need is called. -/
def Need.text : Need → String
  | .resources => "resources"
  | .selection => "selection"
  | .nothing => "none"

/-- Whether a selection satisfies the need. -/
def Need.satisfied (records : List Record) : Need → Bool
  | .resources => records.any fun r => r.reference.isSome
  | .selection => !records.isEmpty
  | .nothing => true

/-- The records of a selection that an action gets. -/
def Need.pass (records : List Record) : Need → List Record
  | .resources => records.filter fun r => r.reference.isSome
  | .selection => records
  | .nothing => []

/-- An action in surroundings `σ`. -/
structure Action (σ : Type) where
  name : String
  description : String
  need : Need
  parameters : List Parameter := []
  run : List Parameter → List Record → σ → Except ModuleError Outcome × σ

namespace Action

variable {σ : Type}

/-- Whether the action can be called on a selection. -/
def isEnabled (a : Action σ) (selection : List Record) : Bool := a.need.satisfied selection

/-- Calls the action on a selection. -/
def invoke (a : Action σ) (selection : List Record) (s : σ) : Except ModuleError Outcome × σ :=
  if a.isEnabled selection then a.run a.parameters (a.need.pass selection) s
  else (.error (.actionDisabled a.name), s)

/-- The name of the action and what it needs. -/
def label (a : Action σ) : String := a.name ++ " [" ++ a.need.text ++ "]"

/-- How an action is shown to programmers. -/
def debugText (a : Action σ) : String :=
  "Action \x7b kind: " ++ Text.quoted a.need.text ++ ", name: " ++ Text.quoted a.name ++ " \x7d"

end Action

/-- Sets the first parameter of that name; a name that no parameter has changes nothing. -/
def setParameter (store : Store) (name value : String) :
    List Parameter → Except ModuleError (List Parameter)
  | [] => .ok []
  | p :: rest =>
    if p.name = name then (p.set store value).map (· :: rest)
    else (setParameter store name value rest).map (p :: ·)

end Stocktake
