import Stocktake.Store.Basic

/-!
# Setting up a store

Changes that are made to a store from outside: what it holds, how it answers queries, and what it
refuses.
-/

namespace Stocktake

/-- A change from outside. -/
inductive Setup
  /-- A subject gets a name, attributes and tags; with a kind it starts anew. -/
  | subject (uri name : String) (kind : Option String) (attributes : List (String × String))
      (tags : List Tag)
  | answerSelect (query : String) (rows : List Row)
  | answerAsk (query : String) (answer : Bool)
  | refuseQuery (query reason : String)
  /-- Refuses an operation for a subject, or no longer. -/
  | refuse (op : Operation) (uri : String) (refusal : Option Refusal)
  | forget (uri property : String)

namespace Store

/-- Refusals with those of one operation changed. -/
def changeRefusals (op : Operation) (change : Dict Refusal → Dict Refusal) :
    List (Operation × Dict Refusal) → List (Operation × Dict Refusal)
  | [] => [(op, change .empty)]
  | (o, d) :: rest => if o = op then (o, change d) :: rest else (o, d) :: changeRefusals op change rest

/-- The store after a change from outside. -/
def setUp (s : Store) : Setup → Store
  | .subject uri name kind attributes tags =>
    let x : Subject := match kind with
      | some kind => { kind }
      | none => (s.subjects.get? uri).getD {}
    s.put uri
      { x with name, attributes := x.attributes ++ attributes, tags := x.tags ++ tags }
  | .answerSelect query rows =>
    { s with
      selects := s.selects.insert query rows
      refusedQueries := s.refusedQueries.erase query }
  | .answerAsk query answer =>
    { s with
      asks := s.asks.insert query answer
      refusedQueries := s.refusedQueries.erase query }
  | .refuseQuery query reason =>
    { s with refusedQueries := s.refusedQueries.insert query reason }
  | .refuse op uri refusal =>
    let change := fun (d : Dict Refusal) => match refusal with
      | some r => d.insert uri r
      | none => d.erase uri
    { s with refusals := changeRefusals op change s.refusals }
  | .forget uri property =>
    match s.subjects.get? uri with
    | some x => s.put uri (x.without property)
    | none => s

/-- The store after changes from outside, in order. -/
def setUpAll (s : Store) (changes : List Setup) : Store := changes.foldl setUp s

end Store

end Stocktake
