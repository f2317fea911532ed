import Stocktake.Record.Basic
import Stocktake.Regex.Expr
import Stocktake.Regex.Size
import Stocktake.Text.Quoted

/-!
# Filters

Predicates on records as trees: single tests at the leaves, and the three combinators above them.
Main statements: `accepts_and`, `accepts_or` and `accepts_not` say what the combinators mean.
-/

namespace Stocktake

/-- A test of a record. -/
inductive Filter
  /-- Holds of everything. -/
  | all
  /-- The display or the value of a field contains the pattern, whatever the case. -/
  | text (pattern : String)
  /-- The display contains the pattern, whatever the case. -/
  | name (pattern : String)
  /-- A tag has this very name; with the empty name, always. -/
  | tag (pattern : String)
  /-- The expression occurs in the display. -/
  | regex (pattern : Regex.Pattern)
  /-- The record refers to this very subject. -/
  | uri (pattern : String)
  /-- The store says yes to the query about the subject. -/
  | ask (label query : String)
  | and (children : List Filter)
  | or (children : List Filter)
  /-- The first child does not hold; the others do not count. -/
  | not (children : List Filter)
  /-- Any other test, described by a text of its own. -/
  | custom (description : String) (holds : Store → Reading → Bool)
  deriving Inhabited

namespace Filter

/-- Whether `text` contains `pattern`, whatever the case. -/
def containsFolded (text pattern : String) : Bool :=
  Text.occursIn (Text.lowerChars pattern.toList) (Text.lowerChars text.toList)

/-- The query about a subject that a pattern stands for. -/
def queryFor (query uri : String) : String :=
  Text.replace query Vocabulary.uriPlaceholder ("<" ++ uri ++ ">")

/-- Whether the store says yes to the query about the subject of a record.  A record without a
    subject, and a query that fails, give no. -/
def asks (store : Store) (query : String) (r : Reading) : Bool :=
  match r.uri with
  | none => false
  | some subject =>
    match store.ask (queryFor query subject) with
    | .ok answer => answer
    | .error _ => false

mutual

/-- Whether the record passes the filter. -/
def accepts (store : Store) (r : Reading) : Filter → Bool
  | .all => true
  | .text pattern =>
    containsFolded r.display pattern || r.fields.values.any fun v => containsFolded v pattern
  | .name pattern => containsFolded r.display pattern
  | .tag pattern => pattern == "" || Tag.anyNamed pattern r.tags
  | .regex pattern => pattern.occursIn r.display
  | .uri pattern => r.uri == some pattern
  | .ask _ query => asks store query r
  | .and children => allAccept store r children
  | .or children => anyAccepts store r children
  | .not children => firstFails store r children
  | .custom _ holds => holds store r

/-- Whether the record passes every filter. -/
def allAccept (store : Store) (r : Reading) : List Filter → Bool
  | [] => true
  | f :: rest => accepts store r f && allAccept store r rest

/-- Whether the record passes some filter. -/
def anyAccepts (store : Store) (r : Reading) : List Filter → Bool
  | [] => false
  | f :: rest => accepts store r f || anyAccepts store r rest

/-- Whether the record does not pass the first filter, if there is one. -/
def firstFails (store : Store) (r : Reading) : List Filter → Bool
  | [] => true
  | f :: _ => !accepts store r f

end

theorem allAccept_eq (store : Store) (r : Reading) (fs : List Filter) :
    allAccept store r fs = fs.all (accepts store r) := by
  induction fs with
  | nil => rw [allAccept, List.all_nil]
  | cons f fs ih => rw [allAccept, ih, List.all_cons]

theorem anyAccepts_eq (store : Store) (r : Reading) (fs : List Filter) :
    anyAccepts store r fs = fs.any (accepts store r) := by
  induction fs with
  | nil => rw [anyAccepts, List.any_nil]
  | cons f fs ih => rw [anyAccepts, ih, List.any_cons]

theorem accepts_and (store : Store) (r : Reading) (fs : List Filter) :
    accepts store r (.and fs) = fs.all (accepts store r) := by
  rw [accepts, allAccept_eq]

theorem accepts_or (store : Store) (r : Reading) (fs : List Filter) :
    accepts store r (.or fs) = fs.any (accepts store r) := by
  rw [accepts, anyAccepts_eq]

theorem accepts_not_nil (store : Store) (r : Reading) : accepts store r (.not []) = true := by
  rw [accepts, firstFails]

theorem accepts_not_cons (store : Store) (r : Reading) (f : Filter) (fs : List Filter) :
    accepts store r (.not (f :: fs)) = !accepts store r f := by
  rw [accepts, firstFails]

/-- A test as it is shown: its name and the quoted pattern. -/
def describeLeaf (label pattern : String) : String := label ++ "(" ++ Text.quoted pattern ++ ")"

mutual

/-- The filter as it is shown. -/
def describe : Filter → String
  | .all => "all"
  | .text pattern => describeLeaf "text" pattern
  | .name pattern => describeLeaf "name" pattern
  | .tag pattern => describeLeaf "tag" pattern
  | .regex pattern => describeLeaf "regex" pattern.source
  | .uri pattern => describeLeaf "uri" pattern
  | .ask label query => describeLeaf label query
  | .and children => "and(" ++ describeList children ++ ")"
  | .or children => "or(" ++ describeList children ++ ")"
  | .not children => "not(" ++ describeList children ++ ")"
  | .custom description _ => description

/-- Filters as they are shown inside a combinator. -/
def describeList : List Filter → String
  | [] => ""
  | [f] => describe f
  | f :: rest => describe f ++ ", " ++ describeList rest

end

end Filter

end Stocktake
