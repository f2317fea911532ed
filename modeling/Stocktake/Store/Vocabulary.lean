import Stocktake.Digest.Sha256
import Stocktake.Text.Split

/-!
# Names of subjects and properties

The namespace that everything recorded lives in, and the texts that queries are put together from.
-/

namespace Stocktake.Vocabulary

/-- The start of every name. -/
def space : String := "http://inventag.local/"

/-- The full name of a local one. -/
def uri (localName : String) : String := space ++ localName

/-- The property of tags. -/
def tagProperty : String := "http://inventag.local/tag"

/-- The property of names that people read. -/
def nameProperty : String := "http://inventag.local/name"

/-- The property of the name of a tag. -/
def tagNameProperty : String := "http://inventag.local/tagName"

/-- The name of the subject of a kind that a natural key belongs to.  The key is hashed, so that any
    key gives a well-formed name. -/
def resourceUri (kind key : String) : String := space ++ kind ++ "/" ++ Sha256.hex key

/-- What stands for a subject in a query. -/
def uriPlaceholder : String := "?uri"

/-- What stands for the user's pattern in the template of a query. -/
def patternPlaceholder : String := "?pattern"

/-- How a character is written inside a literal. -/
def literalChar (c : Char) : List Char :=
  if c = '\\' then ['\\', '\\'] else if c = '"' then ['\\', '"'] else [c]

/-- A text as a literal of a query: in double quotes, with a backslash before quotes and
    backslashes. -/
def literal (text : String) : String :=
  String.ofList ('"' :: text.toList.flatMap literalChar ++ ['"'])

/-- The query for the names of all tags. -/
def tagNamesQuery : String :=
  "SELECT DISTINCT ?name WHERE \x7b ?s <http://inventag.local/tag> ?t . " ++
    "?t <http://inventag.local/tagName> ?name \x7d ORDER BY ?name"

/-- The part of a name after its last slash or hash, or all of it if nothing follows. -/
def localName (uri : String) : String :=
  match Text.afterLast (fun c => c == '/' || c == '#') uri.toList with
  | [] => uri
  | last => String.ofList last

end Stocktake.Vocabulary
