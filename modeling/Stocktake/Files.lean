import Stocktake.Text.Octets
import Stocktake.Text.Split

/-!
# Files

A tree of directories and files, and the ways by which paths lead through it.  The entries of a
directory stand in increasing order of their names.  Names are octets, which need not spell a text; a
path is a text, and leads by the octets of its parts.
-/

namespace Stocktake

/-- The name of a file or a directory. -/
abbrev FileName := List UInt8

/-- A file with its octets, or a directory. -/
inductive FileTree where
  | file (octets : List UInt8)
  | directory (entries : List (FileName × FileTree))
  deriving Inhabited

namespace FileTree

/-- A directory with nothing in it. -/
def emptyDirectory : FileTree := .directory []

/-- Whether it is a directory. -/
def isDirectory : FileTree → Bool
  | .directory _ => true
  | .file _ => false

/-- The entries of a directory; a file has none. -/
def entries : FileTree → List (FileName × FileTree)
  | .directory es => es
  | .file _ => []

/-- What is under a name. -/
def child? (name : FileName) (t : FileTree) : Option FileTree :=
  (t.entries.find? fun e => e.1 == name).map Prod.snd

/-- What is at the end of names that lead down. -/
def at? : List FileName → FileTree → Option FileTree
  | [], t => some t
  | name :: rest, t => (t.child? name).bind (at? rest)

/-- Puts something under a name, keeping the order of the names. -/
def putEntry (name : FileName) (x : FileTree) :
    List (FileName × FileTree) → List (FileName × FileTree)
  | [] => [(name, x)]
  | (n, t) :: rest =>
    if name < n then (name, x) :: (n, t) :: rest
    else if n = name then (n, x) :: rest
    else (n, t) :: putEntry name x rest

/-- Puts something at the end of names; all directories that lead there have to be there. -/
def put? (x : FileTree) : List FileName → FileTree → Option FileTree
  | _, .file _ => none
  | [], .directory _ => none
  | [name], .directory es => some (.directory (putEntry name x es))
  | name :: rest, .directory es =>
    match (FileTree.directory es).child? name with
    | none => none
    | some below => (put? x rest below).map fun t => .directory (putEntry name t es)

/-- The tree with directories at all of the names; `none` if a file is in the way. -/
def makeDirectories? : List FileName → FileTree → Option FileTree
  | _, .file _ => none
  | [], .directory es => some (.directory es)
  | name :: rest, .directory es =>
    let below := ((FileTree.directory es).child? name).getD emptyDirectory
    (makeDirectories? rest below).map fun t => .directory (putEntry name t es)

/-- The tree with a file at the end of names and with the directories that lead there. -/
def plant? (names : List FileName) (octets : List UInt8) (root : FileTree) : Option FileTree :=
  (makeDirectories? names.dropLast root).bind (put? (.file octets) names)

mutual

/-- The names that lead to the files, and their octets: the entries of a directory by their names,
    what is in a directory at its place. -/
def walk (path : List FileName) : FileTree → List (List FileName × List UInt8)
  | .file octets => [(path, octets)]
  | .directory es => walkEntries path es

/-- The files of the entries of a directory. -/
def walkEntries (path : List FileName) :
    List (FileName × FileTree) → List (List FileName × List UInt8)
  | [] => []
  | (name, t) :: rest => walk (path ++ [name]) t ++ walkEntries path rest

end

/-- The parts of a path.  An empty part stands before a slash at the start. -/
def parts (path : String) : List FileName := (Text.pieces path "/").map Text.octets

/-- The part of a path that leads nowhere else. -/
def currentPart : FileName := Text.octets "."

/-- The part of a path that leads to the directory above. -/
def parentPart : FileName := Text.octets ".."

/-- Whether a path can lead anywhere: it has no null character and no part of more than 255 octets. -/
def isSound (path : String) : Bool :=
  !path.toList.contains (Char.ofNat 0) && (parts path).all fun p => p.length ≤ 255

/-- Follows the parts of a path from a directory, every part but the last having to lead to a
    directory.  The result is how to get to the end from the root. -/
def follow (root : FileTree) : (here : List FileName) → List FileName → Option (List FileName)
  | here, [] => some here
  | here, part :: rest =>
    match root.at? here with
    | some (.directory _) =>
      if part = [] ∨ part = currentPart then follow root here rest
      else if part = parentPart then follow root here.dropLast rest
      else follow root (here ++ [part]) rest
    | _ => none

/-- Where a path leads from a directory; a path that starts with a slash leads from the root. -/
def resolve? (root : FileTree) (here : List FileName) (path : String) : Option (List FileName) :=
  if path = "" ∨ !isSound path then none
  else follow root (if Text.startsWith path "/" then [] else here) (parts path)

/-- The octets of the file at a path. -/
def read? (root : FileTree) (here : List FileName) (path : String) : Option (List UInt8) :=
  match (root.resolve? here path).bind fun names => root.at? names with
  | some (.file octets) => some octets
  | _ => none

/-- The text of the file at a path. -/
def readText? (root : FileTree) (here : List FileName) (path : String) : Option String :=
  (root.read? here path).bind Text.decode?

/-- The tree with a file at a path.  What ends like the path of a directory is no path of a file. -/
def write? (root : FileTree) (here : List FileName) (path : String) (octets : List UInt8) :
    Option FileTree :=
  let last := ((parts path).getLast?).getD []
  if last = [] ∨ last = currentPart ∨ last = parentPart then none
  else
    (root.resolve? here path).bind fun names =>
      match root.at? names with
      | some (.directory _) => none
      | _ => put? (.file octets) names root

/-- Follows the parts of a path like `follow`, making the directories that are missing. -/
def followMaking :
    (here : List FileName) → List FileName → FileTree → Option (List FileName × FileTree)
  | here, [], root => some (here, root)
  | here, part :: rest, root =>
    if part = [] ∨ part = currentPart then followMaking here rest root
    else if part = parentPart then followMaking here.dropLast rest root
    else
      (makeDirectories? (here ++ [part]) root).bind fun root => followMaking (here ++ [part]) rest root

/-- Makes the directory at a path and those that lead there, and says where it is. -/
def ensureDirectory? (root : FileTree) (here : List FileName) (path : String) :
    Option (List FileName × FileTree) :=
  if !isSound path then none
  else followMaking (if Text.startsWith path "/" then [] else here) (parts path) root

/-- The directory at a path, which is made if it is not there. -/
def openDirectory (root : FileTree) (here : List FileName) (path : String) :
    Option FileTree × FileTree :=
  match root.ensureDirectory? here path with
  | none => (none, root)
  | some (names, root) =>
    match root.at? names with
    | some (.directory es) => (some (.directory es), root)
    | _ => (none, root)

end FileTree

end Stocktake
