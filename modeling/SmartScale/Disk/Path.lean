import SmartScale.Text.Blank

/-!
# Paths

File paths with `/` between their names: which are absolute, how a path continues a directory, the
directory that holds a file, and the last name.
-/

namespace SmartScale

namespace Path

def isAbsolute (path : String) : Bool := path.toList.head? == some '/'

/-- The text cut at every slash. -/
def pieces (path : List Char) : List (List Char) :=
  match path with
  | [] => [[]]
  | c :: rest =>
    if c = '/' then [] :: pieces rest
    else match pieces rest with
      | piece :: more => (c :: piece) :: more
      | [] => [[c]]

/-- The names of a path; empty names and the name `.` say nothing. -/
def names (path : String) : List String :=
  ((pieces path.toList).map String.ofList).filter fun name => name != "" && name != "."

/-- The last name, unless it leads back up. -/
def fileName? (path : String) : Option String :=
  match (names path).getLast? with
  | some name => if name = ".." then none else some name
  | none => none

/-- A path taken relative to a directory. -/
def join (directory path : String) : String :=
  if isAbsolute path || directory = "" then path
  else if directory.toList.getLast? = some '/' then directory ++ path
  else directory ++ "/" ++ path

/-- The pieces of a path without those at the end that say nothing. -/
def dropIdle (pieces : List (List Char)) : List (List Char) :=
  Text.dropEndWhile (fun piece => piece.isEmpty || piece == ['.']) pieces

/-- Pieces with a slash between any two. -/
def ofPieces (pieces : List (List Char)) : String :=
  String.intercalate "/" (pieces.map String.ofList)

/-- The directory part of a path: all before its last name.  A dot at the beginning of a path is
kept where a name follows. -/
def parent (path : String) : String :=
  match pieces path.toList with
  | [] :: inside@(_ :: _) => "/" ++ ofPieces (dropIdle (dropIdle inside).dropLast)
  | ['.'] :: inside =>
    if (dropIdle inside).isEmpty then ""
    else ofPieces (['.'] :: dropIdle (dropIdle inside).dropLast)
  | all => ofPieces (dropIdle (dropIdle all).dropLast)

end Path

end SmartScale
