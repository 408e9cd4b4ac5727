import SmartScale.Disk.Path
import SmartScale.Store.Basic

/-!
# The host's files

The part of a host's file system that the program can see: files and directories by the names that
lead to them, below a working directory.  Paths are resolved name by name, and every operation that
fails says so with the host's own words.

A file is replaced through `DiskStep`s: create, append, sync, rename.  A rename takes effect as a
whole; `Disk.perform` carries the steps out until one fails and keeps what was done by then.
-/

namespace SmartScale

inductive Node
  | file (bytes : Image)
  | directory
  deriving DecidableEq, Repr

inductive DiskError
  /-- A name on the path stands for nothing. -/
  | noEntry
  /-- A name on the path stands for a file where a directory is needed. -/
  | notDirectory
  /-- The path stands for a directory where a file is needed. -/
  | isDirectory
  /-- A name or the path is longer than the host allows. -/
  | nameTooLong
  | zeroCharacter
  deriving DecidableEq, Repr

/-- The host's words for the error. -/
def DiskError.message : DiskError → String
  | noEntry => "No such file or directory (os error 2)"
  | notDirectory => "Not a directory (os error 20)"
  | isDirectory => "Is a directory (os error 21)"
  | nameTooLong => "File name too long (os error 36)"
  | zeroCharacter => "file name contained an unexpected NUL byte"

/-- The visible files and directories. -/
structure Disk where
  /-- The names that lead from the root to the working directory. -/
  workingDirectory : List String
  /-- The nodes below, by the names that lead to them from the root. -/
  entries : List (List String × Node)
  deriving DecidableEq, Repr

namespace Disk

/-- A disk of which the working directory is empty. -/
def empty : Disk := ⟨["work"], []⟩

/-- The node at a place.  The way down to the working directory consists of directories. -/
def node? (disk : Disk) (place : List String) : Option Node :=
  if place.isPrefixOf disk.workingDirectory then some .directory
  else (disk.entries.find? fun entry => entry.1 == place).map Prod.snd

def erase (disk : Disk) (place : List String) : Disk :=
  { disk with entries := disk.entries.filter fun entry => entry.1 != place }

def put (disk : Disk) (place : List String) (node : Node) : Disk :=
  { disk with entries := (place, node) :: (disk.erase place).entries }

/-- Longest name that the host allows, in bytes. -/
def maxName : Nat := 255

/-- Longest path that the host allows, in bytes. -/
def maxPath : Nat := 4095

/-- Follows names from a place that has to be a directory. -/
def follow (disk : Disk) (place : List String) : List String → Except DiskError (List String)
  | [] => .ok place
  | name :: rest =>
    match disk.node? place with
    | none => .error .noEntry
    | some (.file _) => .error .notDirectory
    | some .directory =>
      if name = "" ∨ name = "." then follow disk place rest
      else if name = ".." then follow disk place.dropLast rest
      else if maxName < name.utf8ByteSize then .error .nameTooLong
      else follow disk (place ++ [name]) rest

/-- Why the host does not look at a path at all. -/
def pathFault? (path : String) : Option DiskError :=
  if path.toList.any (fun c => c.toNat == 0) then some .zeroCharacter
  else if maxPath < path.utf8ByteSize then some .nameTooLong
  else none

/-- The place that a path starts from: the root or the working directory. -/
def start (disk : Disk) (path : String) : List String :=
  if Path.isAbsolute path then [] else disk.workingDirectory

/-- The place that a path leads to, whether or not something is there. -/
def resolve (disk : Disk) (path : String) : Except DiskError (List String) :=
  match pathFault? path with
  | some e => .error e
  | none =>
    if path = "" then .error .noEntry
    else disk.follow (disk.start path) ((Path.pieces path.toList).map String.ofList)

def lookup (disk : Disk) (path : String) : Except DiskError Node :=
  match disk.resolve path with
  | .error e => .error e
  | .ok place =>
    match disk.node? place with
    | some node => .ok node
    | none => .error .noEntry

def contents (disk : Disk) (path : String) : Except DiskError Image :=
  match disk.lookup path with
  | .ok (.file bytes) => .ok bytes
  | .ok .directory => .error .isDirectory
  | .error e => .error e

/-- Makes an empty file, or empties the one that is there. -/
def create (disk : Disk) (path : String) : Except DiskError Disk :=
  match disk.resolve path with
  | .error e => .error e
  | .ok place =>
    match disk.node? place with
    | some .directory => .error .isDirectory
    | _ => .ok (disk.put place (.file []))

def append (disk : Disk) (path : String) (bytes : Image) : Except DiskError Disk :=
  match disk.resolve path, disk.contents path with
  | .ok place, .ok old => .ok (disk.put place (.file (old ++ bytes)))
  | .error e, _ => .error e
  | _, .error e => .error e

/-- Moves a file to another path, in place of a file that is there. -/
def rename (disk : Disk) (source target : String) : Except DiskError Disk :=
  match disk.resolve source, disk.contents source with
  | .error e, _ => .error e
  | _, .error e => .error e
  | .ok place, .ok bytes =>
    match disk.resolve target with
    | .error e => .error e
    | .ok goal =>
      match disk.node? goal with
      | some .directory => .error .isDirectory
      | _ => .ok ((disk.erase place).put goal (.file bytes))

/-- Writes a file in one go. -/
def replaceFile (disk : Disk) (path : String) (bytes : Image) : Except DiskError Disk :=
  match disk.create path with
  | .error e => .error e
  | .ok made => made.append path bytes

/-- Follows names from a place that has to be a directory, and makes directories for those that
stand for nothing. -/
def makeDirectories (disk : Disk) (place : List String) : List String → Except DiskError Disk
  | [] => if disk.node? place = some .directory then .ok disk else .error .notDirectory
  | name :: rest =>
    if disk.node? place ≠ some .directory then .error .notDirectory
    else if name = "" ∨ name = "." then makeDirectories disk place rest
    else if name = ".." then makeDirectories disk place.dropLast rest
    else if maxName < name.utf8ByteSize then .error .nameTooLong
    else
      let next := place ++ [name]
      match disk.node? next with
      | some _ => makeDirectories disk next rest
      | none => makeDirectories (disk.put next .directory) next rest

/-- Makes the directories on a path that are not there yet. -/
def createDirectories (disk : Disk) (path : String) : Except DiskError Disk :=
  match pathFault? path with
  | some e => .error e
  | none => disk.makeDirectories (disk.start path) ((Path.pieces path.toList).map String.ofList)

/-- Opens a file to add to it later, and makes an empty one if there is none. -/
def touch (disk : Disk) (path : String) : Except DiskError Disk :=
  match disk.resolve path with
  | .error e => .error e
  | .ok place =>
    match disk.node? place with
    | some .directory => .error .isDirectory
    | some (.file _) => .ok disk
    | none => .ok (disk.put place (.file []))

/-- Sees to it that there is a file; where it cannot be opened at once, with the directories on the
way to it. -/
def ensureFile (disk : Disk) (path : String) : Except DiskError Disk :=
  match disk.touch path with
  | .ok touched => .ok touched
  | .error _ => (disk.createDirectories (Path.parent path)).bind fun made => made.touch path

def discardFile (disk : Disk) (path : String) : Except DiskError Disk :=
  match disk.resolve path, disk.contents path with
  | .error e, _ => .error e
  | _, .error e => .error e
  | .ok place, .ok _ => .ok (disk.erase place)

def listing (disk : Disk) : List String :=
  let depth := disk.workingDirectory.length
  let inside := disk.entries.filterMap fun entry =>
    if disk.workingDirectory.isPrefixOf entry.1 && entry.1.length == depth + 1 then entry.1.getLast?
    else none
  inside.mergeSort

end Disk

/-! ## Steps -/

/-- One step in replacing a file. -/
inductive DiskStep
  | create (path : String)
  | append (path : String) (bytes : Image)
  /-- Make its contents durable. -/
  | sync (path : String)
  /-- Give it the name of another file. -/
  | rename (source target : String)
  deriving DecidableEq, Repr

namespace Disk

def performStep (disk : Disk) : DiskStep → Except DiskError Disk
  | .create path => disk.create path
  | .append path bytes => disk.append path bytes
  | .sync path => (disk.contents path).map fun _ => disk
  | .rename source target => disk.rename source target

/-- Carries out steps until one fails; what was done by then remains. -/
def perform (disk : Disk) : List DiskStep → Except DiskError Unit × Disk
  | [] => (.ok (), disk)
  | step :: rest =>
    match disk.performStep step with
    | .ok next => next.perform rest
    | .error e => (.error e, disk)

end Disk

end SmartScale
