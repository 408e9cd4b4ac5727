import SmartScale.Disk.Basic

/-!
# Stores in files

A store whose durable contents are a file on the host.  A file that does not exist reads as erased
memory; a file of another size is cut off or filled up when the store is opened, and the store then
counts as changed.  A commit writes a whole new file beside the old one and renames it into place,
so the path holds the old contents or the new, never a part of either; a store without changes
commits nothing.
-/

namespace SmartScale

structure FileStore where
  disk : Disk
  path : String
  cache : Image
  /-- The cache may differ from the file. -/
  dirty : Bool
  deriving DecidableEq, Repr

namespace FileStore

/-- Opens the store at a path. -/
def open? (disk : Disk) (path : String) (capacity : Nat) : Except HardwareFault FileStore :=
  match disk.contents path with
  | .ok bytes => .ok ⟨disk, path, bytes.resize capacity, bytes.length != capacity⟩
  | .error .noEntry => .ok ⟨disk, path, Image.blank capacity, false⟩
  | .error e => .error (.io e.message)

def capacity (s : FileStore) : Nat := s.cache.length

/-- Where a commit prepares the new file. -/
def draftPath (s : FileStore) : String := s.path ++ ".tmp"

def commitSteps (s : FileStore) : List DiskStep :=
  [.create s.draftPath, .append s.draftPath s.cache, .sync s.draftPath,
    .rename s.draftPath s.path]

def read (s : FileStore) (address : UInt64) (length : Nat) :
    Except HardwareFault (List UInt8) :=
  s.cache.read address length

/-- Writes a range; bytes that are there already change nothing. -/
def write (s : FileStore) (address : UInt64) (bytes : List UInt8) :
    Except HardwareFault Unit × FileStore :=
  match s.cache.write address bytes with
  | .error fault => (.error fault, s)
  | .ok cache =>
    (.ok (), if cache = s.cache then s else { s with cache, dirty := true })

/-- The store after the steps of a commit have ended in the given way. -/
def settle (s : FileStore) : Except DiskError Unit × Disk → Except HardwareFault Unit × FileStore
  | (.ok (), disk) => (.ok (), { s with disk, dirty := false })
  | (.error e, disk) => (.error (.io e.message), { s with disk })

/-- Replaces the file by the cache if there are changes. -/
def commit (s : FileStore) : Except HardwareFault Unit × FileStore :=
  if s.dirty then s.settle (s.disk.perform s.commitSteps) else (.ok (), s)

instance : CalibrationStore FileStore where
  read s address length := ((s.read address length).mapError .named, s)
  write s address bytes := ((s.write address bytes).1.mapError .named, (s.write address bytes).2)
  commit s := (s.commit.1.mapError .named, s.commit.2)

end FileStore

end SmartScale
