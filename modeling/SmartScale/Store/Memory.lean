import SmartScale.Store.Basic

/-!
# Stores in memory

A store with a cache, which reads and writes go through, and a committed image, which is what
survives a power cycle.
-/

namespace SmartScale

structure MemoryStore where
  cache : Image
  /-- What the last commit made durable. -/
  committed : Image
  commits : Nat
  deriving DecidableEq, Repr

namespace MemoryStore

/-- A store with the given durable contents. -/
def ofImage (image : Image) : MemoryStore := ⟨image, image, 0⟩

def new (capacity : Nat) : MemoryStore := ofImage (Image.blank capacity)

def capacity (s : MemoryStore) : Nat := s.cache.length

/-- Some write is not durable yet. -/
def isDirty (s : MemoryStore) : Bool := s.cache != s.committed

/-- Drops the writes that are not durable. -/
def powerCycle (s : MemoryStore) : MemoryStore := { s with cache := s.committed }

def read (s : MemoryStore) (address : UInt64) (length : Nat) :
    Except HardwareFault (List UInt8) :=
  s.cache.read address length

/-- Writes a range; a write that does not fit changes nothing. -/
def write (s : MemoryStore) (address : UInt64) (bytes : List UInt8) :
    Except HardwareFault Unit × MemoryStore :=
  match s.cache.write address bytes with
  | .ok cache => (.ok (), { s with cache })
  | .error fault => (.error fault, s)

/-- Makes the cache durable. -/
def commit (s : MemoryStore) : MemoryStore :=
  { s with committed := s.cache, commits := s.commits + 1 }

instance : CalibrationStore MemoryStore where
  read s address length := ((s.read address length).mapError .named, s)
  write s address bytes := ((s.write address bytes).1.mapError .named, (s.write address bytes).2)
  commit s := (.ok (), s.commit)

end MemoryStore

end SmartScale
