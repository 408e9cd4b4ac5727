import SmartScale.Store.Basic

/-!
# Faults on the way to a store

`FailingStore` fails every operation with one message.  `FaultyStore` wraps a store; while an error
is set for an operation, that operation fails with it and does not reach the store.
-/

namespace SmartScale

/-- A store of which every operation fails. -/
structure FailingStore where
  message : String
  deriving DecidableEq, Repr

instance : CalibrationStore FailingStore where
  read s _ _ := (.error (.other s.message), s)
  write s _ _ := (.error (.other s.message), s)
  commit s := (.error (.other s.message), s)

/-- A store behind a line that can be made to fail. -/
structure FaultyStore (σ : Type) where
  inner : σ
  readError : Option DeviceError
  writeError : Option DeviceError
  commitError : Option DeviceError

namespace FaultyStore

variable {σ : Type}

def ofStore (store : σ) : FaultyStore σ := ⟨store, none, none, none⟩

/-- Passes an operation on unless an error is set. -/
def guarded {α : Type} (s : FaultyStore σ) (error : Option DeviceError)
    (operation : σ → Except DeviceError α × σ) : Except DeviceError α × FaultyStore σ :=
  match error with
  | some e => (.error e, s)
  | none => ((operation s.inner).1, { s with inner := (operation s.inner).2 })

instance [CalibrationStore σ] : CalibrationStore (FaultyStore σ) where
  read s address length :=
    s.guarded s.readError fun inner => CalibrationStore.read inner address length
  write s address bytes :=
    s.guarded s.writeError fun inner => CalibrationStore.write inner address bytes
  commit s := s.guarded s.commitError CalibrationStore.commit

end FaultyStore

end SmartScale
