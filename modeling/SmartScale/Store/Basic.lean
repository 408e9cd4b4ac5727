import SmartScale.Fault

/-!
# Calibration stores

A calibration store is a byte store addressed by words of 64 bits.  Writes may be cached until a
commit makes them durable; reads see cached writes.  `AddressRange.end?` is the range check that all
stores share: it adds in words and refuses a sum that wraps.
-/

namespace SmartScale

/-- A store that a detector can work over. -/
class CalibrationStore (σ : Type) where
  read : σ → UInt64 → Nat → Except DeviceError (List UInt8) × σ
  /-- Replaces the bytes from an address on. -/
  write : σ → UInt64 → List UInt8 → Except DeviceError Unit × σ
  commit : σ → Except DeviceError Unit × σ

/-- The value of a byte that was never written. -/
def erased : UInt8 := 0xFF

namespace AddressRange

/-- The end of `length` bytes at `address`, unless the sum leaves the words. -/
def end? (address : UInt64) (length : Nat) : Option UInt64 :=
  let sum := address + UInt64.ofNat length
  if length < UInt64.size ∧ address ≤ sum then some sum else none

/-- The range lies within the capacity. -/
def fits (address : UInt64) (length capacity : Nat) : Bool :=
  match end? address length with
  | some last => decide (last.toNat ≤ capacity)
  | none => false

end AddressRange

/-- Bytes held in memory, with the operations that check their range. -/
abbrev Image : Type := List UInt8

namespace Image

def blank (capacity : Nat) : Image := List.replicate capacity erased

/-- The image cut off or filled up to a capacity. -/
def resize (image : Image) (capacity : Nat) : Image :=
  image.take capacity ++ List.replicate (capacity - image.length) erased

def slice (image : Image) (address length : Nat) : List UInt8 :=
  (image.drop address).take length

/-- Replaces the bytes from an address on. -/
def patch (image : Image) (address : Nat) (bytes : List UInt8) : Image :=
  image.take address ++ bytes ++ image.drop (address + bytes.length)

def read (image : Image) (address : UInt64) (length : Nat) :
    Except HardwareFault (List UInt8) :=
  if AddressRange.fits address length image.length then .ok (slice image address.toNat length)
  else .error (.outOfRange address length image.length)

def write (image : Image) (address : UInt64) (bytes : List UInt8) :
    Except HardwareFault Image :=
  if AddressRange.fits address bytes.length image.length then .ok (patch image address.toNat bytes)
  else .error (.outOfRange address bytes.length image.length)

end Image

end SmartScale
