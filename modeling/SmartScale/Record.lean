import SmartScale.Reading
import SmartScale.Detector.Outcome

/-!
# Calibration records

A record holds a weight and a tolerance for every slot, an offset, and a tag that tells a
calibrated record from whatever else a store may hold.  This file defines

* `Record.isValid`, which reads the tag as text that ends at its first zero byte;
* `Record.matchingSlot?`, the highest slot whose tolerance band strictly contains a reading;
* `Record.encode` and `Record.decode`, the fixed layout of 44 bytes: the tag, the weights, the
  tolerances and the offset, every weight with its least significant byte first.
-/

namespace SmartScale

def tagLength : Nat := 8

def recordLength : Nat := tagLength + 4 * (2 * slotCount + 1)

/-- Weights, tolerances and offset, with the tag. -/
structure Record where
  tag : Vector UInt8 tagLength
  weights : Vector Reading slotCount
  /-- Accepted distance from the weight, itself excluded, of each slot. -/
  tolerances : Vector Reading slotCount
  /-- Stored offset; no reading is corrected by it. -/
  offset : Reading
  deriving DecidableEq

namespace Record

/-- The text of a valid tag, `abc123`. -/
def tagText : List UInt8 := [0x61, 0x62, 0x63, 0x31, 0x32, 0x33]

/-- The tag that a save stamps: the text, filled up with zero bytes. -/
def validTag : Vector UInt8 tagLength := #v[0x61, 0x62, 0x63, 0x31, 0x32, 0x33, 0, 0]

/-- The record of an uncalibrated detector: all zeros, hence not valid. -/
def empty : Record :=
  ⟨Vector.replicate _ 0, Vector.replicate _ Reading.zero, Vector.replicate _ Reading.zero,
    Reading.zero⟩

instance : Inhabited Record := ⟨empty⟩

/-- The tag reads as the valid text up to its first zero byte. -/
def isValid (r : Record) : Bool := r.tag.toList.takeWhile (· != 0) == tagText

def stamp (r : Record) : Record := { r with tag := validTag }

/-- The reading lies strictly inside the tolerance band of the slot. -/
def covers (r : Record) (slot : Fin slotCount) (value : Reading) : Bool :=
  Reading.within value r.weights[slot] r.tolerances[slot]

/-- The highest slot whose band contains the reading. -/
def matchingSlot? (r : Record) (value : Reading) : Option Nat :=
  (List.finRange slotCount).foldl
    (fun found slot => if r.covers slot value then some slot.val else found) none

/-- Sets weight and tolerance of a slot; an index past the last slot changes nothing. -/
def setObject (r : Record) (index : Nat) (weight tolerance : Reading) : Record :=
  if h : index < slotCount then
    { r with weights := r.weights.set index weight, tolerances := r.tolerances.set index tolerance }
  else r

def object? (r : Record) (index : Nat) : Option (Reading × Reading) :=
  if h : index < slotCount then some (r.weights[index], r.tolerances[index]) else none

/-- Weight of a slot above the first; slot 0 and an index past the last give zero. -/
def objectWeight (r : Record) (index : Nat) : Reading :=
  if h : 0 < index ∧ index < slotCount then r.weights.get ⟨index, h.2⟩ else Reading.zero

/-- Equality of the tags and, as values, of all weights. -/
def sameValues (a b : Record) : Bool :=
  a.tag == b.tag && (List.finRange slotCount).all (fun i => a.weights[i].feq b.weights[i]) &&
    (List.finRange slotCount).all (fun i => a.tolerances[i].feq b.tolerances[i]) &&
    a.offset.feq b.offset

/-! ## Layout -/

/-- The four bytes of a weight, least significant first. -/
def encodeReading (r : Reading) : List UInt8 :=
  (List.range 4).map fun i => UInt8.ofNat (r.bits.toNat >>> (8 * i))

/-- The weight whose bytes begin at an index. -/
def decodeReading (bytes : List UInt8) (start : Nat) : Reading :=
  ⟨UInt32.ofNat <| (List.range 4).foldr (fun i n => (bytes.getD (start + i) 0).toNat + (n <<< 8)) 0⟩

def encode (r : Record) : List UInt8 :=
  r.tag.toList ++ r.weights.toList.flatMap encodeReading ++
    r.tolerances.toList.flatMap encodeReading ++ encodeReading r.offset

/-- The record in the first 44 bytes. -/
def decode (bytes : List UInt8) : Record where
  tag := Vector.ofFn fun i => bytes.getD i 0
  weights := Vector.ofFn fun i => decodeReading bytes (tagLength + 4 * i)
  tolerances := Vector.ofFn fun i => decodeReading bytes (tagLength + 4 * (slotCount + i))
  offset := decodeReading bytes (tagLength + 8 * slotCount)

end Record

end SmartScale
