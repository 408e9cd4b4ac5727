import SmartScale.Detector.Outcome
import SmartScale.Reading

/-!
# Object rows

A batch of calibrated objects: which slot, which weight, which tolerance.  `checkObjects` accepts a
batch when every slot exists and is named once, every weight is finite, and every tolerance is
finite and not below zero; otherwise it names the first row at fault.
-/

namespace SmartScale

structure ObjectRow where
  slot : UInt64
  weight : Reading
  tolerance : Reading
  deriving DecidableEq, Repr

inductive RowFault
  | slotOutOfRange (slot : UInt64)
  /-- An earlier row names the slot. -/
  | duplicateSlot (slot : UInt64)
  /-- The weight is not finite. -/
  | weight
  /-- The tolerance is not finite or is below zero. -/
  | tolerance
  deriving DecidableEq, Repr

/-- A row at fault, counted from zero. -/
structure ObjectFault where
  index : Nat
  fault : RowFault
  deriving DecidableEq, Repr

def RowFault.message : RowFault → String
  | slotOutOfRange slot =>
    "slot " ++ toString slot.toNat ++ " out of range (0.." ++ toString slotCount ++ ")"
  | duplicateSlot slot => "duplicate slot " ++ toString slot.toNat
  | weight => "weight must be finite"
  | tolerance => "tolerance must be finite and >= 0"

def ObjectFault.message (f : ObjectFault) : String :=
  "object " ++ toString f.index ++ ": " ++ f.fault.message

namespace ObjectRow

/-- What is wrong with a row that follows rows with the slots in `seen`. -/
def fault? (seen : List UInt64) (row : ObjectRow) : Option RowFault :=
  if slotCount ≤ row.slot.toNat then some (.slotOutOfRange row.slot)
  else if row.slot ∈ seen then some (.duplicateSlot row.slot)
  else if !row.weight.isFinite then some .weight
  else if !row.tolerance.isFinite || row.tolerance.lt Reading.zero then some .tolerance
  else none

end ObjectRow

/-- Checks rows from number `index` on; `seen` holds the slots of the rows before. -/
def checkObjectsFrom (index : Nat) (seen : List UInt64) :
    List ObjectRow → Except ObjectFault Unit
  | [] => .ok ()
  | row :: rest =>
    match row.fault? seen with
    | some fault => .error ⟨index, fault⟩
    | none => checkObjectsFrom (index + 1) (row.slot :: seen) rest

def checkObjects (rows : List ObjectRow) : Except ObjectFault Unit := checkObjectsFrom 0 [] rows

end SmartScale
