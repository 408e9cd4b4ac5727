import SmartScale.Reading
import SmartScale.Fault

/-!
# Thresholds

The three settings of the debounce and the rules that they keep: both distances finite and above
zero, and at least two readings for a confirmation.
-/

namespace SmartScale

structure Thresholds where
  /-- Readings closer than this to the last significant one count as unchanged. -/
  change : Reading
  /-- Readings closer than this to zero mean that the scale is empty. -/
  noObject : Reading
  /-- Stable readings needed for a confirmation, the adopting one included. -/
  samples : UInt32
  deriving DecidableEq, Repr

inductive ThresholdFault
  /-- The change distance is not finite and above zero. -/
  | change
  /-- The distance from zero is not finite and above zero. -/
  | noObject
  /-- Fewer than two readings would confirm an object. -/
  | samples
  deriving DecidableEq, Repr

def ThresholdFault.message : ThresholdFault → String
  | change => "change_threshold must be finite and > 0"
  | noObject => "no_object_threshold must be finite and > 0"
  | samples => "match_samples must be >= 2"

/-- The reading is finite and above zero. -/
def Reading.isPositive (r : Reading) : Bool := r.isFinite && Reading.zero.lt r

namespace Thresholds

/-- The distance that both thresholds default to, closest to 0.04. -/
def defaultDistance : Reading := ⟨0x3d23d70a⟩

def default : Thresholds := ⟨defaultDistance, defaultDistance, 4⟩

instance : Inhabited Thresholds := ⟨default⟩

/-- The first rule broken, in the order in which they are looked at. -/
def fault? (t : Thresholds) : Option ThresholdFault :=
  if !t.change.isPositive then some .change
  else if !t.noObject.isPositive then some .noObject
  else if t.samples < 2 then some .samples
  else none

/-- Thresholds that a detector can be built with. -/
def check (t : Thresholds) : Except BuildError Unit :=
  match t.fault? with
  | some fault => .error (.invalidConfig fault.message)
  | none => .ok ()

end Thresholds

end SmartScale
