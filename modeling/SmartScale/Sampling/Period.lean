/-!
# Sampling periods

The time between two readings at a given rate, in whole microseconds and whole milliseconds, and
the silence after which a sensor counts as stalled.  A rate of zero is taken as one; no period is
zero.
-/

namespace SmartScale

def microsPerSecond : Nat := 1000000

def millisPerSecond : Nat := 1000

/-- The greatest value of a 64-bit word. -/
def maxWord : Nat := UInt64.size - 1

/-- Sampling period in microseconds for a rate in readings per second. -/
def periodMicros (rate : UInt32) : Nat := max (microsPerSecond / max rate.toNat 1) 1

/-- Sampling period in milliseconds for a rate in readings per second. -/
def periodMillis (rate : UInt32) : Nat := max (millisPerSecond / max rate.toNat 1) 1

/-- A product of words, cut off at the greatest word. -/
def saturatingMul (a b : Nat) : Nat := min (a * b) maxWord

/-- The silence in milliseconds that a sensor is allowed: four times its own timeout, and at least
two sampling periods. -/
def stallThreshold (sensorMillis periodMillis : Nat) : Nat :=
  max (max (saturatingMul sensorMillis 4) (saturatingMul periodMillis 2)) 1

end SmartScale
