import SmartScale.Number.Binary

/-!
# Readings

A reading is a weight in the 32-bit binary format, kept as its bit pattern: what the scale delivers
and what the calibration record stores is passed on unchanged, payloads of not-a-number patterns
included.  The arithmetic is the standard's, rounded to nearest with ties to even:

* `Reading.sub` and `Reading.abs` give the distance of two readings;
* `Reading.lt` is the strict order, in which a not-a-number is below and above nothing;
* `Reading.feq` is equality of values: the zeros are equal, a not-a-number equals nothing.
-/

namespace SmartScale

/-- A weight as its 32-bit pattern. -/
structure Reading where
  /-- The pattern, sign bit first. -/
  bits : UInt32
  deriving DecidableEq, Repr, Inhabited

namespace Reading

abbrev format : BinaryFormat := BinaryFormat.binary32

/-- The pattern of infinity, without its sign. -/
abbrev infinity : Nat := format.infinity

/-- The pattern without the sign bit. -/
def pattern (r : Reading) : Nat := r.bits.toNat % 0x80000000

def negative (r : Reading) : Bool := decide (0x80000000 ≤ r.bits.toNat)

def ofPattern (negative : Bool) (pattern : Nat) : Reading :=
  ⟨UInt32.ofNat (if negative then pattern + 0x80000000 else pattern)⟩

def zero : Reading := ⟨0⟩

/-- The pattern that arithmetic delivers when there is no numeric result. -/
def quietNaN : Reading := ⟨0x7fc00000⟩

def isNaN (r : Reading) : Bool := decide (infinity < r.pattern)

def isFinite (r : Reading) : Bool := decide (r.pattern < infinity)

def abs (r : Reading) : Reading := ofPattern false r.pattern

def neg (r : Reading) : Reading := ofPattern (!r.negative) r.pattern

/-- Signed pattern: it orders the numbers, the two zeros falling together. -/
def rank (r : Reading) : Int := if r.negative then -(r.pattern : Int) else r.pattern

/-- Strictly below, which a not-a-number never is. -/
def lt (a b : Reading) : Bool := !a.isNaN && !b.isNaN && decide (a.rank < b.rank)

/-- Equal as values. -/
def feq (a b : Reading) : Bool := !a.isNaN && !b.isNaN && decide (a.rank = b.rank)

/-- A finite reading as a signed count of units. -/
def units (r : Reading) : Int :=
  if r.negative then -(format.magnitude r.pattern : Int) else format.magnitude r.pattern

/-- The reading closest to a nonzero signed count of units. -/
def ofUnits (n : Int) : Reading := ofPattern (decide (n < 0)) (format.nearest n.natAbs 1)

/-- Difference of two readings.

A difference of equal finite readings is positive zero, except that `-0 - (+0)` is `-0`. -/
def sub (a b : Reading) : Reading :=
  if a.isNaN || b.isNaN then quietNaN
  else if !a.isFinite then
    if !b.isFinite && a.negative == b.negative then quietNaN else a
  else if !b.isFinite then b.neg
  else
    let difference := a.units - b.units
    if difference = 0 then
      ofPattern (a.negative && !b.negative && a.pattern == 0) 0
    else ofUnits difference

def distance (a b : Reading) : Reading := (sub a b).abs

/-- The distance between `a` and `b` is strictly below `bound`. -/
def within (a b bound : Reading) : Bool := (distance a b).lt bound

/-- The reading closest to a pattern of the 64-bit format. -/
def ofBinary64 (negative : Bool) (pattern : Nat) : Reading :=
  if BinaryFormat.binary64.infinity < pattern then ofPattern negative quietNaN.pattern
  else ofPattern negative (BinaryFormat.binary64.convert format pattern)

/-- The reading closest to a whole number. -/
def ofInt (n : Int) : Reading :=
  if n = 0 then zero
  else ofPattern (decide (n < 0)) (format.nearest (n.natAbs <<< format.unitExponent) 1)

end Reading

end SmartScale
