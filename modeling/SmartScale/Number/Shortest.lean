import SmartScale.Number.Binary

/-!
# Fewest digits

The shortest decimal that reads back as a given pattern.  The reals that round to a pattern form an
interval around its value (its ends belong to it when the significand is even).  On the grid of
multiples of `10 ^ k` only the two neighbours of the value can be closest, so the search goes from
coarse grids to fine ones, takes the first grid that has a neighbour inside the interval, and on it
the nearer neighbour.  What happens to an exact tie is a parameter.
-/

namespace SmartScale

/-- Where an exact tie between two neighbours goes. -/
inductive Tie
  /-- To the neighbour farther from zero. -/
  | up
  /-- To the neighbour with an even last digit. -/
  | even
  deriving DecidableEq, Repr

/-- The decimal `digits * 10 ^ exponent`. -/
structure Decimal where
  digits : Nat
  /-- Power of ten of the last digit. -/
  exponent : Int
  deriving DecidableEq, Repr

namespace Decimal

/-- Drops the zeros at the end of the digits. -/
def strip (digits : Nat) (exponent : Int) : Decimal :=
  if digits ≠ 0 ∧ digits % 10 = 0 then strip (digits / 10) (exponent + 1) else ⟨digits, exponent⟩
termination_by digits
decreasing_by omega

end Decimal

namespace BinaryFormat

/-- The interval of a pattern in quarters of its binary exponent: lower end, value, upper end.

Below a power of two the neighbours lie twice as close. -/
def interval (f : BinaryFormat) (pattern : Nat) : Nat × Nat × Nat :=
  let (s, e) := f.significand pattern
  let below := if s = 1 <<< f.fractionBits ∧ e ≠ 0 then 1 else 2
  (4 * s - below, 4 * s, 4 * s + 2)

/-- The multiple of `10 ^ k` that stands for a pattern, if one reads back.

`shift` is the binary exponent of the quarters. -/
def onGrid (f : BinaryFormat) (tie : Tie) (pattern : Nat) (shift k : Int) : Option Nat :=
  let up := Nat.pow 10 (-k).toNat <<< shift.toNat
  let down := Nat.pow 10 k.toNat <<< (-shift).toNat
  let (low, value, high) := f.interval pattern
  let floor := value * up / down
  let closed := pattern % 2 = 0
  let floorFits := decide (low * up < floor * down) || (closed && low * up == floor * down)
  let ceilFits :=
    decide ((floor + 1) * down < high * up) || (closed && (floor + 1) * down == high * up)
  let twice := 2 * (value * up - floor * down)
  match floorFits, ceilFits with
  | true, false => some floor
  | false, true => some (floor + 1)
  | false, false => none
  | true, true =>
    if twice < down then some floor
    else if down < twice then some (floor + 1)
    else match tie with
      | .up => some (floor + 1)
      | .even => some (floor + floor % 2)

/-- Tries the grids from `10 ^ k` downwards. -/
def searchGrids (f : BinaryFormat) (tie : Tie) (pattern : Nat) (shift : Int) :
    Nat → Int → Decimal
  | 0, k => ⟨0, k⟩
  | fuel + 1, k =>
    match f.onGrid tie pattern shift k with
    | some digits => Decimal.strip digits k
    | none => searchGrids f tie pattern shift fuel (k - 1)

/-- The shortest decimal that reads back as a positive finite pattern.

A value below `2 ^ b` is below `10 ^ (3 b / 10 + 1)` for positive `b` and below `10 ^ (b / 4 + 1)`
otherwise, which bounds the first grid; at most 17 digits are needed after the first nonzero one. -/
def shortest (f : BinaryFormat) (tie : Tie) (pattern : Nat) : Decimal :=
  let (s, e) := f.significand pattern
  let exponent := (e : Int) - f.unitExponent
  let bits := (s.log2 : Int) + 1 + exponent
  let first := (bits * 30103).fdiv 100000 + 1
  f.searchGrids tie pattern (exponent - 2) 24 first

end BinaryFormat

end SmartScale
