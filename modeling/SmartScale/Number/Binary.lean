/-!
# Binary floating-point formats

A format is given by two sizes, the fraction bits and the exponent bits of its patterns.  Every
magnitude of a format is a whole number of *units*, the unit being its least positive magnitude.
This file defines

* `BinaryFormat.magnitude`, which reads a pattern (without its sign) as a count of units;
* `BinaryFormat.nearest`, which finds the pattern closest to a ratio of units, a tie going to the
  even pattern and a ratio past the largest finite magnitude going to `BinaryFormat.infinity`.

Everything is exact arithmetic on `Nat`; no machine floating-point operation is involved.
-/

namespace SmartScale

/-- The sizes that determine a binary floating-point format. -/
structure BinaryFormat where
  fractionBits : Nat
  exponentBits : Nat
  deriving DecidableEq, Repr

/-- The whole number closest to `num / den`; a tie goes to the even neighbour. -/
def roundHalfEven (num den : Nat) : Nat :=
  let quotient := num / den
  let rest := num % den
  if 2 * rest < den ∨ (2 * rest = den ∧ quotient % 2 = 0) then quotient else quotient + 1

namespace BinaryFormat

/-- The 32-bit format: 23 fraction bits, 8 exponent bits. -/
def binary32 : BinaryFormat := ⟨23, 8⟩

/-- The 64-bit format: 52 fraction bits, 11 exponent bits. -/
def binary64 : BinaryFormat := ⟨52, 11⟩

/-- The unit of a format is `2 ^ (-unitExponent)`. -/
def unitExponent (f : BinaryFormat) : Nat :=
  (1 <<< (f.exponentBits - 1)) - 2 + f.fractionBits

/-- The pattern of infinity; larger patterns are not numbers. -/
def infinity (f : BinaryFormat) : Nat :=
  ((1 <<< f.exponentBits) - 1) <<< f.fractionBits

/-- A finite pattern as significand and binary exponent over the unit. -/
def significand (f : BinaryFormat) (pattern : Nat) : Nat × Nat :=
  let exponent := pattern >>> f.fractionBits
  let fraction := pattern % (1 <<< f.fractionBits)
  if exponent = 0 then (fraction, 0) else (fraction + (1 <<< f.fractionBits), exponent - 1)

/-- The units that a finite pattern stands for. -/
def magnitude (f : BinaryFormat) (pattern : Nat) : Nat :=
  (f.significand pattern).1 <<< (f.significand pattern).2

/-- The pattern closest to `num / den` units.

The quotient is scaled down until it fits the significand; adding the scale to the exponent field
lets a carry out of the significand move into the exponent by itself. -/
def nearest (f : BinaryFormat) (num den : Nat) : Nat :=
  let scale := (num / den).log2 - f.fractionBits
  min ((scale <<< f.fractionBits) + roundHalfEven num (den <<< scale)) f.infinity

/-- The pattern in `target` closest to the magnitude of a pattern in `f`. -/
def convert (f target : BinaryFormat) (pattern : Nat) : Nat :=
  if f.infinity ≤ pattern then target.infinity
  else target.nearest (f.magnitude pattern <<< target.unitExponent) (1 <<< f.unitExponent)

end BinaryFormat

end SmartScale
