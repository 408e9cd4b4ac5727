/-!
# Whole numbers in words

Reading an unsigned whole number that has to fit below a bound: an optional plus sign, then digits
of the radix.  The first thing wrong, from left to right, is the error reported; a digit that makes
the number too large is found before anything to the right of it.
-/

namespace SmartScale

inductive WholeError
  | empty
  | invalidDigit
  | tooLarge
  deriving DecidableEq, Repr

def WholeError.message : WholeError → String
  | empty => "cannot parse integer from empty string"
  | invalidDigit => "invalid digit found in string"
  | tooLarge => "number too large to fit in target type"

namespace Whole

/-- The value of a digit in a radix of at most sixteen. -/
def digit? (radix : Nat) (c : Char) : Option Nat :=
  let value :=
    if c.isDigit then c.toNat - '0'.toNat
    else if 'a' ≤ c ∧ c ≤ 'f' then c.toNat - 'a'.toNat + 10
    else if 'A' ≤ c ∧ c ≤ 'F' then c.toNat - 'A'.toNat + 10
    else radix
  if value < radix then some value else none

/-- Continues a number with more digits, staying below `bound`. -/
def extend (radix bound : Nat) (value : Nat) : List Char → Except WholeError Nat
  | [] => .ok value
  | c :: rest =>
    match digit? radix c with
    | none => .error .invalidDigit
    | some d =>
      if bound ≤ radix * value + d then .error .tooLarge
      else extend radix bound (radix * value + d) rest

/-- Reads a number below `bound`; a sign alone is no number. -/
def parse (radix bound : Nat) (text : List Char) : Except WholeError Nat :=
  match text with
  | [] => .error .empty
  | ['+'] => .error .invalidDigit
  | '+' :: digits => extend radix bound 0 digits
  | digits => extend radix bound 0 digits

def parseWord (text : List Char) : Except WholeError Nat := parse 10 UInt64.size text

end Whole

end SmartScale
