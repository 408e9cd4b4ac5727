import SmartScale.Reading

/-!
# Decimal literals

The grammar of a weight written in decimal, and its value:

* an optional sign, then digits with at most one point among or beside them (at least one digit),
  then an optional exponent `e` with an optional sign and at least one digit;
* or an optional sign and one of the words `inf`, `infinity`, `nan`, letter case ignored.

`BinaryFormat.ofDecimal` rounds a literal to a format exactly: the literal is a ratio of units and
`BinaryFormat.nearest` takes the closest pattern.
-/

namespace SmartScale

inductive LiteralError
  | empty
  /-- What is written does not follow the grammar. -/
  | malformed
  deriving DecidableEq, Repr

namespace LiteralError

def message : LiteralError → String
  | empty => "cannot parse float from empty string"
  | malformed => "invalid float literal"

end LiteralError

/-- What a decimal literal stands for, its sign apart. -/
inductive DecimalValue
  /-- `digits * 10 ^ exponent`. -/
  | number (digits : Nat) (exponent : Int)
  | infinite
  | notANumber
  deriving DecidableEq, Repr

structure DecimalLiteral where
  negative : Bool
  value : DecimalValue
  deriving DecidableEq, Repr

/-! ## Grammar -/

namespace DecimalLiteral

/-- The number that a run of decimal digits writes. -/
def ofDigits (digits : List Char) : Nat :=
  digits.foldl (fun n c => 10 * n + (c.toNat - '0'.toNat)) 0

/-- Removes a sign and says whether it was a minus. -/
def splitSign : List Char → Bool × List Char
  | '-' :: rest => (true, rest)
  | '+' :: rest => (false, rest)
  | text => (false, text)

/-- The exponent after the digits, which must take up all of the text. -/
def exponent? : List Char → Option Int
  | [] => some 0
  | c :: rest =>
    if c = 'e' ∨ c = 'E' then
      let (minus, digits) := splitSign rest
      if digits.isEmpty || !digits.all Char.isDigit then none
      else some (if minus then -(ofDigits digits : Int) else ofDigits digits)
    else none

/-- Digits, point and exponent. -/
def number? (text : List Char) : Option DecimalValue :=
  let whole := text.takeWhile Char.isDigit
  let rest := text.dropWhile Char.isDigit
  let (fraction, rest) := match rest with
    | '.' :: tail => (tail.takeWhile Char.isDigit, tail.dropWhile Char.isDigit)
    | _ => ([], rest)
  if whole.isEmpty && fraction.isEmpty then none
  else (exponent? rest).map fun e =>
    .number (ofDigits (whole ++ fraction)) (e - fraction.length)

/-- The words for the values that are not finite. -/
def word? (text : List Char) : Option DecimalValue :=
  let lower := text.map Char.toLower
  if lower = "inf".toList ∨ lower = "infinity".toList then some .infinite
  else if lower = "nan".toList then some .notANumber
  else none

/-- Reads a literal that takes up the whole text. -/
def parse (text : List Char) : Except LiteralError DecimalLiteral :=
  if text.isEmpty then .error .empty
  else
    let (negative, body) := splitSign text
    match (word? body).or (number? body) with
    | some value => .ok ⟨negative, value⟩
    | none => .error .malformed

end DecimalLiteral

/-! ## Value -/

/-- How many digits a number is written with. -/
def decimalLength (n : Nat) : Nat := (Nat.toDigits 10 n).length

namespace BinaryFormat

/-- The pattern closest to `digits * 10 ^ exponent`.

A number of `k` digits lies between `10 ^ (k - 1)` and `10 ^ k`, so beyond 400 places the answer is
infinity or zero in both formats, and no power of ten of that size is ever formed. -/
def ofDecimal (f : BinaryFormat) (digits : Nat) (exponent : Int) : Nat :=
  let size := (decimalLength digits : Int) + exponent
  if digits = 0 then 0
  else if 400 < size then f.infinity
  else if size < -400 then 0
  else
    let units := digits <<< f.unitExponent
    if 0 ≤ exponent then f.nearest (units * Nat.pow 10 exponent.toNat) 1
    else f.nearest units (Nat.pow 10 (-exponent).toNat)

end BinaryFormat

namespace Reading

/-- The reading that a literal stands for. -/
def ofLiteral (literal : DecimalLiteral) : Reading :=
  match literal.value with
  | .number digits exponent => ofPattern literal.negative (format.ofDecimal digits exponent)
  | .infinite => ofPattern literal.negative infinity
  | .notANumber => ofPattern literal.negative quietNaN.pattern

/-- Reads a weight written in decimal. -/
def parse (text : String) : Except LiteralError Reading :=
  (DecimalLiteral.parse text.toList).map ofLiteral

end Reading

end SmartScale
