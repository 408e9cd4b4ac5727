import SmartScale.Reading
import SmartScale.Number.Shortest

/-!
# Weights as text

Two ways to write a number, both from its exact value:

* `FloatStyle.render` writes the fewest digits that read back; a style says from which size on an
  exponent is written and how a value that is not finite is spelled;
* `Reading.fixed` writes a fixed count of decimal places, a tie going to the even neighbour.
-/

namespace SmartScale

/-! ## Padding -/

/-- Fills up to `width` characters with blanks on the right. -/
def padRight (width : Nat) (text : String) : String :=
  text ++ String.ofList (List.replicate (width - text.length) ' ')

/-- Fills up to `width` characters with blanks on the left. -/
def padLeft (width : Nat) (text : String) : String :=
  String.ofList (List.replicate (width - text.length) ' ') ++ text

/-- The digits of a number, with zeros in front up to `width` of them. -/
def padZeros (width n : Nat) : List Char :=
  let digits := Nat.toDigits 10 n
  List.replicate (width - digits.length) '0' ++ digits

/-! ## Shortest text -/

/-- The choices that fix the text of a number. -/
structure FloatStyle where
  /-- Where an exact tie between two shortest texts goes. -/
  tie : Tie
  /-- Numbers of which the point stands after this many digits or fewer get an exponent. -/
  lowest : Option Int
  /-- Numbers of which the point stands after more digits than this get an exponent. -/
  highest : Option Int
  exponentSign : List Char
  nan : String
  infinity : String
  negativeInfinity : String

namespace FloatStyle

/-- Machine-readable output: an exponent, always signed, below `1e-5` and from `1e16` on, no word
for what is not finite. -/
def json : FloatStyle := ⟨.even, some (-5), some 16, ['+'], "null", "null", "null"⟩

/-- Diagnostic output: an exponent below `1e-4` and from `1e16` on. -/
def debug : FloatStyle := ⟨.up, some (-4), some 16, [], "NaN", "inf", "-inf"⟩

/-- Plain output: never an exponent. -/
def plain : FloatStyle := ⟨.up, none, none, [], "NaN", "inf", "-inf"⟩

/-- Digits with a point after `point` of them, at least one digit on each side of it. -/
def positional (digits : List Char) (point : Int) : List Char :=
  if point ≤ 0 then '0' :: '.' :: (List.replicate (-point).toNat '0' ++ digits)
  else
    let whole := point.toNat
    if digits.length ≤ whole then
      digits ++ List.replicate (whole - digits.length) '0' ++ ['.', '0']
    else digits.take whole ++ '.' :: digits.drop whole

/-- One digit, the others after a point, and the exponent. -/
def scientific (style : FloatStyle) (digits : List Char) (point : Int) : List Char :=
  let mantissa := match digits with
    | first :: rest => if rest.isEmpty then [first] else first :: '.' :: rest
    | [] => []
  let sign := if 1 < point then style.exponentSign else []
  mantissa ++ 'e' :: sign ++ (toString (point - 1)).toList

def decimal (style : FloatStyle) (d : Decimal) : List Char :=
  let digits := Nat.toDigits 10 d.digits
  let point := (digits.length : Int) + d.exponent
  let small := style.lowest.any fun low => point ≤ low
  let large := style.highest.any fun high => high < point
  if small || large then style.scientific digits point else positional digits point

/-- The text of a signed pattern. -/
def render (style : FloatStyle) (f : BinaryFormat) (negative : Bool) (pattern : Nat) : String :=
  if f.infinity < pattern then style.nan
  else if pattern = f.infinity then
    if negative then style.negativeInfinity else style.infinity
  else
    let body := if pattern = 0 then ['0', '.', '0']
      else style.decimal (f.shortest style.tie pattern)
    String.ofList (if negative then '-' :: body else body)

end FloatStyle

namespace Reading

/-- The fewest digits that read back as the reading. -/
def debugText (r : Reading) : String := FloatStyle.debug.render format r.negative r.pattern

/-- The reading widened to 64 bits, in machine-readable output. -/
def jsonText (r : Reading) : String :=
  if r.isNaN then FloatStyle.json.nan
  else FloatStyle.json.render BinaryFormat.binary64 r.negative
    (format.convert BinaryFormat.binary64 r.pattern)

/-- The reading with a fixed count of decimal places. -/
def fixed (places : Nat) (r : Reading) : String :=
  if r.isNaN then "NaN"
  else
    let body := if !r.isFinite then ['i', 'n', 'f'] else
      let scaled := roundHalfEven (format.magnitude r.pattern * Nat.pow 10 places)
        (1 <<< format.unitExponent)
      let digits := padZeros (places + 1) scaled
      digits.take (digits.length - places) ++ '.' :: digits.drop (digits.length - places)
    String.ofList (if r.negative then '-' :: body else body)

end Reading

end SmartScale
