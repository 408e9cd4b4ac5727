import SmartScale.Number.Literal
import SmartScale.Number.Whole
import SmartScale.Toml.Reader
import SmartScale.Toml.Value

/-!
# Numbers, dates and times

Whole numbers in four radices, numbers with a fraction or an exponent, and dates and times.  Digits
may be grouped by single underscores.  A whole number has to fit 64 bits with a sign; a number too
large for the 64-bit binary format is refused.
-/

namespace SmartScale

namespace Toml

/-- More digits of a group, without the underscores between them. -/
def moreDigits? (isDigit : Char → Bool) : Reader (List Char)
  | [] => some ([], [])
  | '_' :: rest =>
    match rest with
    | d :: _ => if isDigit d then moreDigits? isDigit rest else none
    | [] => none
  | c :: rest =>
    if isDigit c then (moreDigits? isDigit rest).map fun (more, rest) => (c :: more, rest)
    else some ([], c :: rest)

/-- Digits, at least one, without the underscores between them. -/
def digits? (isDigit : Char → Bool) : Reader (List Char)
  | c :: rest => if isDigit c then moreDigits? isDigit (c :: rest) else none
  | [] => none

/-- Decimal digits of a whole number: a zero alone, or digits that begin with another digit. -/
def wholeDigits? : Reader (List Char)
  | '0' :: rest => some (['0'], rest)
  | text => digits? Char.isDigit text

/-- A whole number that fits 64 bits with a sign. -/
def integer? (negative : Bool) (magnitude : Nat) : Option Value :=
  if negative && magnitude ≤ 0x8000000000000000 then some (.integer (-(magnitude : Int)))
  else if !negative && magnitude < 0x8000000000000000 then some (.integer magnitude)
  else none

/-- A whole number in another radix. -/
def radix? (radix : Nat) : Reader Value := fun text => do
  let (digits, rest) ← digits? (fun c => (Whole.digit? radix c).isSome) text
  match Whole.parse radix 0x8000000000000000 digits with
  | .ok n => (integer? false n).map fun value => (value, rest)
  | .error _ => none

/-- A number in the 64-bit binary format. -/
def float? (negative : Bool) (digits : List Char) (exponent : Int) : Option Value :=
  let format := BinaryFormat.binary64
  let pattern := format.ofDecimal (DecimalLiteral.ofDigits digits) exponent
  if pattern = format.infinity ∧ negative = false then none else some (.float negative pattern)

def exponent? : Reader Int
  | c :: rest =>
    if c = 'e' ∨ c = 'E' then do
      let (minus, rest) := DecimalLiteral.splitSign rest
      let (digits, rest) ← digits? Char.isDigit rest
      let n := (DecimalLiteral.ofDigits digits : Int)
      pure (if minus then -n else n, rest)
    else none
  | [] => none

/-- A decimal number after its sign. -/
def unsigned? (negative : Bool) : Reader Value := fun text => do
  let (whole, rest) ← wholeDigits? text
  match rest with
  | '.' :: tail => do
    let (fraction, rest) ← digits? Char.isDigit tail
    let (e, rest) ← match rest with
      | 'e' :: _ | 'E' :: _ => exponent? rest
      | _ => some (0, rest)
    (float? negative (whole ++ fraction) (e - fraction.length)).map fun value => (value, rest)
  | 'e' :: _ | 'E' :: _ => do
    let (e, rest) ← exponent? rest
    (float? negative whole e).map fun value => (value, rest)
  | _ => (integer? negative (DecimalLiteral.ofDigits whole)).map fun value => (value, rest)

/-- The words for what is no finite number. -/
def special? (negative : Bool) (text : List Char) : Option (Value × List Char) :=
  match expect? "inf" text with
  | some rest => some (.float negative BinaryFormat.binary64.infinity, rest)
  | none =>
    (expect? "nan" text).map fun rest =>
      (.float negative (BinaryFormat.binary64.infinity + 0x8000000000000), rest)

def number? : Reader Value := fun text =>
  match text with
  | '0' :: 'x' :: rest => radix? 16 rest
  | '0' :: 'o' :: rest => radix? 8 rest
  | '0' :: 'b' :: rest => radix? 2 rest
  | _ =>
    let (negative, rest) := DecimalLiteral.splitSign text
    (special? negative rest).or (unsigned? negative rest)

/-! ## Dates and times -/

/-- A number of exactly so many digits within bounds. -/
def bounded? (count low high : Nat) : Reader Nat := fun text =>
  let digits := text.take count
  let n := DecimalLiteral.ofDigits digits
  if digits.length = count ∧ digits.all Char.isDigit ∧ low ≤ n ∧ n ≤ high then
    some (n, text.drop count)
  else none

def daysIn (year month : Nat) : Nat :=
  if month = 2 then
    if year % 4 = 0 ∧ (year % 100 ≠ 0 ∨ year % 400 = 0) then 29 else 28
  else if month ∈ [4, 6, 9, 11] then 30
  else 31

/-- A day: year, month and day of the month. -/
def date? (text : List Char) : Option (List Char) := do
  let (year, rest) ← bounded? 4 0 9999 text
  let rest ← expect? "-" rest
  let (month, rest) ← bounded? 2 1 12 rest
  let rest ← expect? "-" rest
  let (_, rest) ← bounded? 2 1 (daysIn year month) rest
  pure rest

/-- A time of day: hour, minute, second and any fraction of it. -/
def time? (text : List Char) : Option (List Char) := do
  let (_, rest) ← bounded? 2 0 23 text
  let rest ← expect? ":" rest
  let (_, rest) ← bounded? 2 0 59 rest
  let rest ← expect? ":" rest
  let (_, rest) ← bounded? 2 0 60 rest
  match rest with
  | '.' :: d :: more => if d.isDigit then some (more.dropWhile Char.isDigit) else some rest
  | _ => some rest

/-- A distance from universal time. -/
def zone? : List Char → Option (List Char)
  | 'Z' :: rest => some rest
  | 'z' :: rest => some rest
  | c :: rest =>
    if c = '+' ∨ c = '-' then do
      let (_, rest) ← bounded? 2 0 23 rest
      let rest ← expect? ":" rest
      let (_, rest) ← bounded? 2 0 59 rest
      pure rest
    else none
  | [] => none

/-- A date, a time, or a date and a time with or without a zone. -/
def moment? : Reader Value := fun text =>
  match date? text with
  | some rest =>
    match rest with
    | c :: tail =>
      match if c = 'T' ∨ c = 't' ∨ c = ' ' then time? tail else none with
      | some after => some (.moment, (zone? after).getD after)
      | none => some (.moment, rest)
    | [] => some (.moment, rest)
  | none => (time? text).map fun rest => (.moment, rest)

end Toml

end SmartScale
