/-!
# Comma-separated records

Splitting bytes into records and fields.  Fields are separated by commas; a record ends with a line
feed, a carriage return, or both; empty lines between records are skipped.  A field that begins
with a double quote extends to the closing quote, a quote inside being written twice.

A `Csv.Cursor` stands between two records and knows its position: how many records came before, the
line, and the byte.  A mark for the byte order at the beginning of the text is no part of any field
but counts in bytes.
-/

namespace SmartScale

namespace Csv

structure Position where
  /-- Number of records before it. -/
  record : Nat
  /-- Its line, counted from one. -/
  line : Nat
  /-- Number of bytes before it. -/
  byte : Nat
  deriving DecidableEq, Repr

/-- A place between two records. -/
structure Cursor where
  rest : List UInt8
  position : Position
  deriving DecidableEq, Repr

def comma : UInt8 := 44

def quoteMark : UInt8 := 34

def isLineEnd (b : UInt8) : Bool := b == 10 || b == 13

namespace Position

def start : Position := ⟨0, 1, 0⟩

/-- The position after one more byte. -/
def advance (p : Position) (b : UInt8) : Position :=
  { p with byte := p.byte + 1, line := if b = 10 then p.line + 1 else p.line }

end Position

/-- What the bytes before have led to. -/
inductive State
  | between
  | fieldStart
  /-- Inside a field without quotes, or after its quotes. -/
  | inField
  | inQuotes
  /-- After a quote inside quotes: the first of two, or the closing one. -/
  | afterQuote
  deriving DecidableEq, Repr

/-- Reads the rest of a record: `field` holds the bytes of the current field, `fields` the fields
before it. -/
def scan (state : State) (field : List UInt8) (fields : List (List UInt8)) (p : Position) :
    List UInt8 → Option (List (List UInt8)) × Cursor
  | [] => (if state = .between then none else some (fields ++ [field]), ⟨[], p⟩)
  | b :: rest =>
    let next := p.advance b
    if state = .between ∧ isLineEnd b then scan .between [] [] next rest
    else if state = .inQuotes then
      if b = quoteMark then scan .afterQuote field fields next rest
      else scan .inQuotes (field ++ [b]) fields next rest
    else if b = quoteMark ∧ (state = .between ∨ state = .fieldStart) then
      scan .inQuotes field fields next rest
    else if b = quoteMark ∧ state = .afterQuote then
      scan .inQuotes (field ++ [b]) fields next rest
    else if b = comma then scan .fieldStart [] (fields ++ [field]) next rest
    else if isLineEnd b then (some (fields ++ [field]), ⟨rest, next⟩)
    else scan .inField (field ++ [b]) fields next rest

namespace Cursor

def byteOrderMark : List UInt8 := [0xEF, 0xBB, 0xBF]

def ofBytes (bytes : List UInt8) : Cursor :=
  if byteOrderMark.isPrefixOf bytes then ⟨bytes.drop 3, ⟨0, 1, 3⟩⟩ else ⟨bytes, ⟨0, 1, 0⟩⟩

/-- The fields of the next record, if there is one. -/
def next (c : Cursor) : Option (List (List UInt8)) × Cursor :=
  match scan .between [] [] c.position c.rest with
  | (some fields, after) =>
    (some fields,
      { after with position := { after.position with record := after.position.record + 1 } })
  | (none, after) => (none, after)

end Cursor

end Csv

end SmartScale
