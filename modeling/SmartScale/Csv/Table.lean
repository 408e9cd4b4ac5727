import SmartScale.Csv.Record
import SmartScale.Text.Blank
import SmartScale.Text.Utf8

/-!
# Tables of text

Records as rows of trimmed texts under a header row.  Every row has to have as many fields as the
header, and every field has to be UTF-8.  The blanks that only ASCII knows are removed before the
bytes are read as text, white space in general afterwards.
-/

namespace SmartScale

namespace Csv

structure TextFault where
  /-- The field, counted from zero. -/
  field : Nat
  /-- Bytes of the field that are well formed. -/
  validBytes : Nat
  deriving DecidableEq, Repr

inductive RowError
  /-- It has another number of fields than the rows before. -/
  | unequalLengths (position : Position) (expected length : Nat)
  /-- A field is no text. -/
  | notText (position : Position) (fault : TextFault)
  /-- A field has a text that does not fit. -/
  | badField (position : Position) (field : Nat) (reason : String)
  deriving DecidableEq, Repr

namespace RowError

/-- The position as most messages show it. -/
def place (p : Position) : String :=
  "record " ++ toString p.record ++ " (line: " ++ toString p.line ++ ", byte: " ++
    toString p.byte ++ ")"

def message : RowError → String
  | unequalLengths p expected length =>
    "CSV error: " ++ place p ++ ": found record with " ++ toString length ++
      " fields, but the previous record has " ++ toString expected ++ " fields"
  | notText p fault =>
    "CSV parse error: record " ++ toString p.record ++ " (line " ++ toString p.line ++
      ", field: " ++ toString fault.field ++ ", byte: " ++ toString p.byte ++
      "): invalid utf-8: invalid UTF-8 in field " ++ toString fault.field ++
      " near byte index " ++ toString fault.validBytes
  | badField p field reason =>
    "CSV deserialize error: " ++ place p ++ ": field " ++ toString field ++ ": " ++ reason

end RowError

/-- Reads fields as texts, the first of them having number `index`. -/
def textsFrom (index : Nat) : List (List UInt8) → Except TextFault (List (List Char))
  | [] => .ok []
  | field :: rest =>
    match Utf8.decode field with
    | .error valid => .error ⟨index, valid⟩
    | .ok text => (textsFrom (index + 1) rest).map (Text.trim text :: ·)

/-- The header row, which counts as the beginning of the text even behind a mark for the byte order.
An empty text has an empty header. -/
def header (c : Cursor) : Except RowError (List (List Char)) × Cursor :=
  let (fields, after) := c.next
  let names := (textsFrom 0 (fields.getD [])).mapError (RowError.notText Position.start)
  (names, after)

def row (width : Nat) (p : Position) (fields : List (List UInt8)) :
    Except RowError (List (List Char)) :=
  if fields.length ≠ width then .error (.unequalLengths p width fields.length)
  else (textsFrom 0 (fields.map (Text.trimBy Text.isBlankByte))).mapError (.notText p)

end Csv

end SmartScale
