import SmartScale.Csv.Table
import SmartScale.Disk.Basic
import SmartScale.Number.Literal
import SmartScale.Number.Whole
import SmartScale.Objects
import SmartScale.Text.Quoted

/-!
# Tables of objects

Object rows kept as comma-separated text with the columns `slot`, `weight` and `tolerance`.
`ObjectsTable.parse` reads the bytes of such a table and gives its rows only if they pass
`checkObjects`; `ObjectsTable.load` reads them from a file.
-/

namespace SmartScale

inductive TableError
  | cannotOpen (error : DiskError)
  | cannotReadHeader (reason : String)
  | wrongHeader (names : List String)
  /-- The row with this number, the header being number one, cannot be read. -/
  | badRow (number : Nat) (error : Csv.RowError)
  | noRows
  | badObjects (fault : ObjectFault)
  deriving DecidableEq, Repr

def TableError.message (path : String) : TableError → String
  | cannotOpen e => "open objects CSV " ++ Text.quote path ++ ": " ++ e.message
  | cannotReadHeader reason => "read CSV headers " ++ Text.quote path ++ ": " ++ reason
  | wrongHeader names =>
    "objects CSV must have headers 'slot,weight,tolerance', got: " ++
      String.intercalate "," names
  | badRow number e => "invalid CSV row " ++ toString number ++ ": " ++ e.message
  | noRows => "objects CSV " ++ Text.quote path ++ " has no rows"
  | badObjects fault => fault.message

namespace ObjectsTable

def columns : List String := ["slot", "weight", "tolerance"]

/-- A slot: hexadecimal after `0x`, else decimal. -/
def slot : List Char → Except WholeError Nat
  | '0' :: 'x' :: digits => Whole.parse 16 UInt64.size digits
  | text => Whole.parse 10 UInt64.size text

def weight (text : List Char) : Except LiteralError Reading :=
  (DecimalLiteral.parse text).map Reading.ofLiteral

/-- The object that the texts of a row describe; the first text that does not fit is at fault. -/
def object (p : Csv.Position) : List (List Char) → Except Csv.RowError ObjectRow
  | [slotText, weightText, toleranceText] =>
    match slot slotText with
    | .error e => .error (.badField p 0 e.message)
    | .ok index =>
      match weight weightText with
      | .error e => .error (.badField p 1 e.message)
      | .ok mass =>
        match weight toleranceText with
        | .error e => .error (.badField p 2 e.message)
        | .ok tolerance => .ok ⟨UInt64.ofNat index, mass, tolerance⟩
  | texts => .error (.unequalLengths p columns.length texts.length)

/-- The rows from a cursor on, the first of them having number `number`; each row takes at least one
byte, so there are no more rows than bytes. -/
def rowsFrom : Nat → Nat → Csv.Cursor → Except TableError (List ObjectRow)
  | 0, _, _ => .ok []
  | fuel + 1, number, cursor =>
    match cursor.next with
    | (none, _) => .ok []
    | (some fields, after) =>
      let read := (Csv.row columns.length cursor.position fields).bind (object cursor.position)
      match read with
      | .error e => .error (.badRow number e)
      | .ok row => (rowsFrom fuel (number + 1) after).map (row :: ·)

def parse (bytes : List UInt8) : Except TableError (List ObjectRow) :=
  match Csv.header (Csv.Cursor.ofBytes bytes) with
  | (.error e, _) => .error (.cannotReadHeader e.message)
  | (.ok names, cursor) =>
    if names.map String.ofList ≠ columns then .error (.wrongHeader (names.map String.ofList))
    else
      match rowsFrom (bytes.length + 1) 2 cursor with
      | .error e => .error e
      | .ok rows =>
        if rows.isEmpty then .error .noRows
        else
          match checkObjects rows with
          | .error fault => .error (.badObjects fault)
          | .ok () => .ok rows

def load (disk : Disk) (path : String) : Except TableError (List ObjectRow) :=
  match disk.lookup path with
  | .error e => .error (.cannotOpen e)
  | .ok .directory => .error (.cannotReadHeader DiskError.isDirectory.message)
  | .ok (.file bytes) => parse bytes

end ObjectsTable

end SmartScale
