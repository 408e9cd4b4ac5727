import SmartScale.Number.Rendering

/-!
# Machine-readable output

Values of the data format that the command line prints under `--json`, and their compact text: no
blanks, the fields of an object in the order of their names, a weight with the fewest digits of
its 64-bit value, and `null` for a weight that is not finite.
-/

namespace SmartScale

inductive Json
  | null
  | bool (value : Bool)
  | whole (value : Int)
  | weight (value : Reading)
  | text (value : String)
  | list (items : List Json)
  | object (fields : List (String × Json))

namespace Json

def hexDigit (n : Nat) : Char := Nat.digitChar n

/-- One character inside a text. -/
def escapeChar (c : Char) : List Char :=
  match c with
  | '"' => ['\\', '"']
  | '\\' => ['\\', '\\']
  | '\n' => ['\\', 'n']
  | '\r' => ['\\', 'r']
  | '\t' => ['\\', 't']
  | c =>
    if c.toNat = 8 then ['\\', 'b']
    else if c.toNat = 12 then ['\\', 'f']
    else if c.toNat < 32 then
      ['\\', 'u', '0', '0', hexDigit (c.toNat / 16), hexDigit (c.toNat % 16)]
    else [c]

/-- A text between quotes. -/
def quoted (text : String) : String :=
  String.ofList ('"' :: text.toList.flatMap escapeChar ++ ['"'])

/-- Inserts a named value by its name, in front of the first name that is greater. -/
def insertField (field : String × String) : List (String × String) → List (String × String)
  | [] => [field]
  | other :: rest =>
    if other.1 ≤ field.1 then other :: insertField field rest else field :: other :: rest

/-- Named values in the order of their names. -/
def sortFields (fields : List (String × String)) : List (String × String) :=
  fields.foldr insertField []

mutual

/-- The compact text of a value. -/
def compact : Json → String
  | null => "null"
  | bool value => if value then "true" else "false"
  | whole value => toString value
  | weight value => value.jsonText
  | text value => quoted value
  | list items => "[" ++ String.intercalate "," (compactItems items) ++ "]"
  | object fields =>
    "\x7b" ++ String.intercalate "," ((sortFields (compactFields fields)).map fun field =>
      quoted field.1 ++ ":" ++ field.2) ++ "\x7d"

def compactItems : List Json → List String
  | [] => []
  | item :: rest => compact item :: compactItems rest

def compactFields : List (String × Json) → List (String × String)
  | [] => []
  | (name, value) :: rest => (name, compact value) :: compactFields rest

end

end Json

end SmartScale
