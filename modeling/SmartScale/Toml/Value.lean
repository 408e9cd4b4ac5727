/-!
# Configuration values

The values that a configuration text denotes, each with the part of the text that it was read from.
A table or an array remembers whether it was written in place or under headers, since the two are
not always accepted alike.
-/

namespace SmartScale

namespace Toml

/-- A part of a text: the text from its beginning on, and the text behind its end. -/
structure Extent where
  /-- The text from the beginning of the part on. -/
  start : List Char
  /-- The text behind the part. -/
  stop : List Char
  deriving DecidableEq

/-- The part from the beginning of one part to the end of another. -/
def Extent.upTo (first last : Extent) : Extent := ⟨first.start, last.stop⟩

/-- Something that was read, and where it stands; what only follows from other parts of the text
stands nowhere. -/
structure Placed (α : Type) where
  content : α
  extent : Option Extent

structure Name where
  text : String
  extent : Extent
  deriving DecidableEq

/-- How a table or an array was written. -/
inductive Origin
  /-- In place, between brackets. -/
  | inline
  /-- Under headers or through dotted names. -/
  | headed
  deriving DecidableEq, Repr

inductive Value
  | text (value : String)
  | integer (value : Int)
  /-- A number in the 64-bit binary format: sign and pattern. -/
  | float (negative : Bool) (pattern : Nat)
  | boolean (value : Bool)
  /-- A date, a time, or both. -/
  | moment
  | array (origin : Origin) (items : List (Placed Value))
  /-- Named values in the order in which the names first appear. -/
  | table (origin : Origin) (fields : List (Name × Placed Value))

abbrev Item : Type := Placed Value

abbrev Fields : Type := List (Name × Item)

/-- The name of the kind of a value. -/
def Value.kindName : Value → String
  | text _ => "string"
  | integer _ => "integer"
  | float _ _ => "float"
  | boolean _ => "boolean"
  | moment => "datetime"
  | array .inline _ => "array"
  | array .headed _ => "array of tables"
  | table .inline _ => "inline table"
  | table .headed _ => "table"

end Toml

end SmartScale
