/-!
# Reading from the front of a text

A `Reader` takes what it reads from the front of a text and gives the rest, or fails.  This file has
the pieces that all configuration syntax shares: blanks, line ends and comments.
-/

namespace SmartScale

namespace Toml

/-- Reads something from the front of a text. -/
abbrev Reader (α : Type) : Type := List Char → Option (α × List Char)

def isSpace (c : Char) : Bool := c == ' ' || c == '\t'

def skipSpace (text : List Char) : List Char := text.dropWhile isSpace

/-- The text after a line end: a line feed, or a carriage return and a line feed. -/
def newline? : List Char → Option (List Char)
  | '\n' :: rest => some rest
  | '\r' :: '\n' :: rest => some rest
  | _ => none

/-- The character may stand in a line: a tab or anything that is no control character. -/
def isLineChar (c : Char) : Bool := c == '\t' || (0x20 ≤ c.toNat && c.toNat ≠ 0x7F)

/-- The text after a comment, which begins it, up to the end of the line. -/
def skipComment (text : List Char) : List Char :=
  match text with
  | '#' :: rest => rest.dropWhile isLineChar
  | _ => text

/-- The text after a line end or at its own end. -/
def lineEnd? (text : List Char) : Option (List Char) :=
  if text.isEmpty then some [] else newline? text

/-- The text after what may follow a statement on its line. -/
def endStatement? (text : List Char) : Option (List Char) :=
  lineEnd? (skipComment (skipSpace text))

/-- The text after blanks, comments and line ends; each round takes at least one character. -/
def skipLines : Nat → List Char → List Char
  | 0, text => text
  | fuel + 1, text =>
    let after := skipSpace text
    match newline? (skipComment after) with
    | some rest => skipLines fuel rest
    | none => after

/-- The text after a given one. -/
def expect? (start : String) (text : List Char) : Option (List Char) :=
  if start.toList.isPrefixOf text then some (text.drop start.length) else none

end Toml

end SmartScale
