import SmartScale.Text.Blank

/-!
# Places in a text

A place is a line and a column, both counted from one.  A span reaches from one place to another,
and a cursor stands at a place with the text behind it.
-/

namespace SmartScale

namespace Text

structure Place where
  /-- The line, counted from one. -/
  line : Nat
  /-- The column, counted from one. -/
  column : Nat
  deriving DecidableEq, Repr

namespace Place

def start : Place := ⟨1, 1⟩

def after (p : Place) (c : Char) : Place :=
  if c = '\n' then ⟨p.line + 1, 1⟩ else ⟨p.line, p.column + 1⟩

/-- The place is not behind the other. -/
def notBehind (p q : Place) : Bool := p.line < q.line || (p.line == q.line && p.column ≤ q.column)

end Place

/-- The part of a text from one place to another. -/
structure Span where
  start : Place
  stop : Place
  deriving DecidableEq, Repr

namespace Span

/-- The span of no character, at a place. -/
def point (p : Place) : Span := ⟨p, p⟩

def isOneLine (s : Span) : Bool := s.start.line == s.stop.line

end Span

/-- A place with the text behind it. -/
structure Cursor where
  place : Place
  rest : List Char
  deriving DecidableEq, Repr

namespace Cursor

def ofText (text : List Char) : Cursor := ⟨.start, text⟩

def atEnd (c : Cursor) : Bool := c.rest.isEmpty

def next (c : Cursor) : Cursor :=
  match c.rest with
  | [] => c
  | first :: rest => ⟨c.place.after first, rest⟩

def advance (c : Cursor) : Nat → Cursor
  | 0 => c
  | count + 1 => c.next.advance count

/-- The span of no character, at the cursor. -/
def here (c : Cursor) : Span := .point c.place

/-- The span of the next character. -/
def head (c : Cursor) : Span := ⟨c.place, c.next.place⟩

/-- The span from the cursor to another one. -/
def upTo (c stop : Cursor) : Span := ⟨c.place, stop.place⟩

/-- Behind the characters at the place that satisfy a test. -/
def skipFrom (test : Char → Bool) (place : Place) : List Char → Cursor
  | [] => ⟨place, []⟩
  | c :: rest => if test c then skipFrom test (place.after c) rest else ⟨place, c :: rest⟩

def skipWhile (c : Cursor) (test : Char → Bool) : Cursor := skipFrom test c.place c.rest

def toEnd (c : Cursor) : Cursor := c.skipWhile fun _ => true

end Cursor

end Text

end SmartScale
