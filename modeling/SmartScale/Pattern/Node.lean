import SmartScale.Text.Place

/-!
# The parts of patterns

A regular expression as a tree.  Every part knows the span of text that it was read from, so that a
fault found later can be shown in its place.

An `Item` stands for one character or one position, a `ClassSet` for a set of characters between
square brackets, and a `Node` for any part of a pattern.
-/

namespace SmartScale

namespace Pattern

/-- Flags that are changed; other flags do not matter to whether a text is a pattern. -/
structure FlagChange where
  spaced : Option Bool
  /-- Classes and boundaries are those of all characters, not of ASCII alone. -/
  unicode : Option Bool
  caseless : Option Bool
  deriving DecidableEq, Repr

namespace FlagChange

def none : FlagChange := ⟨.none, .none, .none⟩

def set (change : FlagChange) (flag : Char) (on : Bool) : FlagChange :=
  match flag with
  | 'x' => { change with spaced := some on }
  | 'u' => { change with unicode := some on }
  | 'i' => { change with caseless := some on }
  | _ => change

end FlagChange

structure Literal where
  point : Nat
  /-- It is written as the number of a byte. -/
  asByte : Bool
  span : Text.Span
  deriving DecidableEq, Repr

/-- What stands for one character or one position. -/
inductive Item
  | literal (literal : Literal)
  | anyCharacter (span : Text.Span)
  /-- A class named by a letter. -/
  | letterClass (negated : Bool) (span : Text.Span)
  | property (span : Text.Span)
  /-- The beginning or the end. -/
  | anchor (span : Text.Span)
  /-- The beginning or the end of a word, or neither. -/
  | wordBoundary (span : Text.Span)
  deriving DecidableEq, Repr

def Item.span : Item → Text.Span
  | literal l => l.span
  | anyCharacter s => s
  | letterClass _ s => s
  | property s => s
  | anchor s => s
  | wordBoundary s => s

/-- How two sets in a class are put together. -/
inductive ClassOperation
  | intersection
  /-- The characters in the left one only. -/
  | difference
  /-- The characters in one only. -/
  | symmetricDifference
  deriving DecidableEq, Repr

inductive ClassSet
  | empty (span : Text.Span)
  | literal (literal : Literal)
  | range (first last : Literal) (span : Text.Span)
  | ascii (negated : Bool) (span : Text.Span)
  | letterClass (negated : Bool) (span : Text.Span)
  | property (span : Text.Span)
  | brackets (negated : Bool) (body : ClassSet) (span : Text.Span)
  /-- Sets side by side. -/
  | union (items : List ClassSet) (span : Text.Span)
  | operation (kind : ClassOperation) (left right : ClassSet) (span : Text.Span)
  deriving Repr

def ClassSet.span : ClassSet → Text.Span
  | empty s => s
  | literal l => l.span
  | range _ _ s => s
  | ascii _ s => s
  | letterClass _ s => s
  | property s => s
  | brackets _ _ s => s
  | union _ s => s
  | operation _ _ _ s => s

/-- A part of a pattern. -/
inductive Node
  | empty (span : Text.Span)
  /-- Flags for what follows. -/
  | flags (change : FlagChange) (span : Text.Span)
  /-- A character or a position. -/
  | item (item : Item)
  /-- A character of a class. -/
  | characters (set : ClassSet)
  | repetition (body : Node) (span : Text.Span)
  /-- A part in parentheses, with flags for it. -/
  | group (change : FlagChange) (body : Node) (span : Text.Span)
  /-- Parts one after the other. -/
  | sequence (parts : List Node) (span : Text.Span)
  | choice (branches : List Node) (span : Text.Span)
  deriving Repr

namespace Node

def span : Node → Text.Span
  | empty s => s
  | flags _ s => s
  | item i => i.span
  | characters set => set.span
  | repetition _ s => s
  | group _ _ s => s
  | sequence _ s => s
  | choice _ s => s

def isRepeatable : Node → Bool
  | empty _ => false
  | flags _ _ => false
  | _ => true

end Node

end Pattern

end SmartScale
