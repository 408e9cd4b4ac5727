import SmartScale.Number.Whole
import SmartScale.Pattern.Fault
import SmartScale.Pattern.Node

/-!
# Escapes

What a backslash and the characters behind it stand for.

A pattern is cut from between braces, so no brace in it is ever closed: where a brace may open, what
follows is always at fault, and only the fault has to be found.
-/

namespace SmartScale

namespace Pattern

open Text (Place Span Cursor)

def refuse {α : Type} (kind : PatternFault) (span : Span) : Except PatternError α :=
  .error (.fault kind span none)

/-! ## White space -/

/-- Behind white space, comments, and characters that satisfy a test; a comment ends with its
line. -/
def skipAmong (test : Char → Bool) (inComment : Bool) (place : Place) : List Char → Cursor
  | [] => ⟨place, []⟩
  | c :: rest =>
    if inComment then skipAmong test (c != '\n') (place.after c) rest
    else if Text.isBlank c || test c then skipAmong test false (place.after c) rest
    else if c = '#' then skipAmong test true (place.after c) rest
    else ⟨place, c :: rest⟩

/-- Behind characters that satisfy a test; where white space says nothing, behind it as well. -/
def skipMixed (spaced : Bool) (test : Char → Bool) (c : Cursor) : Cursor :=
  if spaced then skipAmong test false c.place c.rest else c.skipWhile test

/-- Behind what says nothing. -/
def skip (spaced : Bool) (c : Cursor) : Cursor := skipMixed spaced (fun _ => false) c

/-- Behind one character and what says nothing after it. -/
def step (spaced : Bool) (c : Cursor) : Cursor := skip spaced c.next

/-! ## Numbers of characters -/

def isHexDigit (c : Char) : Bool := (Whole.digit? 16 c).isSome

def readHexDigits (spaced : Bool) (value : Nat) (c : Cursor) :
    Nat → Except PatternError (Nat × Cursor)
  | 0 => .ok (value, c)
  | count + 1 =>
    match c.rest with
    | [] => refuse .escapeEnds c.here
    | first :: _ =>
      match Whole.digit? 16 first with
      | none => refuse .hexDigit c.head
      | some digit => readHexDigits spaced (16 * value + digit) (step spaced c) count

/-- The fault of a number in braces, at whose opening brace the cursor stands. -/
def unclosedHex (spaced : Bool) (brace : Cursor) : PatternError :=
  let stop := skipMixed spaced isHexDigit (step spaced brace)
  if stop.atEnd then .fault .escapeEnds (brace.upTo stop) none else .fault .hexDigit stop.head none

/-- A character written as a number of `count` hexadecimal digits, behind the backslash at `start`
and the letter at `letter`. -/
def readHex (spaced : Bool) (count : Nat) (start letter : Cursor) :
    Except PatternError (Item × Cursor) :=
  let first := step spaced letter
  match first.rest with
  | [] => refuse .escapeEnds first.here
  | '\x7b' :: _ => .error (unclosedHex spaced first)
  | _ =>
    (readHexDigits spaced 0 first count).bind fun (point, after) =>
      if point.isValidChar then .ok (.literal ⟨point, count == 2, start.upTo after⟩, after)
      else refuse .hexNoCharacter (first.upTo after)

/-! ## Properties and boundaries -/

/-- The characters with a property, which one character names. -/
def readProperty (spaced : Bool) (start letter : Cursor) : Except PatternError (Item × Cursor) :=
  let name := step spaced letter
  match name.rest with
  | [] => refuse .escapeEnds name.here
  | '\x7b' :: _ => refuse .escapeEnds name.toEnd.here
  | '\\' :: _ => refuse .propertyName name.head
  | _ =>
    let after := step spaced name
    .ok (.property (start.upTo after), after)

/-- The character may stand in the name of a boundary. -/
def isBoundaryChar (c : Char) : Bool := c.isAlpha || c == '-'

/-- A boundary of words, behind which a brace may begin its name or a count. -/
def readBoundary (spaced : Bool) (start after : Cursor) : Except PatternError (Item × Cursor) :=
  let boundary := (Item.wordBoundary (start.upTo after), after)
  match after.rest with
  | '\x7b' :: _ =>
    let inside := step spaced after
    match inside.rest with
    | [] => refuse .boundaryEnds (start.upTo inside)
    | c :: _ =>
      if isBoundaryChar c then
        refuse .boundaryUnclosed (after.upTo (skipMixed spaced isBoundaryChar inside))
      else .ok boundary
  | _ => .ok boundary

/-! ## Escapes -/

def metaCharacters : List Char :=
  ['\\', '.', '+', '*', '?', '(', ')', '|', '[', ']', '\x7b', '\x7d', '^', '$', '#', '&', '-', '~']

/-- A backslash before the character makes it stand for itself. -/
def isEscapable (c : Char) : Bool :=
  metaCharacters.contains c || (c.toNat < 0x80 && !c.isAlphanum && c != '<' && c != '>')

/-- The control character that a letter behind a backslash stands for. -/
def control? (c : Char) : Option Nat :=
  match c with
  | 'a' => some 0x07
  | 't' => some 0x09
  | 'n' => some 0x0A
  | 'v' => some 0x0B
  | 'f' => some 0x0C
  | 'r' => some 0x0D
  | _ => none

/-- The item that begins with the backslash at `start`. -/
def readEscape (spaced : Bool) (start : Cursor) : Except PatternError (Item × Cursor) :=
  let letter := start.next
  match letter.rest with
  | [] => refuse .escapeEnds (start.upTo letter)
  | c :: _ =>
    let after := letter.next
    let span := start.upTo after
    if c.isDigit then refuse .backreference span
    else if c = 'x' then readHex spaced 2 start letter
    else if c = 'u' then readHex spaced 4 start letter
    else if c = 'U' then readHex spaced 8 start letter
    else if c = 'p' ∨ c = 'P' then readProperty spaced start letter
    else if c = 'd' ∨ c = 's' ∨ c = 'w' then .ok (.letterClass false span, after)
    else if c = 'D' ∨ c = 'S' ∨ c = 'W' then .ok (.letterClass true span, after)
    else if c = 'A' ∨ c = 'z' then .ok (.anchor span, after)
    else if c = 'b' then readBoundary spaced start after
    else if c = 'B' ∨ c = '<' ∨ c = '>' then .ok (.wordBoundary span, after)
    else if isEscapable c then .ok (.literal ⟨c.toNat, false, span⟩, after)
    else match control? c with
      | some point => .ok (.literal ⟨point, false, span⟩, after)
      | none => refuse .escapeUnknown span

end Pattern

end SmartScale
