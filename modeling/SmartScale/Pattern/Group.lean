import SmartScale.Pattern.Escape
import SmartScale.Text.Numeric

/-!
# Groups

What stands behind an opening parenthesis: the name of a group, flags, or neither.
-/

namespace SmartScale

namespace Pattern

open Text (Place Span Cursor)

/-! ## Names -/

/-- The character may stand in the name of a group. -/
def isNameChar (first : Bool) (c : Char) : Bool :=
  c == '_' || Text.isAlphabetic c ||
    (!first && (c == '.' || c == '[' || c == ']' || Text.isNumeric c))

/-- The name of a group from a place on, up to its closing angle bracket; `read` is what has been
read of it, the last character first. -/
def readNameFrom (start place : Place) (read : List Char) :
    List Char → Except PatternError (List Char × Span × Cursor)
  | [] => refuse .nameUnclosed (.point place)
  | c :: rest =>
    let next := place.after c
    if c = '>' then
      if read.isEmpty then refuse .nameEmpty (.point start)
      else .ok (read.reverse, ⟨start, place⟩, ⟨next, rest⟩)
    else if isNameChar read.isEmpty c then readNameFrom start next (c :: read) rest
    else refuse .nameCharacter ⟨place, next⟩

/-- The name of a group at the cursor. -/
def readName (c : Cursor) : Except PatternError (List Char × Span × Cursor) :=
  readNameFrom c.place c.place [] c.rest

/-! ## Flags -/

def flagLetters : List Char := ['i', 'm', 's', 'U', 'u', 'R', 'x']

inductive FlagsEnd
  /-- They hold from there on. -/
  | closed
  /-- They hold in the group that they open. -/
  | opensGroup
  deriving DecidableEq, Repr

/-- Flags from a place on: what they change, what ends them, and the text behind that; `seen` holds
the signs before, the last one first.  No sign comes twice, and a negation changes at least one
flag. -/
def readFlags (seen : List (Char × Span)) (change : FlagChange) (place : Place) :
    List Char → Except PatternError (FlagChange × FlagsEnd × Cursor)
  | [] => refuse .flagsEnd (.point place)
  | c :: rest =>
    let next := place.after c
    let span : Span := ⟨place, next⟩
    let repeated (kind : PatternFault) : Option PatternError :=
      (seen.lookup c).map fun earlier => .fault kind span (some earlier)
    if c = ':' ∨ c = ')' then
      match seen with
      | ('-', negation) :: _ => refuse .negationDangling negation
      | _ => .ok (change, if c = ':' then .opensGroup else .closed, ⟨next, rest⟩)
    else if c = '-' then
      match repeated .negationTwice with
      | some e => .error e
      | none => readFlags ((c, span) :: seen) change next rest
    else if flagLetters.contains c then
      match repeated .flagTwice with
      | some e => .error e
      | none =>
        readFlags ((c, span) :: seen) (change.set c (seen.lookup '-').isNone) next rest
    else refuse .flagUnknown span

/-! ## Openings -/

/-- What an opening parenthesis begins. -/
inductive Opening
  | group
  /-- A group with a name, which stands at a span. -/
  | named (name : List Char) (span : Span)
  | flagged (change : FlagChange)
  /-- Flags for what follows, and no group. -/
  | flags (change : FlagChange)
  deriving DecidableEq, Repr

/-- A group whose name begins at the cursor. -/
def readNamed (c : Cursor) : Except PatternError (Opening × Cursor) :=
  (readName c).map fun (name, span, after) => (.named name span, after)

/-- Flags behind the opening parenthesis at `start` and the question mark at `sign`. -/
def readFlagged (start sign : Cursor) : Except PatternError (Opening × Cursor) :=
  let first := sign.next
  if first.atEnd then refuse .groupUnclosed start.head
  else
    (readFlags [] .none first.place first.rest).bind fun (change, stop, after) =>
      match stop with
      | .opensGroup => .ok (.flagged change, after)
      | .closed =>
        if first.rest.head? = some ')' then refuse .nothingToRepeat sign.here
        else .ok (.flags change, after)

/-- What the opening parenthesis at `start` begins, and the text behind that. -/
def readOpening (spaced : Bool) (start : Cursor) : Except PatternError (Opening × Cursor) :=
  let inside := step spaced start
  match inside.rest with
  | '?' :: '=' :: _ => refuse .lookAround (start.upTo (inside.advance 2))
  | '?' :: '!' :: _ => refuse .lookAround (start.upTo (inside.advance 2))
  | '?' :: '<' :: '=' :: _ => refuse .lookAround (start.upTo (inside.advance 3))
  | '?' :: '<' :: '!' :: _ => refuse .lookAround (start.upTo (inside.advance 3))
  | '?' :: 'P' :: '<' :: _ => readNamed (inside.advance 3)
  | '?' :: '<' :: _ => readNamed (inside.advance 2)
  | '?' :: _ => readFlagged start inside
  | _ => .ok (.group, inside)

end Pattern

end SmartScale
