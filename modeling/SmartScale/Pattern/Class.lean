import SmartScale.Pattern.Escape

/-!
# Classes

Reading sets of characters between square brackets.  Classes may stand in classes; inside them two
sets may be put together, and a hyphen between two characters makes a range.
-/

namespace SmartScale

namespace Pattern

open Text (Place Span Cursor)

/-! ## Single items and ranges -/

def readClassItem (spaced : Bool) (c : Cursor) : Except PatternError (Item × Cursor) :=
  match c.rest with
  | '\\' :: _ => readEscape spaced c
  | first :: _ => .ok (.literal ⟨first.toNat, false, c.head⟩, c.next)
  | [] => refuse .classUnclosed c.here

def Item.toSet : Item → Except PatternError ClassSet
  | literal l => .ok (.literal l)
  | letterClass negated s => .ok (.letterClass negated s)
  | property s => .ok (.property s)
  | item => refuse .escapeInClass item.span

/-- The item as the end of a range. -/
def Item.toRangeEnd : Item → Except PatternError Literal
  | literal l => .ok l
  | item => refuse .rangeEnd item.span

def rangeOf (first last : Item) : Except PatternError ClassSet :=
  let span : Span := ⟨first.span.start, last.span.stop⟩
  first.toRangeEnd.bind fun low => last.toRangeEnd.bind fun high =>
    if low.point ≤ high.point then .ok (.range low high span) else refuse .rangeOrder span

/-- The character that decides whether a hyphen before the text makes a range: the next one that
says something, or the first of a comment. -/
def glance (spaced : Bool) (text : List Char) : Option Char :=
  if spaced then
    match text.dropWhile Text.isBlank with
    | '#' :: comment => (comment.dropWhile Text.isBlank).head?
    | other => other.head?
  else text.head?

/-- The hyphen at the cursor makes a range with what follows. -/
def makesRange (spaced : Bool) (c : Cursor) : Bool :=
  match c.rest with
  | '-' :: after =>
    let following := glance spaced after
    following != some ']' && following != some '-'
  | _ => false

/-- An item or a range in a class that opened at the span `opening`. -/
def readRange (spaced : Bool) (opening : Span) (c : Cursor) :
    Except PatternError (ClassSet × Cursor) :=
  (readClassItem spaced c).bind fun (first, after) =>
    let after := skip spaced after
    if after.atEnd then refuse .classUnclosed opening
    else if makesRange spaced after then
      let behind := step spaced after
      if behind.atEnd then refuse .classUnclosed opening
      else
        (readClassItem spaced behind).bind fun (last, after) =>
          (rangeOf first last).map fun set => (set, after)
    else first.toSet.map fun set => (set, after)

/-! ## Named classes -/

def asciiClasses : List String :=
  ["alnum", "alpha", "ascii", "blank", "cntrl", "digit", "graph", "lower", "print", "punct",
    "space", "upper", "word", "xdigit"]

/-- A named class of ASCII characters behind its opening bracket: whether it is negated, and how
many characters it has. -/
def asciiClass? : List Char → Option (Bool × Nat)
  | ':' :: rest =>
    let negated := rest.head? == some '^'
    let body := if negated then rest.drop 1 else rest
    let name := body.takeWhile (· != ':')
    match body.drop name.length with
    | ':' :: ']' :: _ =>
      if asciiClasses.contains (String.ofList name) then
        some (negated, name.length + if negated then 4 else 3)
      else none
    | _ => none
  | _ => none

/-- A named class of ASCII characters, at whose opening bracket the cursor stands. -/
def readAsciiClass? (c : Cursor) : Option (ClassSet × Cursor) :=
  (asciiClass? c.next.rest).map fun (negated, length) =>
    let after := c.next.advance length
    (.ascii negated (c.upTo after), after)

/-! ## Open classes -/

/-- A class as far as it has been read. -/
structure OpenClass where
  negated : Bool
  opening : Span
  left : Option (ClassOperation × ClassSet)
  first : Place
  /-- The items, the last one first. -/
  items : List ClassSet
  deriving Repr

namespace OpenClass

def add (c : OpenClass) (item : ClassSet) : OpenClass := { c with items := item :: c.items }

def side (c : OpenClass) : ClassSet :=
  match c.items.reverse with
  | [] => .empty (.point c.first)
  | [item] => item
  | items =>
    let start := (items.head?.map (·.span.start)).getD c.first
    let stop := (c.items.head?.map (·.span.stop)).getD c.first
    .union items ⟨start, stop⟩

/-- All that has been read as one set. -/
def body (c : OpenClass) : ClassSet :=
  match c.left with
  | none => c.side
  | some (kind, left) => .operation kind left c.side ⟨left.span.start, c.side.span.stop⟩

/-- What has been read becomes the left side of an operation; its right side begins at a place. -/
def operate (c : OpenClass) (kind : ClassOperation) (place : Place) : OpenClass :=
  { c with left := some (kind, c.body), first := place, items := [] }

def close (c : OpenClass) (stop : Place) : ClassSet :=
  .brackets c.negated c.body ⟨c.opening.start, stop⟩

end OpenClass

/-- Takes hyphens that stand for themselves at the beginning of a class. -/
def takeHyphens (spaced : Bool) (items : List ClassSet) (c : Cursor) :
    Nat → List ClassSet × Cursor
  | 0 => (items, c)
  | fuel + 1 =>
    if c.rest.head? = some '-' then
      takeHyphens spaced (.literal ⟨'-'.toNat, false, c.head⟩ :: items) (step spaced c) fuel
    else (items, c)

/-- The beginning of the class at `start`: a negation, hyphens, and where there are none, a closing
bracket that stands for itself. -/
def openClass (spaced : Bool) (start : Cursor) : Except PatternError (OpenClass × Cursor) :=
  let inside := step spaced start
  let negated := inside.rest.head? = some '^'
  let body := if negated then step spaced inside else inside
  let opened (items : List ClassSet) (c : Cursor) : OpenClass × Cursor :=
    (⟨negated, start.upTo c, none, body.place, items⟩, c)
  if body.atEnd then refuse .classUnclosed (start.upTo body)
  else if body.rest.head? = some ']' then
    let after := step spaced body
    if after.atEnd then refuse .classUnclosed (start.upTo after)
    else .ok (opened [.literal ⟨']'.toNat, false, body.head⟩] after)
  else
    let (hyphens, after) := takeHyphens spaced [] body body.rest.length
    if after.atEnd then refuse .classUnclosed start.here else .ok (opened hyphens after)

/-! ## Whole classes -/

/-- The operation whose sign the text begins with. -/
def operation? : List Char → Option ClassOperation
  | '&' :: '&' :: _ => some .intersection
  | '-' :: '-' :: _ => some .difference
  | '~' :: '~' :: _ => some .symmetricDifference
  | _ => none

/-- Reads on in a class, which stands in the classes `outer`, the innermost first.  Every round
takes at least one character. -/
def readClass (spaced : Bool) (outer : List OpenClass) (level : OpenClass) (c : Cursor) :
    Nat → Except PatternError (ClassSet × Cursor)
  | 0 => refuse .classUnclosed level.opening
  | fuel + 1 =>
    let c := skip spaced c
    match c.rest with
    | [] => refuse .classUnclosed level.opening
    | '[' :: _ =>
      match readAsciiClass? c with
      | some (set, after) => readClass spaced outer (level.add set) after fuel
      | none =>
        (openClass spaced c).bind fun (inner, after) =>
          readClass spaced (level :: outer) inner after fuel
    | ']' :: _ =>
      match outer with
      | [] => .ok (level.close c.next.place, c.next)
      | up :: outer => readClass spaced outer (up.add (level.close c.next.place)) c.next fuel
    | text =>
      match operation? text with
      | some kind =>
        let after := c.advance 2
        readClass spaced outer (level.operate kind after.place) after fuel
      | none =>
        (readRange spaced level.opening c).bind fun (set, after) =>
          readClass spaced outer (level.add set) after fuel

/-- The class at whose opening bracket the cursor stands. -/
def readWholeClass (spaced : Bool) (c : Cursor) : Except PatternError (ClassSet × Cursor) :=
  (openClass spaced c).bind fun (level, after) => readClass spaced [] level after c.rest.length

end Pattern

end SmartScale
