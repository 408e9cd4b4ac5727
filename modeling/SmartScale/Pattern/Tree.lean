import SmartScale.Pattern.Class
import SmartScale.Pattern.Group

/-!
# Trees of patterns

Reading a whole pattern as a tree.  What has been read stands in a `Builder`: the alternative that
is being read, the alternatives before it, and the groups around them that are still open.
-/

namespace SmartScale

namespace Pattern

open Text (Place Span Cursor)

/-- Alternatives, the last of which is being read. -/
structure Alternatives where
  /-- Where the first one begins. -/
  first : Place
  /-- The alternatives before, the last one first. -/
  before : List Node
  /-- Where the one that is being read begins. -/
  start : Place
  /-- Its parts, the last one first. -/
  parts : List Node
  deriving Repr

namespace Alternatives

def beginning (place : Place) : Alternatives := ⟨place, [], place, []⟩

def add (a : Alternatives) (part : Node) : Alternatives := { a with parts := part :: a.parts }

/-- The alternative that is being read, if it ends at a place. -/
def branch (a : Alternatives) (stop : Place) : Node :=
  match a.parts with
  | [] => .empty ⟨a.start, stop⟩
  | [part] => part
  | parts => .sequence parts.reverse ⟨a.start, stop⟩

/-- Another alternative begins behind the sign at the cursor. -/
def alternate (a : Alternatives) (sign : Cursor) : Alternatives :=
  ⟨a.first, a.branch sign.place :: a.before, sign.next.place, []⟩

/-- The alternatives as one part, if they end at a place. -/
def node (a : Alternatives) (stop : Place) : Node :=
  match a.before with
  | [] => a.branch stop
  | before => .choice (a.branch stop :: before).reverse ⟨a.first, stop⟩

end Alternatives

/-- An open group, and what stands around it. -/
structure OpenGroup where
  /-- The parenthesis that opens it. -/
  opening : Span
  change : FlagChange
  spaced : Bool
  around : Alternatives
  deriving Repr

structure Builder where
  spaced : Bool
  /-- The alternatives in the innermost open group. -/
  inside : Alternatives
  /-- The open groups, the innermost first. -/
  groups : List OpenGroup
  names : List (List Char × Span)
  deriving Repr

namespace Builder

def initial : Builder := ⟨false, .beginning .start, [], []⟩

def add (b : Builder) (part : Node) : Builder := { b with inside := b.inside.add part }

/-- A group opens at `start`; its text begins at `after`. -/
def openGroup (b : Builder) (change : FlagChange) (start after : Cursor) : Builder :=
  { b with spaced := change.spaced.getD b.spaced
           inside := .beginning after.place
           groups := ⟨start.head, change, b.spaced, b.inside⟩ :: b.groups }

/-- Takes what the opening parenthesis at `start` begins. -/
def take (b : Builder) (start : Cursor) (opening : Opening) (after : Cursor) :
    Except PatternError Builder :=
  match opening with
  | .group => .ok (b.openGroup .none start after)
  | .flagged change => .ok (b.openGroup change start after)
  | .flags change =>
    .ok { b.add (.flags change (start.upTo after)) with spaced := change.spaced.getD b.spaced }
  | .named name span =>
    match b.names.lookup name with
    | some earlier => .error (.fault .nameTwice span (some earlier))
    | none => .ok ({ b with names := (name, span) :: b.names }.openGroup .none start after)

/-- The innermost group is closed by the parenthesis at the cursor. -/
def closeGroup (b : Builder) (c : Cursor) : Except PatternError Builder :=
  match b.groups with
  | [] => refuse .groupUnopened c.head
  | group :: groups =>
    let part := Node.group group.change (b.inside.node c.place)
      ⟨group.opening.start, c.next.place⟩
    .ok { b with spaced := group.spaced, inside := group.around.add part, groups }

/-- The last part is repeated by the sign at the cursor; a question mark behind the sign belongs to
it. -/
def repeatLast (b : Builder) (c : Cursor) : Except PatternError (Builder × Cursor) :=
  match b.inside.parts with
  | part :: before =>
    if part.isRepeatable then
      let after := if c.next.rest.head? = some '?' then c.next.next else c.next
      let parts := .repetition part ⟨part.span.start, after.place⟩ :: before
      .ok ({ b with inside := { b.inside with parts } }, after)
    else refuse .nothingToRepeat c.here
  | [] => refuse .nothingToRepeat c.here

/-- The fault of a count, at whose opening brace the cursor stands. -/
def countFault (b : Builder) (c : Cursor) : PatternError :=
  let repeatable := (b.inside.parts.head?.map Node.isRepeatable).getD false
  let inside := step b.spaced c
  let first := inside.skipWhile Text.isBlank
  let behind := skipMixed b.spaced Char.isDigit first
  let stop := behind.skipWhile Text.isBlank
  let digits := (first.rest.take (first.rest.length - behind.rest.length)).filter Char.isDigit
  if !repeatable then .fault .nothingToRepeat c.here none
  else if stop.atEnd then .fault .countUnclosed (c.upTo stop) none
  else if digits.isEmpty then .fault .countEmpty (first.upTo behind) none
  else
    match Whole.parse 10 UInt32.size digits with
    | .error _ => .fault .countTooLarge (first.upTo behind) none
    | .ok _ => .fault .countUnclosed (c.upTo stop) none

/-- Reads on from a character, at which the cursor stands. -/
def read (b : Builder) (c : Cursor) (first : Char) : Except PatternError (Builder × Cursor) :=
  match first with
  | '(' =>
    (readOpening b.spaced c).bind fun (opening, after) =>
      (b.take c opening after).map fun b => (b, after)
  | ')' => (b.closeGroup c).map fun b => (b, c.next)
  | '|' => .ok ({ b with inside := b.inside.alternate c }, c.next)
  | '[' => (readWholeClass b.spaced c).map fun (set, after) => (b.add (.characters set), after)
  | '?' => b.repeatLast c
  | '*' => b.repeatLast c
  | '+' => b.repeatLast c
  | '\x7b' => .error (b.countFault c)
  | '\\' => (readEscape b.spaced c).map fun (item, after) => (b.add (.item item), after)
  | '.' => .ok (b.add (.item (.anyCharacter c.head)), c.next)
  | '^' => .ok (b.add (.item (.anchor c.head)), c.next)
  | '$' => .ok (b.add (.item (.anchor c.head)), c.next)
  | first => .ok (b.add (.item (.literal ⟨first.toNat, false, c.head⟩)), c.next)

/-- The tree, if the text ends at a place. -/
def finish (b : Builder) (stop : Place) : Except PatternError Node :=
  match b.groups with
  | [] => .ok (b.inside.node stop)
  | group :: _ => refuse .groupUnclosed group.opening

/-- Reads on to the end of the text.  Every round takes at least one character. -/
def readAll (b : Builder) (c : Cursor) : Nat → Except PatternError Node
  | 0 => b.finish c.place
  | fuel + 1 =>
    let c := skip b.spaced c
    match c.rest with
    | [] => b.finish c.place
    | first :: _ => (b.read c first).bind fun (b, after) => b.readAll after fuel

end Builder

def tree (text : List Char) : Except PatternError Node :=
  Builder.initial.readAll (.ofText text) (text.length + 1)

end Pattern

end SmartScale
