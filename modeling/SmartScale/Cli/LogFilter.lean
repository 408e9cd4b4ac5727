import SmartScale.Number.Literal
import SmartScale.Number.Whole
import SmartScale.Pattern.Check

/-!
# Log filters

The text that selects log lines: directives between commas.  A directive is a level, or names a
target, a span between square brackets, or both, and may end in an equals sign and a level.  A span
may have one field between braces, whose value is a word, a number or a pattern.  The program's own
output does not depend on which lines are selected, so this file only says which texts are filters.

White space around a directive is left out when its parts are found, but their places, counted in
bytes, are then looked up in the directive as it stands.  With white space before it the parts so
begin and end that much too early.  A place inside a character cannot be looked up.
-/

namespace SmartScale

inductive LogFilterError
  /-- A directive does not follow the grammar. -/
  | malformed
  /-- The word behind an equals sign is no level. -/
  | unknownLevel
  /-- The value of a field is no word, number or pattern. -/
  | badField (value : List Char) (error : PatternError)
  /-- A part begins or ends inside a character. -/
  | splitCharacter
  deriving DecidableEq, Repr

namespace LogFilter

/-! ## Parts of a directive -/

def levels : List String := ["off", "error", "warn", "info", "debug", "trace"]

def maxLevel : Nat := 5

/-- The text names a level, by its word in any letter case or by its number. -/
def isLevel (text : List Char) : Bool :=
  levels.contains (String.ofList (text.map Char.toLower)) ||
    match Whole.parseWord text with
    | .ok n => n ≤ maxLevel
    | .error _ => false

/-- What follows the equals sign of a directive: nothing or a level. -/
def checkLevel (text : List Char) : Except LogFilterError Unit :=
  if text.isEmpty || isLevel text then .ok () else .error .unknownLevel

/-- The value of a field: a number or a pattern.  The words `true` and `false` are patterns too. -/
def checkValue (text : List Char) : Except LogFilterError Unit :=
  match DecimalLiteral.parse text with
  | .ok _ => .ok ()
  | .error _ => (Pattern.check text).mapError (.badField text)

/-- A field: a name, and behind an equals sign its value, up to the next equals sign. -/
def checkField (text : List Char) : Except LogFilterError Unit :=
  if text.isEmpty then .error .malformed
  else
    match text.dropWhile (· != '=') with
    | _ :: value => checkValue (value.takeWhile (· != '='))
    | [] => .ok ()

/-- The text cut after a number of bytes, unless that would cut a character. -/
def splitBytes? (count : Nat) (text : List Char) : Option (List Char × List Char) :=
  if count = 0 then some ([], text)
  else
    match text with
    | [] => none
    | c :: rest =>
      if count < c.utf8Size then none
      else (splitBytes? (count - c.utf8Size) rest).map fun (front, back) => (c :: front, back)

/-- The part of a text from one place up to another, counted in bytes. -/
def part (text : List Char) (first last : Nat) : Except LogFilterError (List Char) :=
  match splitBytes? first text with
  | none => .error .splitCharacter
  | some (_, back) =>
    match splitBytes? (last - first) back with
    | none => .error .splitCharacter
    | some (front, _) => .ok front

def partFrom (text : List Char) (first : Nat) : Except LogFilterError (List Char) :=
  match splitBytes? first text with
  | none => .error .splitCharacter
  | some (_, back) => .ok back

/-! ## Directives -/

/-- How far a directive has been read. -/
inductive Stage
  | start
  /-- In a level or the name of a target. -/
  | target
  /-- In the name of a span that begins at a place. -/
  | span (first : Nat)
  | field (first : Nat)
  | fieldEnd
  | spanEnd
  | level (first : Nat)
  deriving DecidableEq, Repr

/-- A directive may begin with the character, apart from the bracket of a span. -/
def startsTarget (c : Char) : Bool := c == '-' || c == ':' || c == '_' || Text.isAlphanumeric c

namespace Stage

/-- Reads the character at a place; `text` is the directive as it stands. -/
def next (text : List Char) (place : Nat) (c : Char) : Stage → Except LogFilterError Stage
  | start =>
    if c = '[' then .ok (span (place + 1))
    else if startsTarget c then .ok target
    else .error .malformed
  | target =>
    if c = '=' then (part text 0 place).map fun _ => level (place + 1)
    else if c = '[' then (part text 0 place).map fun _ => span (place + 1)
    else .ok target
  | span first =>
    if c = ']' then (part text first place).map fun _ => spanEnd
    else if c = '\x7b' then (part text first place).map fun _ => field (place + 1)
    else .ok (span first)
  | field first =>
    if c = '\x7d' then ((part text first place).bind checkField).map fun _ => fieldEnd
    else .ok (field first)
  | fieldEnd => if c = ']' then .ok spanEnd else .error .malformed
  | spanEnd => if c = '=' then .ok (level (place + 1)) else .error .malformed
  | level first => .ok (level first)

def finish (text : List Char) : Stage → Except LogFilterError Unit
  | target => .ok ()
  | spanEnd => .ok ()
  | level first => (partFrom text first).bind checkLevel
  | _ => .error .malformed

def readAll (text : List Char) (stage : Stage) (place : Nat) :
    List Char → Except LogFilterError Unit
  | [] => stage.finish text
  | c :: rest =>
    (stage.next text place c).bind fun stage => stage.readAll text (place + c.utf8Size) rest

end Stage

def checkDirective (text : List Char) : Except LogFilterError Unit :=
  Stage.start.readAll text 0 (Text.trim text)

def directives (text : List Char) : List (List Char) :=
  match text with
  | [] => [[]]
  | c :: rest =>
    if c = ',' then [] :: directives rest
    else match directives rest with
      | directive :: more => (c :: directive) :: more
      | [] => [[c]]

/-- Checks a filter; empty directives say nothing. -/
def check (text : String) : Except LogFilterError Unit :=
  ((directives text.toList).filter fun directive => !directive.isEmpty).forM checkDirective

end LogFilter

namespace LogFilterError

def levelMessage : String :=
  "error parsing level filter: expected one of \"off\", \"error\", \"warn\", \"info\", " ++
    "\"debug\", \"trace\", or a number 0-5"

/-- What went wrong, from the outermost circumstance to the cause.  A cause that a circumstance
already speaks of is told once more. -/
def chain : LogFilterError → List String
  | malformed => ["invalid filter directive"]
  | unknownLevel => [levelMessage, levelMessage]
  | badField value e =>
    let causes := e.chain value
    ("invalid field filter: " ++ causes.headD "") :: causes
  | splitCharacter => ["a part of the log filter begins or ends inside a character"]

end LogFilterError

end SmartScale
