import SmartScale.Pattern.Tree

/-!
# Patterns for automata

Which texts are regular expressions that an automaton can run in one pass.  A pattern must not be
nested too deep, and each part of it has to be one that an automaton can be built for.

An automaton knows no tables of character properties.  So classes such as `\d`, boundaries of words,
and the disregard of letter case are refused wherever they would have to hold for all characters;
they may be used where the flag `u` is off, and there in turn nothing may match a part of a
character.
-/

namespace SmartScale

namespace Pattern

open Text (Span)

/-! ## Nesting -/

def maxDepth : Nat := 250

/-- One step deeper, unless that is too deep. -/
def deeper (depth : Nat) (span : Span) : Except PatternError Nat :=
  if depth < maxDepth then .ok (depth + 1) else refuse (.tooDeep maxDepth) span

mutual

/-- A set at a depth is nowhere too deep.  Brackets are one step, which the set or the part counts
that they are. -/
def ClassSet.checkDepth (depth : Nat) : ClassSet → Except PatternError Unit
  | .brackets _ body span => (deeper depth span).bind fun depth => body.checkDepth depth
  | .union items span => (deeper depth span).bind fun depth => ClassSet.checkDepths depth items
  | .operation _ left right span =>
    (deeper depth span).bind fun depth =>
      (left.checkDepth depth).bind fun () => right.checkDepth depth
  | _ => .ok ()

/-- Sets at a depth are nowhere too deep. -/
def ClassSet.checkDepths (depth : Nat) : List ClassSet → Except PatternError Unit
  | [] => .ok ()
  | item :: items => (item.checkDepth depth).bind fun () => ClassSet.checkDepths depth items

end

mutual

/-- A part at a depth is nowhere too deep. -/
def Node.checkDepth (depth : Nat) : Node → Except PatternError Unit
  | .characters set => set.checkDepth depth
  | .repetition body span => (deeper depth span).bind fun depth => body.checkDepth depth
  | .group _ body span => (deeper depth span).bind fun depth => body.checkDepth depth
  | .sequence parts span => (deeper depth span).bind fun depth => Node.checkDepths depth parts
  | .choice branches span => (deeper depth span).bind fun depth => Node.checkDepths depth branches
  | _ => .ok ()

/-- Parts at a depth are nowhere too deep. -/
def Node.checkDepths (depth : Nat) : List Node → Except PatternError Unit
  | [] => .ok ()
  | part :: parts => (part.checkDepth depth).bind fun () => Node.checkDepths depth parts

end

/-! ## Flags in effect -/

structure Mode where
  /-- Classes and boundaries are those of all characters, not of ASCII alone. -/
  unicode : Bool
  caseless : Bool
  deriving DecidableEq, Repr

namespace Mode

def initial : Mode := ⟨true, false⟩

def apply (mode : Mode) (change : FlagChange) : Mode :=
  ⟨change.unicode.getD mode.unicode, change.caseless.getD mode.caseless⟩

/-- Letter case would have to be disregarded for all characters. -/
def foldsAll (mode : Mode) : Bool := mode.unicode && mode.caseless

end Mode

/-! ## Classes -/

/-- What a set holds, as far as letter case is concerned. -/
inductive Content
  | nothing
  | everything
  /-- Characters whose other letter cases would have to be looked up. -/
  | letters
  deriving DecidableEq, Repr

namespace Content

def union : Content → Content → Content
  | nothing, c => c
  | c, nothing => c
  | everything, everything => everything
  | _, _ => letters

def complement : Content → Content
  | nothing => everything
  | everything => nothing
  | letters => letters

def operate : ClassOperation → Content → Content → Content
  | _, letters, _ => letters
  | _, _, letters => letters
  | .intersection, everything, everything => everything
  | .difference, everything, nothing => everything
  | .symmetricDifference, everything, nothing => everything
  | .symmetricDifference, nothing, everything => everything
  | _, _, _ => nothing

/-- The set can be given all letter cases; `span` is where it stands. -/
def fold (mode : Mode) (span : Span) (c : Content) : Except PatternError Unit :=
  if mode.foldsAll && c == letters then refuse .letterCaseUnknown span else .ok ()

end Content

/-- A set that is known but for its negation; with the flag `u` off, all other characters are bytes
too that are only a part of a character. -/
def negate (mode : Mode) (negated : Bool) (span : Span) (c : Content) :
    Except PatternError Content :=
  (c.fold mode span).bind fun () =>
    if negated && !mode.unicode then refuse .partOfCharacter span
    else .ok (if negated then c.complement else c)

def Literal.checkInClass (mode : Mode) (l : Literal) : Except PatternError Unit :=
  if mode.unicode || l.point < 0x80 then .ok ()
  else if l.asByte then refuse .partOfCharacter l.span
  else refuse .propertyOfBytes l.span

/-- A class that a letter names, at a span. -/
def checkLetterClass (mode : Mode) (negated : Bool) (span : Span) : Except PatternError Unit :=
  if mode.unicode then refuse .letterClassUnknown span
  else if negated then refuse .partOfCharacter span
  else .ok ()

/-- The fault of characters with a property, which are asked for at a span. -/
def propertyError (mode : Mode) (span : Span) : PatternError :=
  .fault (if mode.unicode then .propertyUnknown else .propertyOfBytes) span none

mutual

/-- What a set holds, if it can be built. -/
def ClassSet.content (mode : Mode) : ClassSet → Except PatternError Content
  | .empty _ => .ok .nothing
  | .literal l => (l.checkInClass mode).map fun () => .letters
  | .range first last _ =>
    (first.checkInClass mode).bind fun () => (last.checkInClass mode).map fun () => .letters
  | .ascii negated span => negate mode negated span .letters
  | .letterClass negated span => (checkLetterClass mode negated span).map fun () => .letters
  | .property span => .error (propertyError mode span)
  | .brackets negated body span => (body.content mode).bind (negate mode negated span)
  | .union items _ => ClassSet.contents mode items
  | .operation kind left right _ =>
    (left.content mode).bind fun leftContent => (right.content mode).bind fun rightContent =>
      (rightContent.fold mode right.span).bind fun () =>
        (leftContent.fold mode left.span).map fun () => leftContent.operate kind rightContent

/-- What sets side by side hold. -/
def ClassSet.contents (mode : Mode) : List ClassSet → Except PatternError Content
  | [] => .ok .nothing
  | item :: items =>
    (item.content mode).bind fun first => (ClassSet.contents mode items).map first.union

end

/-! ## Whole patterns -/

/-- What is known behind a part of a pattern. -/
structure Progress where
  mode : Mode
  asksBoundary : Bool
  deriving DecidableEq, Repr

def Progress.initial : Progress := ⟨.initial, false⟩

/-- An automaton can run the item. -/
def Item.check (p : Progress) : Item → Except PatternError Progress
  | literal l =>
    if p.mode.foldsAll then refuse .letterCaseUnknown l.span
    else if !p.mode.unicode && l.asByte && l.point ≥ 0x80 then refuse .partOfCharacter l.span
    else .ok p
  | anyCharacter span => if p.mode.unicode then .ok p else refuse .partOfCharacter span
  | letterClass negated span => (checkLetterClass p.mode negated span).map fun () => p
  | property span => .error (propertyError p.mode span)
  | anchor _ => .ok p
  | wordBoundary _ => .ok { p with asksBoundary := p.asksBoundary || p.mode.unicode }

mutual

/-- An automaton can run the part. -/
def Node.check (p : Progress) : Node → Except PatternError Progress
  | .empty _ => .ok p
  | .flags change _ => .ok { p with mode := p.mode.apply change }
  | .item part => part.check p
  | .characters set => (set.content p.mode).map fun _ => p
  | .repetition body _ => body.check p
  | .group change body _ =>
    (body.check { p with mode := p.mode.apply change }).map fun q => { q with mode := p.mode }
  | .sequence parts _ => Node.checkAll p parts
  | .choice branches _ => Node.checkAll p branches

/-- An automaton can run the parts one after the other. -/
def Node.checkAll (p : Progress) : List Node → Except PatternError Progress
  | [] => .ok p
  | part :: parts => (part.check p).bind fun q => Node.checkAll q parts

end

/-- The text is a pattern that an automaton can run. -/
def check (text : List Char) : Except PatternError Unit :=
  (tree text).bind fun node =>
    (node.checkDepth 0).bind fun () =>
      (node.check .initial).bind fun p => if p.asksBoundary then .error .wordBoundary else .ok ()

end Pattern

end SmartScale
