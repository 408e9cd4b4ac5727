import SmartScale.Text.Marked

/-!
# Faults of patterns

What can be wrong with a text that should be a regular expression.  A fault has a place; where
something stands twice, the first of the two has one as well.  `PatternError.chain` says it all,
from the outermost circumstance to the cause.
-/

namespace SmartScale

/-- What is wrong with a pattern. -/
inductive PatternFault
  | escapeInClass
  | rangeOrder
  /-- The end of a range is no single character. -/
  | rangeEnd
  | classUnclosed
  | countTooLarge
  | countEmpty
  | countUnclosed
  /-- A number is no character. -/
  | hexNoCharacter
  /-- A hexadecimal digit is none. -/
  | hexDigit
  | escapeEnds
  | escapeUnknown
  /-- A negation of flags has no flags. -/
  | negationDangling
  | flagTwice
  | negationTwice
  | flagsEnd
  | flagUnknown
  | nameTwice
  | nameEmpty
  /-- A character cannot stand in the name of a group. -/
  | nameCharacter
  | nameUnclosed
  | groupUnclosed
  | groupUnopened
  /-- The parts are nested too deep. -/
  | tooDeep (limit : Nat)
  | nothingToRepeat
  | boundaryUnclosed
  /-- The text ends where the name of a boundary or a count begins. -/
  | boundaryEnds
  /-- A property cannot have this name. -/
  | propertyName
  | backreference
  | lookAround
  /-- A property of characters stands where only bytes count. -/
  | propertyOfBytes
  /-- A part could match a part of a character. -/
  | partOfCharacter
  | propertyUnknown
  | letterClassUnknown
  | letterCaseUnknown
  deriving DecidableEq, Repr

namespace PatternFault

def message : PatternFault → String
  | escapeInClass => "invalid escape sequence found in character class"
  | rangeOrder => "invalid character class range, the start must be <= the end"
  | rangeEnd => "invalid range boundary, must be a literal"
  | classUnclosed => "unclosed character class"
  | countTooLarge => "decimal literal invalid"
  | countEmpty => "repetition quantifier expects a valid decimal"
  | countUnclosed => "unclosed counted repetition"
  | hexNoCharacter => "hexadecimal literal is not a Unicode scalar value"
  | hexDigit => "invalid hexadecimal digit"
  | escapeEnds => "incomplete escape sequence, reached end of pattern prematurely"
  | escapeUnknown => "unrecognized escape sequence"
  | negationDangling => "dangling flag negation operator"
  | flagTwice => "duplicate flag"
  | negationTwice => "flag negation operator repeated"
  | flagsEnd => "expected flag but got end of regex"
  | flagUnknown => "unrecognized flag"
  | nameTwice => "duplicate capture group name"
  | nameEmpty => "empty capture group name"
  | nameCharacter => "invalid capture group character"
  | nameUnclosed => "unclosed capture group name"
  | groupUnclosed => "unclosed group"
  | groupUnopened => "unopened group"
  | tooDeep limit =>
    "exceed the maximum number of nested parentheses/brackets (" ++ toString limit ++ ")"
  | nothingToRepeat => "repetition operator missing expression"
  | boundaryUnclosed =>
    "special word boundary assertion is either unclosed or contains an invalid character"
  | boundaryEnds =>
    "found either the beginning of a special word boundary or a bounded repetition on a \\b " ++
      "with an opening brace, but no closing brace"
  | propertyName => "invalid Unicode character class"
  | backreference => "backreferences are not supported"
  | lookAround => "look-around, including look-ahead and look-behind, is not supported"
  | propertyOfBytes => "Unicode not allowed here"
  | partOfCharacter => "pattern can match invalid UTF-8"
  | propertyUnknown => "Unicode property not found"
  | letterClassUnknown =>
    "Unicode-aware Perl class not found (make sure the unicode-perl feature is enabled)"
  | letterCaseUnknown =>
    "Unicode-aware case insensitivity matching is not available " ++
      "(make sure the unicode-case feature is enabled)"

end PatternFault

/-- Why a text is no pattern that an automaton can run. -/
inductive PatternError
  /-- A part is at fault; where it stands twice, the earlier place is noted. -/
  | fault (kind : PatternFault) (span : Text.Span) (earlier : Option Text.Span)
  /-- It asks for boundaries of words of all characters. -/
  | wordBoundary
  deriving DecidableEq, Repr

namespace PatternError

def boundaryMessage : String :=
  "unsupported regex feature for DFAs: cannot build DFAs for regexes with Unicode word " ++
    "boundaries; switch to ASCII word boundaries, or heuristically enable Unicode word " ++
    "boundaries or use a different regex engine"

/-- The message that shows a fault in its place. -/
def faultMessage (text : List Char) (kind : PatternFault) (spans : List Text.Span) : String :=
  "regex parse error:\n" ++ Text.marked text spans ++ "error: " ++ kind.message

/-- What went wrong with a text, from the outermost circumstance to the cause. -/
def chain (text : List Char) : PatternError → List String
  | fault kind span earlier =>
    ["error building NFA", "error parsing regex", faultMessage text kind (span :: earlier.toList)]
  | wordBoundary => [boundaryMessage]

end PatternError

end SmartScale
