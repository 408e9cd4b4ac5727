import SmartScale.Text.Lines
import SmartScale.Text.Place

/-!
# Marked text

A text shown line by line, with marks under the parts that a message speaks of.  A text of one line
is set in by blanks; of several lines each has its number.  A part that reaches over several lines
gets no marks but a note with its places.
-/

namespace SmartScale

namespace Text

/-- The number of lines to stand on: a line feed at the end of a text begins another one. -/
def lineCount (text : List Char) : Nat :=
  (lines text).length + if text.getLast? = some '\n' then 1 else 0

/-- The width of line numbers; a text of one line has none. -/
def numberWidth (text : List Char) : Nat :=
  if lineCount text ≤ 1 then 0 else (toString (lineCount text)).length

def blanks (count : Nat) : String := String.ofList (List.replicate count ' ')

/-- What stands before the line with a number. -/
def lineHead (width number : Nat) : String :=
  if width = 0 then blanks 4
  else blanks (width - (toString number).length) ++ toString number ++ ": "

/-- What stands before the marks. -/
def marksHead (width : Nat) : String := if width = 0 then blanks 4 else blanks (width + 2)

/-- Marks for parts of a line, in order, where `column` columns are written already. -/
def marksFrom (column : Nat) : List Span → String
  | [] => ""
  | s :: rest =>
    let before := s.start.column - 1 - column
    let count := max 1 (s.stop.column - s.start.column)
    blanks before ++ String.ofList (List.replicate count '^') ++
      marksFrom (column + before + count) rest

/-- A line with its marks. -/
def markedLine (width number : Nat) (line : List Char) (spans : List Span) : String :=
  let marks := match spans.filter fun s => s.start.line == number with
    | [] => ""
    | onLine => marksHead width ++ marksFrom 0 onLine ++ "\n"
  lineHead width number ++ String.ofList line ++ "\n" ++ marks

/-- The lines from a number on with their marks. -/
def markedLines (width number : Nat) (spans : List Span) : List (List Char) → String
  | [] => ""
  | line :: rest =>
    markedLine width number line spans ++ markedLines width (number + 1) spans rest

/-- A text of several lines stands between two of these. -/
def divider : String := String.ofList (List.replicate 79 '~') ++ "\n"

/-- Where a part is that reaches over several lines. -/
def spanNote (s : Span) : String :=
  "on line " ++ toString s.start.line ++ " (column " ++ toString s.start.column ++
    ") through line " ++ toString s.stop.line ++ " (column " ++ toString (s.stop.column - 1) ++ ")"

/-- The spans in the order of their places. -/
def inOrder (spans : List Span) : List Span :=
  spans.mergeSort fun s t => s.start.notBehind t.start

/-- The text with marks under parts of it. -/
def marked (text : List Char) (spans : List Span) : String :=
  let ordered := inOrder spans
  let body := markedLines (numberWidth text) 1 (ordered.filter Span.isOneLine) (lines text)
  if text.contains '\n' then
    let notes := match ordered.filter fun s => !s.isOneLine with
      | [] => ""
      | wide => String.intercalate "\n" (wide.map spanNote) ++ "\n"
    divider ++ body ++ divider ++ notes
  else body

end Text

end SmartScale
