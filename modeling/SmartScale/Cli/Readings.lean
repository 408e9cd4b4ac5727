import SmartScale.Number.Literal
import SmartScale.Text.Blank
import SmartScale.Text.Lines
import SmartScale.Text.Quoted
import SmartScale.Text.Utf8
import SmartScale.Fault

/-!
# Recorded readings

Readings as text, one in a line.  What follows a `#` is a comment, white space around a reading is
ignored, and a line with nothing left is skipped.  The first line at fault is the one reported.
-/

namespace SmartScale

inductive ReadingsError
  | notText
  /-- The line with this number, counted from one, holds something that is no reading. -/
  | badReading (line : Nat) (text : String) (error : LiteralError)
  deriving DecidableEq, Repr

def notTextMessage : String := "stream did not contain valid UTF-8"

def ReadingsError.toReport : ReadingsError → Report
  | notText => (Report.ofText notTextMessage).within "reading input"
  | badReading line text e =>
    (Report.ofText e.message).within
      ("line " ++ toString line ++ ": invalid reading " ++ Text.quote text)

namespace Readings

/-- What a line says, without its comment and the white space around it. -/
def content (line : List Char) : List Char := Text.trim (line.takeWhile (· != '#'))

/-- The readings of lines, the first of them having number `number`. -/
def ofLines (number : Nat) : List (List UInt8) → Except ReadingsError (List Reading)
  | [] => .ok []
  | line :: rest =>
    match Utf8.decode line with
    | .error _ => .error .notText
    | .ok text =>
      if (content text).isEmpty then ofLines (number + 1) rest
      else
        match DecimalLiteral.parse (content text) with
        | .error e => .error (.badReading number (String.ofList (content text)) e)
        | .ok literal => (ofLines (number + 1) rest).map (Reading.ofLiteral literal :: ·)

def lineFeed : UInt8 := 10

def carriageReturn : UInt8 := 13

def parse (bytes : List UInt8) : Except ReadingsError (List Reading) :=
  ofLines 1 (Text.linesBy lineFeed carriageReturn bytes)

end Readings

end SmartScale
