import SmartScale.Text.Marked
import SmartScale.Toml.Value

/-!
# Excerpts

Where in a configuration text something is: the line and the column of its beginning, and the line
itself with marks under the part.  Columns count characters; there are as many marks as the part has
bytes, as far as the line goes, and at least one.
-/

namespace SmartScale

namespace Toml

def byteCount (text : List Char) : Nat := text.foldl (fun n c => n + c.utf8Size) 0

/-- The line in which one text is followed by another. -/
def lineAt (before after : List Char) : List Char :=
  (before.reverse.takeWhile (· != '\n')).reverse ++ after.takeWhile (· != '\n')

/-- The line of a part of a text, and where the part is. -/
def excerpt (text : List Char) (extent : Extent) : String :=
  let before := text.take (text.length - extent.start.length)
  let place := before.foldl Text.Place.after Text.Place.start
  let line := lineAt before extent.start
  let number := toString place.line
  let margin := Text.blanks number.length ++ " |"
  let column := place.column - 1
  let room := byteCount line - column
  let marks := max 1 (min (byteCount extent.start - byteCount extent.stop) room)
  "TOML parse error at line " ++ number ++ ", column " ++ toString place.column ++ "\n" ++
    margin ++ "\n" ++
    number ++ " | " ++ String.ofList line ++ "\n" ++
    margin ++ " " ++ Text.blanks column ++ String.ofList (List.replicate marks '^') ++ "\n"

end Toml

end SmartScale
