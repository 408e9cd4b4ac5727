/-!
# Lines

Cutting a text, of characters or of bytes, into its lines.
-/

namespace SmartScale

namespace Text

/-- The lines of a text, without their line feeds and without a carriage return before a line feed.
A text that ends with a line feed has no further line after it. -/
def linesBy {α : Type} [DecidableEq α] (feed carriage : α) (text : List α) : List (List α) :=
  match text with
  | [] => []
  | c :: rest =>
    if c = feed then [] :: linesBy feed carriage rest
    else if c = carriage ∧ rest.head? = some feed then linesBy feed carriage rest
    else
      match linesBy feed carriage rest with
      | line :: more => (c :: line) :: more
      | [] => [[c]]

/-- The lines of a text of characters. -/
def lines (text : List Char) : List (List Char) := linesBy '\n' '\r' text

end Text

end SmartScale
