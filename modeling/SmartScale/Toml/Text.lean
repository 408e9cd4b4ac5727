import SmartScale.Number.Whole
import SmartScale.Toml.Reader
import SmartScale.Toml.Value

/-!
# Texts and names

Texts in double quotes may hold escapes, texts in single quotes stand as they are, and either may be
written in three quotes over several lines.  A name is bare or a quoted text, and a dotted name is a
sequence of names.
-/

namespace SmartScale

namespace Toml

/-! ## Escapes -/

/-- The character that exactly so many hexadecimal digits name, at the front of a text. -/
def codePoint? (digits : Nat) : Reader Char := fun text =>
  match Whole.parse 16 UInt32.size (text.take digits) with
  | .error _ => none
  | .ok n =>
    if (text.take digits).length = digits ∧ (text.take digits).head? ≠ some '+' ∧ n.isValidChar then
      some (Char.ofNat n, text.drop digits)
    else none

/-- The character that an escape stands for, read after its backslash. -/
def escape? : Reader Char
  | 'b' :: rest => some ('\x08', rest)
  | 't' :: rest => some ('\t', rest)
  | 'n' :: rest => some ('\n', rest)
  | 'f' :: rest => some ('\x0c', rest)
  | 'r' :: rest => some ('\r', rest)
  | '"' :: rest => some ('"', rest)
  | '\\' :: rest => some ('\\', rest)
  | 'u' :: rest => codePoint? 4 rest
  | 'U' :: rest => codePoint? 8 rest
  | _ => none

/-! ## Texts on one line -/

/-- The rest of a text in double quotes; each round takes at least one character. -/
def basicRest? : Nat → Reader (List Char)
  | 0, _ => none
  | _ + 1, [] => none
  | fuel + 1, c :: rest =>
    if c = '"' then some ([], rest)
    else if c = '\\' then do
      let (escaped, rest) ← escape? rest
      let (more, rest) ← basicRest? fuel rest
      pure (escaped :: more, rest)
    else if isLineChar c then do
      let (more, rest) ← basicRest? fuel rest
      pure (c :: more, rest)
    else none

/-- The rest of a text in single quotes. -/
def literalRest? : Reader (List Char)
  | [] => none
  | c :: rest =>
    if c = '\'' then some ([], rest)
    else if isLineChar c then do
      let (more, rest) ← literalRest? rest
      pure (c :: more, rest)
    else none

/-! ## Texts over several lines -/

/-- The text after blanks and line ends. -/
def skipBlankLines : List Char → List Char
  | [] => []
  | c :: rest =>
    if isSpace c || c == '\n' then skipBlankLines rest
    else if c = '\r' then
      match rest with
      | '\n' :: more => skipBlankLines more
      | _ => c :: rest
    else c :: rest

/-- What a run of quotes inside three quotes means: fewer than three stand for themselves; three end
the text, and up to two before them stand for themselves. -/
def closing? (quotes : Nat) : Option (Nat × Bool) :=
  if quotes < 3 then some (quotes, false)
  else if quotes ≤ 5 then some (quotes - 3, true)
  else none

/-- The rest of a text in three quotes, `mark` being the quote; each round takes at least one
character.  Only double quotes admit escapes. -/
def multilineRest? (mark : Char) : Nat → Reader (List Char)
  | 0, _ => none
  | _ + 1, [] => none
  | fuel + 1, text@(c :: rest) =>
    if c = mark then do
      let run := text.takeWhile (· == mark)
      let after := text.drop run.length
      let (kept, done) ← closing? run.length
      if done then pure (List.replicate kept mark, after)
      else
        let (more, after) ← multilineRest? mark fuel after
        pure (List.replicate kept mark ++ more, after)
    else if c = '\\' ∧ mark = '"' then
      match newline? (skipSpace rest) with
      | some after => multilineRest? mark fuel (skipBlankLines after)
      | none => do
        let (escaped, after) ← escape? rest
        let (more, after) ← multilineRest? mark fuel after
        pure (escaped :: more, after)
    else
      match newline? text with
      | some after => do
        let (more, after) ← multilineRest? mark fuel after
        pure ('\n' :: more, after)
      | none =>
        if isLineChar c then do
          let (more, after) ← multilineRest? mark fuel rest
          pure (c :: more, after)
        else none

/-- A text in three quotes, read after them; a line end right behind the quotes is dropped. -/
def multiline? (mark : Char) : Reader (List Char) := fun text =>
  let body := (newline? text).getD text
  multilineRest? mark (body.length + 1) body

/-- A text on one line. -/
def lineText? : Reader (List Char)
  | '"' :: rest => basicRest? (rest.length + 1) rest
  | '\'' :: rest => literalRest? rest
  | _ => none

/-- A text in any kind of quotes. -/
def text? : Reader (List Char)
  | '"' :: '"' :: '"' :: rest => multiline? '"' rest
  | '\'' :: '\'' :: '\'' :: rest => multiline? '\'' rest
  | text => lineText? text

/-! ## Names -/

/-- The character may stand in a bare name. -/
def isBareChar (c : Char) : Bool := c.isAlphanum || c == '-' || c == '_'

def nameText? : Reader String := fun text =>
  match text with
  | '"' :: _ | '\'' :: _ => (lineText? text).map fun (name, rest) => (String.ofList name, rest)
  | _ =>
    let bare := text.takeWhile isBareChar
    if bare.isEmpty then none else some (String.ofList bare, text.drop bare.length)

def name? : Reader Name := fun text =>
  (nameText? text).map fun (name, rest) => (⟨name, ⟨text, rest⟩⟩, rest)

/-- Names with dots between them, blanks allowed around each. -/
def names? : Nat → Reader (List Name)
  | 0, _ => none
  | fuel + 1, text => do
    let (first, rest) ← name? (skipSpace text)
    match skipSpace rest with
    | '.' :: after => do
      let (more, rest) ← names? fuel after
      pure (first :: more, rest)
    | rest => pure ([first], rest)

/-- How deep names, arrays and tables may nest. -/
def maxDepth : Nat := 80

/-- A dotted name: the names that lead to it and its last name. -/
def dottedName? : Reader (List Name × Name) := fun text => do
  let (path, rest) ← names? (text.length + 1) text
  let last ← path.getLast?
  if path.length < maxDepth then pure ((path.dropLast, last), rest) else none

end Toml

end SmartScale
