import SmartScale.Toml.Number
import SmartScale.Toml.Text
import SmartScale.Toml.Tree

/-!
# Configuration texts

The grammar of values and statements.  `Toml.document?` reads a whole text into its named values; it
fails on everything that does not follow the grammar or breaks a rule of definition.  Arrays and
tables in place nest less than `Toml.maxDepth` deep, which is what the reading of values counts
down.
-/

namespace SmartScale

namespace Toml

/-! ## Values -/

/-- The items of an array after its bracket; each round takes at least one character. -/
def items? (item : Reader Item) : Nat → Reader (List Item)
  | 0, _ => none
  | fuel + 1, text =>
    match skipLines (text.length + 1) text with
    | ']' :: rest => some ([], rest)
    | text => do
      let (first, rest) ← item text
      match skipLines (rest.length + 1) rest with
      | ',' :: rest => do
        let (more, rest) ← items? item fuel rest
        pure (first :: more, rest)
      | ']' :: rest => pure ([first], rest)
      | _ => none

/-- A name, an equals sign and a value. -/
def assignment? (item : Reader Item) : Reader ((List Name × Name) × Item) := fun text => do
  let (name, rest) ← dottedName? text
  let rest ← expect? "=" rest
  let (value, rest) ← item (skipSpace rest)
  pure ((name, value), rest)

/-- The fields of a table in place after its bracket, added to those read before. -/
def inlineFields? (item : Reader Item) : Nat → Draft → Reader Draft
  | 0, _, _ => none
  | fuel + 1, draft, text => do
    let (((path, name), value), rest) ← assignment? item text
    let draft ← draft.define path name value
    match skipSpace rest with
    | ',' :: rest => inlineFields? item fuel draft rest
    | '\x7d' :: rest => pure (draft, rest)
    | _ => none

/-- A table in place after its bracket. -/
def inlineTable? (item : Reader Item) : Reader Value := fun text =>
  match skipSpace text with
  | '\x7d' :: rest => some (.table .inline [], rest)
  | text =>
    (inlineFields? item (text.length + 1) (.new .dotted none) text).map fun (draft, rest) =>
      (.table .inline (Node.toFields .inline draft.fields), rest)

/-- What is read, and where it stands. -/
def placed? (read : Reader Value) : Reader Item := fun text =>
  (read text).map fun (value, rest) => (⟨value, some ⟨text, rest⟩⟩, rest)

/-- A value in which so many arrays and tables may nest. -/
def value? (depth : Nat) : Reader Item :=
  placed? fun text =>
    match text with
    | '"' :: _ | '\'' :: _ =>
      (text? text).map fun (content, rest) => (.text (String.ofList content), rest)
    | '[' :: rest =>
      match depth with
      | 0 => none
      | depth + 1 =>
        (items? (value? depth) (rest.length + 1) rest).map fun (items, rest) =>
          (.array .inline items, rest)
    | '\x7b' :: rest =>
      match depth with
      | 0 => none
      | depth + 1 => inlineTable? (value? depth) rest
    | 't' :: _ => (expect? "true" text).map fun rest => (.boolean true, rest)
    | 'f' :: _ => (expect? "false" text).map fun rest => (.boolean false, rest)
    | _ => (moment? text).or (number? text)

/-! ## Statements -/

/-- What has been read so far: the tables, and the names of the open one. -/
structure Progress where
  root : Draft
  /-- The names that lead to the open table. -/
  current : List Name

/-- A header of a table or of an array of tables, from its first bracket on. -/
def header? (p : Progress) (text : List Char) : Option (Progress × List Char) :=
  match text with
  | '[' :: '[' :: rest => do
    let ((path, name), rest) ← dottedName? rest
    let rest ← expect? "]]" rest
    let root ← p.root.inside path (Draft.addTable name ⟨text, rest⟩)
    pure (⟨root, path ++ [name]⟩, rest)
  | '[' :: rest => do
    let ((path, name), rest) ← dottedName? rest
    let rest ← expect? "]" rest
    let root ← p.root.inside path (Draft.openTable name ⟨text, rest⟩)
    pure (⟨root, path ++ [name]⟩, rest)
  | _ => none

/-- A statement: a header, or an assignment in the open table. -/
def statement? (p : Progress) (text : List Char) : Option (Progress × List Char) :=
  match text with
  | '[' :: _ => header? p text
  | _ => do
    let (((path, name), item), rest) ← assignment? (value? (maxDepth - 1)) text
    let root ← p.root.inside p.current (Draft.assign path name item)
    pure ({ p with root }, rest)

/-- Statements up to the end of the text; each round takes at least one character. -/
def statements? : Nat → Progress → List Char → Option Draft
  | 0, _, _ => none
  | fuel + 1, p, text =>
    match skipSpace text with
    | [] => some p.root
    | text =>
      match lineEnd? (skipComment text) with
      | some rest => statements? fuel p rest
      | none => do
        let (p, rest) ← statement? p text
        let rest ← endStatement? rest
        statements? fuel p rest

/-- The text behind a mark for the byte order. -/
def skipByteOrderMark : List Char → List Char
  | c :: rest => if c.toNat = 0xFEFF then rest else c :: rest
  | [] => []

/-- The table that a whole text denotes. -/
def document? (text : String) : Option Item :=
  let whole := text.toList
  let body := skipByteOrderMark whole
  let start : Progress := ⟨.new .opened (some ⟨whole, whole⟩), []⟩
  (statements? (body.length + 1) start body).map fun root => root.node.toItem .headed

end Toml

end SmartScale
