import SmartScale.Toml.Value

/-!
# Building tables

A configuration text defines its tables piece by piece, and a name may be defined only once.  This
file has the tree under construction and the rules for adding to it:

* a value goes under a name that is free, by way of tables that dotted names have made;
* a header `[a.b]` opens a new table or one that so far exists only as the way to another;
* a header `[[a.b]]` adds a table to an array of tables;
* a way through an array of tables leads into its last table.
-/

namespace SmartScale

namespace Toml

/-- How a table under construction came to be. -/
inductive Making
  /-- Opened by a header, or the text as a whole. -/
  | opened
  /-- Made on the way to another table. -/
  | passed
  /-- Made by a dotted name. -/
  | dotted
  deriving DecidableEq, Repr

/-- A node under construction. -/
inductive Node
  /-- A value, which nothing can be added to. -/
  | value (item : Item)
  | table (making : Making) (extent : Option Extent) (fields : List (Name × Node))
  /-- An array of tables, the last one first. -/
  | tables (last : Node) (before : List Node)

/-- A table under construction. -/
structure Draft where
  making : Making
  /-- Where it stands, if it was opened. -/
  extent : Option Extent
  /-- What it holds so far. -/
  fields : List (Name × Node)

def Draft.node (draft : Draft) : Node := .table draft.making draft.extent draft.fields

/-- The table that a way leads into at the node: the node itself, or the last of its tables. -/
def Node.draft? : Node → Option Draft
  | .value _ => none
  | .table making extent fields => some ⟨making, extent, fields⟩
  | .tables (.table making extent fields) _ => some ⟨making, extent, fields⟩
  | .tables _ _ => none

/-- The node is a table that a header has opened. -/
def Node.isOpened : Node → Bool
  | .table making _ _ => making == .opened
  | _ => false

/-- The node with another table where a way leads into it. -/
def Node.withDraft (draft : Draft) : Node → Node
  | .tables _ before => .tables draft.node before
  | _ => draft.node

namespace Draft

def new (making : Making) (extent : Option Extent) : Draft := ⟨making, extent, []⟩

def find? (draft : Draft) (name : Name) : Option Node :=
  (draft.fields.find? fun field => field.1.text == name.text).map Prod.snd

def append (draft : Draft) (name : Name) (node : Node) : Draft :=
  { draft with fields := draft.fields ++ [(name, node)] }

/-- Puts a node under a name, at the place of the name or else at the end. -/
def put (draft : Draft) (name : Name) (node : Node) : Draft :=
  if (draft.find? name).isSome then
    { draft with fields := draft.fields.map fun field =>
        if field.1.text == name.text then (field.1, node) else field }
  else draft.append name node

def erase (draft : Draft) (name : Name) : Draft :=
  { draft with fields := draft.fields.filter fun field => field.1.text != name.text }

/-- The table with its part of the text extended up to the end of another part. -/
def extend (draft : Draft) (last : Option Extent) : Draft :=
  match draft.extent, last with
  | some first, some last => { draft with extent := some (first.upTo last) }
  | _, _ => draft

/-- Follows names down and changes the table at the end of the way.  A missing table on the way is
made as `making` says; a dotted name may not pass through a table that a header has opened. -/
def modify (making : Making) (change : Draft → Option Draft) : List Name → Draft → Option Draft
  | [], draft => change draft
  | name :: rest, draft =>
    match draft.find? name with
    | none => do
      let inner ← modify making change rest (.new making none)
      pure (draft.append name inner.node)
    | some node => do
      let inner ← node.draft?
      if making = .dotted ∧ node.isOpened then none
      else
        let inner ← modify making change rest inner
        pure (draft.put name (node.withDraft inner))

/-- Adds a value under a name of the table that dotted names lead to.

The table has to be the starting one when there are no names, and otherwise one that dotted names
have made. -/
def define (path : List Name) (name : Name) (item : Item) (draft : Draft) : Option Draft :=
  draft.modify .dotted
    (fun inner =>
      if !path.isEmpty && inner.making != .dotted then none
      else if (inner.find? name).isSome then none
      else some (inner.append name (.value item)))
    path

/-- Adds a value to the table that a header has opened, which then extends to it. -/
def assign (path : List Name) (name : Name) (item : Item) (draft : Draft) : Option Draft :=
  (draft.define path name item).map (·.extend item.extent)

/-- Opens the table of a header. -/
def openTable (name : Name) (header : Extent) (draft : Draft) : Option Draft :=
  match draft.find? name with
  | none => some (draft.append name (Draft.new .opened (some header)).node)
  | some (.table .passed _ inner) =>
    some ((draft.erase name).append name (.table .opened (some header) inner))
  | some _ => none

/-- Adds a table to an array of tables. -/
def addTable (name : Name) (header : Extent) (draft : Draft) : Option Draft :=
  let added := (Draft.new .opened (some header)).node
  match draft.find? name with
  | none => some (draft.append name (.tables added []))
  | some (.tables last before) => some (draft.put name (.tables added (last :: before)))
  | some _ => none

/-- Does something in the table that the names of a header lead to. -/
def inside (path : List Name) (change : Draft → Option Draft) (draft : Draft) : Option Draft :=
  draft.modify .passed change path

end Draft

/-! ## Finished tables -/

/-- Where an array of tables stands: from its first table to its last one. -/
def Extent.ofTables (tables : List Item) : Option Extent :=
  match tables.head?.bind Placed.extent, tables.getLast?.bind Placed.extent with
  | some first, some last => some (first.upTo last)
  | _, _ => none

mutual

def Node.toItem (origin : Origin) : Node → Item
  | .value item => item
  | .table _ extent fields => ⟨.table origin (Node.toFields origin fields), extent⟩
  | .tables last before =>
    let tables := Node.toItems origin before ++ [Node.toItem origin last]
    ⟨.array .headed tables, Extent.ofTables tables⟩

def Node.toFields (origin : Origin) : List (Name × Node) → Fields
  | [] => []
  | (name, node) :: rest => (name, Node.toItem origin node) :: Node.toFields origin rest

/-- The values of nodes that stand in reverse order. -/
def Node.toItems (origin : Origin) : List Node → List Item
  | [] => []
  | node :: rest => Node.toItems origin rest ++ [Node.toItem origin node]

end

end Toml

end SmartScale
