import UsbHost.Toml.Value

/-!
# From statements to a document

A document is written as statements: headers, which say to which table the lines below belong, and
entries, whose keys may be paths. Reading them in order builds one table. A statement that defines
something a second time, or that adds to something that is complete, makes the document invalid.
-/

set_option autoImplicit false

namespace UsbHost.Toml

inductive Statement where
  /-- The lines below belong to the table at `parents` and `key`. -/
  | header (parents : List String) (key : String)
  /-- The lines below belong to a new element of the array at `parents` and `key`. -/
  | element (parents : List String) (key : String)
  /-- The value of a key, which lies at `parents` below the current table. -/
  | entry (parents : List String) (key : String) (value : Value)
  deriving Repr

/-- Changes the table at a path, starting from the entries of a table of kind `kind`. Tables that
are missing on the way are made with the kind `made`. The way leads into the last element of an
array of tables, but not into a table between braces, nor, on the way of a dotted key, into a
table with a header of its own. -/
def changeAt (made : TableKind) (change : TableKind → Entries → Option Entries) :
    List String → TableKind → Entries → Option Entries
  | [], kind, entries => change kind entries
  | key :: path, _, entries =>
    match entries.get? key with
    | none => do
      let inner ← changeAt made change path made []
      return entries.add key (.table made inner)
    | some (.table kind inner) =>
      if kind = .inline ∨ (made = .dotted ∧ kind = .defined) then none
      else do
        let inner ← changeAt made change path kind inner
        return entries.replace key (.table kind inner)
    | some (.tables elements) =>
      match elements.getLast? with
      | none => none
      | some last => do
        let inner ← changeAt made change path .defined last
        return entries.replace key (.tables (elements.dropLast ++ [inner]))
    | some _ => none

/-- Adds an entry to a table. The key must be new, and a table that a dotted key leads to must
have come about by dotted keys. -/
def addEntry (parents : List String) (key : String) (value : Value) (kind : TableKind)
    (entries : Entries) : Option Entries :=
  if parents ≠ [] ∧ kind ≠ .dotted then none
  else if (entries.get? key).isSome then none
  else some (entries.add key value)

def addBelow (parents : List String) (key : String) (value : Value) (kind : TableKind)
    (entries : Entries) : Option Entries :=
  changeAt .dotted (addEntry parents key value) parents kind entries

/-- Gives a table a header of its own. A table that was only implied keeps its entries. -/
def defineTable (key : String) (entries : Entries) : Option Entries :=
  match entries.get? key with
  | none => some (entries.add key (.table .defined []))
  | some (.table .implied inner) => some (entries.replace key (.table .defined inner))
  | some _ => none

/-- Adds an element without entries to an array of tables. -/
def defineElement (key : String) (entries : Entries) : Option Entries :=
  match entries.get? key with
  | none => some (entries.add key (.tables [[]]))
  | some (.tables elements) => some (entries.replace key (.tables (elements ++ [[]])))
  | some _ => none

/-- A document that is being read: the table that entries go to, and everything so far. -/
structure Draft where
  current : List String := []
  root : Entries := []

def Draft.add (draft : Draft) : Statement → Option Draft
  | .header parents key => do
    let root ← changeAt .implied (fun _ => defineTable key) parents .defined draft.root
    return { current := parents ++ [key], root }
  | .element parents key => do
    let root ← changeAt .implied (fun _ => defineElement key) parents .defined draft.root
    return { current := parents ++ [key], root }
  | .entry parents key value => do
    let root ← changeAt .implied (addBelow parents key value) draft.current .defined draft.root
    return { draft with root }

def document? (statements : List Statement) : Option Entries :=
  (statements.foldlM Draft.add {}).map Draft.root

/-- The table that a list of entries between braces builds. -/
def inlineTable? (entries : List (List String × String × Value)) : Option Entries :=
  entries.foldlM (fun table entry => addBelow entry.1 entry.2.1 entry.2.2 .inline table) []

end UsbHost.Toml
