/-!
# Values of a document

What a document says: texts, truth values, integers, arrays and tables. That a value is a float or
a date or time is kept, but not which one, because no setting is of such a type.

A table remembers how it came about, since that decides whether later lines may add to it.
-/

set_option autoImplicit false

namespace UsbHost.Toml

inductive TableKind where
  /-- Written between braces; nothing may be added to it. -/
  | inline
  /-- Given by a header of its own. -/
  | defined
  /-- Mentioned on the way to another header. -/
  | implied
  /-- Mentioned on the way of a dotted key. -/
  | dotted
  deriving DecidableEq, Repr

/-- A value of a document. The keys of a table are distinct. -/
inductive Value where
  | text (value : String)
  | flag (value : Bool)
  | integer (value : Int)
  | float
  | moment
  | array (items : List Value)
  | table (kind : TableKind) (entries : List (String × Value))
  /-- An array whose elements are given by headers of their own. -/
  | tables (elements : List (List (String × Value)))
  deriving Repr

/-- The entries of a table, in the order in which they were written. -/
abbrev Entries := List (String × Value)

namespace Entries

def get? (entries : Entries) (key : String) : Option Value :=
  (entries.find? fun entry => entry.1 == key).map Prod.snd

/-- One more entry, at the end. -/
def add (entries : Entries) (key : String) (value : Value) : Entries :=
  entries ++ [(key, value)]

def replace (entries : Entries) (key : String) (value : Value) : Entries :=
  entries.map fun entry => if entry.1 == key then (key, value) else entry

end Entries

end UsbHost.Toml
