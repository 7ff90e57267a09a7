import UsbHost.Text.Hex

/-!
# Values with their fields named

A value that is shown for inspection is a record of named fields, a list, an address or a number.
The compact form is one line. The expanded form puts every field and every element on a line of
its own, indented by four blanks and followed by a comma, and writes addresses with all digits;
an empty list stays `[]`.
-/

set_option autoImplicit false

namespace UsbHost

inductive Inspect where
  | address (address : Nat)
  | number (number : Nat)
  | list (elements : List Inspect)
  | record (name : String) (fields : List (String × Inspect))

namespace Inspect

mutual

def compact : Inspect → String
  | address a => Text.hex a
  | number n => toString n
  | list elements => "[" ++ String.intercalate ", " (compactAll elements) ++ "]"
  | record name fields =>
    name ++ " \x7b " ++ String.intercalate ", " (compactFields fields) ++ " \x7d"

/-- The elements of a list, each on one line. -/
def compactAll : List Inspect → List String
  | [] => []
  | element :: rest => compact element :: compactAll rest

/-- The fields of a record, each on one line. -/
def compactFields : List (String × Inspect) → List String
  | [] => []
  | (name, value) :: rest => (name ++ ": " ++ compact value) :: compactFields rest

end

/-- A line break followed by the blanks of a nesting depth. -/
def lineBreak (depth : Nat) : String :=
  "\n" ++ String.ofList (List.replicate (4 * depth) ' ')

mutual

/-- The value over several lines, inside `depth` others. -/
def expandedAt (depth : Nat) : Inspect → String
  | address a => Text.hexPadded a
  | number n => toString n
  | list [] => "[]"
  | list (element :: rest) =>
    "[" ++ expandedAll (depth + 1) (element :: rest) ++ lineBreak depth ++ "]"
  | record name fields =>
    name ++ " \x7b" ++ expandedFields (depth + 1) fields ++ lineBreak depth ++ "\x7d"

/-- The elements of a list, each on lines of its own. -/
def expandedAll (depth : Nat) : List Inspect → String
  | [] => ""
  | element :: rest =>
    lineBreak depth ++ expandedAt depth element ++ "," ++ expandedAll depth rest

/-- The fields of a record, each on lines of its own. -/
def expandedFields (depth : Nat) : List (String × Inspect) → String
  | [] => ""
  | (name, value) :: rest =>
    lineBreak depth ++ name ++ ": " ++ expandedAt depth value ++ "," ++ expandedFields depth rest

end

def expanded (value : Inspect) : String :=
  value.expandedAt 0

/-- The value in expanded or in compact form. -/
def render (value : Inspect) (pretty : Bool) : String :=
  if pretty then value.expanded else value.compact

end Inspect

end UsbHost
