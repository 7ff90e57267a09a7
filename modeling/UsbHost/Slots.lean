/-!
# Named slots

A table from names to values. Putting a value under a name that is taken displaces the old value,
which the caller may still have to dispose of.
-/

set_option autoImplicit false

namespace UsbHost

/-- Values under names; no name stands twice. -/
abbrev Slots (α : Type) := List (String × α)

namespace Slots

variable {α : Type}

/-- The value under a name. -/
def get? (slots : Slots α) (name : String) : Option α :=
  (slots.find? fun slot => slot.1 == name).map Prod.snd

/-- The table without a name. -/
def remove (slots : Slots α) (name : String) : Slots α :=
  slots.filter fun slot => slot.1 ≠ name

/-- The table with a value under a name, in place of any older one. -/
def put (slots : Slots α) (name : String) (value : α) : Slots α :=
  slots.remove name ++ [(name, value)]

/-- The values in the order of their names, which are compared code point by code point. -/
def inOrder (slots : Slots α) : List (String × α) :=
  slots.mergeSort fun a b => a.1 ≤ b.1

end Slots

end UsbHost
