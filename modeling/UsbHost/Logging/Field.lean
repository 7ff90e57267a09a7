import UsbHost.Logging.Pattern
import UsbHost.Text.Decimal
import UsbHost.Text.Split

/-!
# Fields that a directive asks for

A field is given by its name, and perhaps by its value behind an equals sign. A number stands for
itself; any other value is a pattern. What stands behind a second equals sign does not count.
-/

set_option autoImplicit false

namespace UsbHost.Logging

/-- A field that a line must have, perhaps with a value. -/
structure Field where
  name : String
  value : Option String := none
  deriving DecidableEq, Repr

namespace Field

def valueError? (value : String) : Option PatternError :=
  if Text.isDecimal value then none else Pattern.error? value.toList

def read (text : String) : Except PatternError Field :=
  match Text.split '=' text with
  | name :: value :: _ =>
    match valueError? value with
    | some error => .error error
    | none => .ok { name, value := some value }
  | _ => .ok { name := text }

end Field

end UsbHost.Logging
