import UsbHost.Text.Alphabetic
import UsbHost.Text.Numeric

/-!
# Letters and digits of every script
-/

set_option autoImplicit false

namespace UsbHost.Text

/-- A letter or a number in any script. -/
def isAlphanumeric (c : Char) : Bool :=
  isAlphabetic c || isNumeric c

end UsbHost.Text
