/-!
# Comparison without regard to case

Only the letters of ASCII have a case here; all other characters must agree.
-/

set_option autoImplicit false

namespace UsbHost.Text

/-- A text with the letters of ASCII in lower case. -/
def lowerCase (text : String) : List Char :=
  text.toList.map Char.toLower

/-- Whether two texts agree but for the case of ASCII letters. -/
def equalIgnoringCase (a b : String) : Bool :=
  lowerCase a == lowerCase b

end UsbHost.Text
