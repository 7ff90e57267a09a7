/-!
# Reading a natural number of one machine word

A number is an optional plus sign and at least one ASCII digit, and is below `2 ^ 64`. Leading
zeros do no harm; blanks and other scripts' digits are refused.
-/

set_option autoImplicit false

namespace UsbHost.Text

def decimalValue (digits : List Char) : Nat :=
  digits.foldl (fun n c => 10 * n + (c.toNat - '0'.toNat)) 0

def withoutPlus : List Char → List Char
  | '+' :: digits => digits
  | digits => digits

/-- Reads the whole text as a number below `2 ^ 64`. -/
def word? (text : String) : Option Nat :=
  let digits := withoutPlus text.toList
  if !digits.isEmpty && digits.all Char.isDigit && decimalValue digits < UInt64.size then
    some (decimalValue digits)
  else
    none

end UsbHost.Text
