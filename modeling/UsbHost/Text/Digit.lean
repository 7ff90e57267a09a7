/-!
# Digits and the numbers they write
-/

set_option autoImplicit false

namespace UsbHost.Text

/-- The value of a hexadecimal digit, in either case. -/
def hexDigit? (c : Char) : Option Nat :=
  if '0' ≤ c ∧ c ≤ '9' then some (c.toNat - '0'.toNat)
  else if 'a' ≤ c ∧ c ≤ 'f' then some (c.toNat - 'a'.toNat + 10)
  else if 'A' ≤ c ∧ c ≤ 'F' then some (c.toNat - 'A'.toNat + 10)
  else none

def decimalDigit? (c : Char) : Option Nat :=
  if c.isDigit then some (c.toNat - '0'.toNat) else none

/-- The number that digits write in a base; `none` if one of them is no digit. -/
def numeral? (base : Nat) (digit? : Char → Option Nat) (cs : List Char) : Option Nat :=
  cs.foldlM (fun n c => (digit? c).map (base * n + ·)) 0

/-- The character whose code point hexadecimal digits write; surrogates and numbers beyond the last
code point have none. -/
def charOfHex? (digits : List Char) : Option Char :=
  match numeral? 16 hexDigit? digits with
  | some n => if n.isValidChar then some (Char.ofNat n) else none
  | none => none

end UsbHost.Text
