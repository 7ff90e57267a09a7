/-!
# Addresses in hexadecimal

An address is written as `0x` and lower-case digits, without leading zeros; in expanded form it is
filled up with zeros to the sixteen digits of a 64-bit word.
-/

set_option autoImplicit false

namespace UsbHost.Text

/-- The lower-case hexadecimal digits of `n`, without leading zeros. -/
def hexDigits (n : Nat) : String :=
  String.ofList (Nat.toDigits 16 n)

/-- The address `n` as it stands in messages. -/
def hex (n : Nat) : String :=
  "0x" ++ hexDigits n

/-- The address `n` with all sixteen digits. -/
def hexPadded (n : Nat) : String :=
  let digits := Nat.toDigits 16 n
  "0x" ++ String.ofList (List.replicate (16 - digits.length) '0' ++ digits)

end UsbHost.Text
