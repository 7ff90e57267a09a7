import UsbHost.Text.Hex
import UsbHost.Text.Unprintable

/-!
# Quoted text for people who look for invisible characters

A quoted text stands between double quotes. Quote and backslash are escaped by a backslash; line
feed, carriage return, tab and NUL have escapes of their own; every other character without a
visible form is shown by its code point. The single quote stays as it is.
-/

set_option autoImplicit false

namespace UsbHost.Text

/-- A character shown by its code point, in lower-case digits without leading zeros. -/
def codePointEscape (c : Char) : String :=
  "\\u\x7b" ++ hexDigits c.toNat ++ "\x7d"

def quotedChar (c : Char) : String :=
  if c = '"' then "\\\""
  else if c = '\\' then "\\\\"
  else if c = '\n' then "\\n"
  else if c = '\r' then "\\r"
  else if c = '\t' then "\\t"
  else if c.toNat = 0 then "\\0"
  else if c.toNat < 0x20 || c.toNat == 0x7F || isUnprintable c then codePointEscape c
  else c.toString

/-- The text between double quotes, with what cannot be seen made visible. -/
def quoted (text : String) : String :=
  "\"" ++ String.join (text.toList.map quotedChar) ++ "\""

end UsbHost.Text
