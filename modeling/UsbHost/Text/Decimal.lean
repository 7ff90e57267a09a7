import UsbHost.Text.CaseBlind

/-!
# Recognizing decimal numbers

A number has an optional sign. It is infinite or no number, in any mixture of cases, or it has
digits with at most one point before, between or behind them, and perhaps an exponent.
-/

set_option autoImplicit false

namespace UsbHost.Text

def withoutSign : List Char → List Char
  | '+' :: rest => rest
  | '-' :: rest => rest
  | cs => cs

/-- Whether characters are one digit or more. -/
def areDigits (cs : List Char) : Bool :=
  !cs.isEmpty && cs.all Char.isDigit

/-- Whether characters are an exponent or nothing. -/
def isExponent : List Char → Bool
  | [] => true
  | c :: rest => (c == 'e' || c == 'E') && areDigits (withoutSign rest)

/-- Whether characters are a finite number without a sign. -/
def isUnsignedDecimal (cs : List Char) : Bool :=
  let whole := cs.takeWhile Char.isDigit
  match cs.dropWhile Char.isDigit with
  | '.' :: rest =>
    let fraction := rest.takeWhile Char.isDigit
    !(whole ++ fraction).isEmpty && isExponent (rest.dropWhile Char.isDigit)
  | rest => !whole.isEmpty && isExponent rest

/-- Whether a text is a decimal number. -/
def isDecimal (text : String) : Bool :=
  let cs := withoutSign text.toList
  isUnsignedDecimal cs ||
    ["inf", "infinity", "nan"].any fun name => equalIgnoringCase name (String.ofList cs)

end UsbHost.Text
