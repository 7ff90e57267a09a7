import UsbHost.Text.Digit
import UsbHost.Toml.Lexical

/-!
# Dates and times

A date is year, month and day with four, two and two digits; a time is hour, minute and second
with two digits each, perhaps with a fraction. A date may be followed by a time, and that by an
offset. Days follow the calendar, and a minute may have a second 60.
-/

set_option autoImplicit false

namespace UsbHost.Toml

def twoDigits? (least most : Nat) : List Char → Option (Nat × List Char)
  | a :: b :: rest => do
    let n ← Text.numeral? 10 Text.decimalDigit? [a, b]
    if least ≤ n ∧ n ≤ most then return (n, rest) else none
  | _ => none

def fourDigits? : List Char → Option (Nat × List Char)
  | a :: b :: c :: d :: rest => (Text.numeral? 10 Text.decimalDigit? [a, b, c, d]).map (·, rest)
  | _ => none

/-- Whether a year has a 29th of February. -/
def isLeapYear (year : Nat) : Bool :=
  year % 4 == 0 && (year % 100 != 0 || year % 400 == 0)

def daysOfMonth (year month : Nat) : Nat :=
  if month = 2 then if isLeapYear year then 29 else 28
  else if month = 4 ∨ month = 6 ∨ month = 9 ∨ month = 11 then 30
  else 31

def date? (cs : List Char) : Option (List Char) := do
  let (year, cs) ← fourDigits? cs
  let cs ← expect '-' cs
  let (month, cs) ← twoDigits? 1 12 cs
  let cs ← expect '-' cs
  let (_, rest) ← twoDigits? 1 (daysOfMonth year month) cs
  return rest

/-- What is left behind the fraction of a second, if there is one. -/
def skipSecondFraction : List Char → List Char
  | '.' :: rest =>
    if rest.head?.any Char.isDigit then rest.dropWhile Char.isDigit else '.' :: rest
  | cs => cs

def time? (cs : List Char) : Option (List Char) := do
  let (_, cs) ← twoDigits? 0 23 cs
  let cs ← expect ':' cs
  let (_, cs) ← twoDigits? 0 59 cs
  let cs ← expect ':' cs
  let (_, rest) ← twoDigits? 0 60 cs
  return skipSecondFraction rest

def offset? : List Char → Option (List Char)
  | [] => none
  | c :: rest =>
    if c = 'Z' ∨ c = 'z' then some rest
    else if c = '+' ∨ c = '-' then do
      let (_, cs) ← twoDigits? 0 23 rest
      let cs ← expect ':' cs
      let (_, rest) ← twoDigits? 0 59 cs
      return rest
    else none

/-- Reads a time with an optional offset behind the mark that separates it from a date. -/
def timeOfDay? : List Char → Option (List Char)
  | [] => none
  | c :: rest =>
    if c = 'T' ∨ c = 't' ∨ c = ' ' then
      (time? rest).map fun rest => (offset? rest).getD rest
    else none

/-- Reads a date, a time, or both. -/
def moment? (cs : List Char) : Option (List Char) :=
  match date? cs with
  | some rest => some ((timeOfDay? rest).getD rest)
  | none => time? cs

end UsbHost.Toml
