import UsbHost.Text.Digit
import UsbHost.Toml.Lexical

/-!
# Numbers

Integers are decimal with an optional sign, or hexadecimal, octal or binary without one, and fit
into 64 bits. Floats have a fraction, an exponent or both, or are infinite or no number. A single
underscore may separate two digits.

A float so large that it would round to positive infinity is refused. The largest finite double is
`(2 ^ 53 - 1) * 2 ^ 971`; a number rounds to infinity from `(2 ^ 54 - 1) * 2 ^ 970` on.
-/

set_option autoImplicit false

namespace UsbHost.Toml

/-- Reads more digits behind a first one; an underscore must have digits on both sides. -/
def moreDigits (isDigit : Char → Bool) : List Char → Option (List Char × List Char)
  | '_' :: c :: rest =>
    if isDigit c then
      (moreDigits isDigit rest).map fun (digits, rest) => (c :: digits, rest)
    else none
  | c :: rest =>
    if isDigit c then
      (moreDigits isDigit rest).map fun (digits, rest) => (c :: digits, rest)
    else if c = '_' then none
    else some ([], c :: rest)
  | [] => some ([], [])

/-- Reads one digit or more, and leaves the underscores out. -/
def digitRun (isDigit : Char → Bool) : List Char → Option (List Char × List Char)
  | c :: rest =>
    if isDigit c then
      (moreDigits isDigit rest).map fun (digits, rest) => (c :: digits, rest)
    else none
  | [] => none

/-- Reads an optional sign; true is minus. -/
def sign : List Char → Bool × List Char
  | '-' :: rest => (true, rest)
  | '+' :: rest => (false, rest)
  | cs => (false, cs)

/-- Reads the digits of a decimal integer: zero stands alone. -/
def decimalDigits : List Char → Option (List Char × List Char)
  | '0' :: rest => some (['0'], rest)
  | cs => digitRun Char.isDigit cs

def word64? (negative : Bool) (magnitude : Nat) : Option Int :=
  if negative then
    if magnitude ≤ Nat.pow 2 63 then some (-magnitude) else none
  else
    if magnitude < Nat.pow 2 63 then some magnitude else none

/-- Reads the digits of an integer in a base other than ten. -/
def basedInteger (base : Nat) (digit? : Char → Option Nat) (cs : List Char) :
    Option (Int × List Char) := do
  let isDigit c := match digit? c with
    | some d => d < base
    | none => false
  let (digits, rest) ← digitRun isDigit cs
  let magnitude ← Text.numeral? base digit? digits
  let value ← word64? false magnitude
  return (value, rest)

def integer? (cs : List Char) : Option (Int × List Char) :=
  match cs with
  | '0' :: 'x' :: rest => basedInteger 16 Text.hexDigit? rest
  | '0' :: 'o' :: rest => basedInteger 8 Text.hexDigit? rest
  | '0' :: 'b' :: rest => basedInteger 2 Text.hexDigit? rest
  | cs => do
    let (negative, cs) := sign cs
    let (digits, rest) ← decimalDigits cs
    let magnitude ← Text.numeral? 10 Text.decimalDigit? digits
    let value ← word64? negative magnitude
    return (value, rest)

/-- The least number that rounds to infinity. It has 309 digits. -/
def leastInfinite : Nat := (Nat.pow 2 54 - 1) * Nat.pow 2 970

/-- Whether `mantissa * 10 ^ exponent` rounds to infinity, for a mantissa with the given number of
digits and no leading zero. The number of digits in front of the point decides it unless there are
309 of them. -/
def roundsToInfinity (mantissa digits : Nat) (exponent : Int) : Bool :=
  if mantissa = 0 ∨ exponent + digits < 309 then false
  else if 309 < exponent + digits then true
  else leastInfinite * Nat.pow 10 (-exponent).toNat ≤ mantissa * Nat.pow 10 exponent.toNat

/-- Reads an optional exponent; true where there is one. -/
def exponent? (cs : List Char) : Option (Bool × Int × List Char) :=
  match cs with
  | c :: rest =>
    if c = 'e' ∨ c = 'E' then do
      let (negative, rest) := sign rest
      let (digits, rest) ← digitRun Char.isDigit rest
      let magnitude ← Text.numeral? 10 Text.decimalDigit? digits
      return (true, if negative then -(magnitude : Int) else magnitude, rest)
    else some (false, 0, cs)
  | [] => some (false, 0, [])

def fraction? : List Char → Option (List Char × List Char)
  | '.' :: rest => digitRun Char.isDigit rest
  | cs => some ([], cs)

/-- Reads infinity or no-number, in lower case and with an optional sign. -/
def specialFloat? (cs : List Char) : Option (List Char) :=
  match (sign cs).2 with
  | 'i' :: 'n' :: 'f' :: rest => some rest
  | 'n' :: 'a' :: 'n' :: rest => some rest
  | _ => none

/-- Reads a float with a fraction, an exponent or both. -/
def decimalFloat? (cs : List Char) : Option (List Char) := do
  let (negative, cs) := sign cs
  let (whole, cs) ← decimalDigits cs
  let (fraction, cs) ← fraction? cs
  let (hasExponent, exponent, rest) ← exponent? cs
  if fraction.isEmpty && !hasExponent then none
  else
    let digits := whole ++ fraction
    let mantissa ← Text.numeral? 10 Text.decimalDigit? digits
    let significant := (digits.dropWhile (· = '0')).length
    if !negative && roundsToInfinity mantissa significant (exponent - fraction.length) then none
    else some rest

def float? (cs : List Char) : Option (List Char) :=
  (decimalFloat? cs).or (specialFloat? cs)

end UsbHost.Toml
