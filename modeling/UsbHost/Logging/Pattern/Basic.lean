import UsbHost.Text.Blank
import UsbHost.Text.Digit

/-!
# The smallest parts of patterns

A pattern is a regular expression. Here it is only asked whether a pattern can be used, and of
what has been read only that is kept which decides about it.

A pattern matches characters or, in byte mode, bytes. No tables of characters beyond ASCII are at
hand. Digits, blanks and word characters as classes are therefore known in byte mode only, and so
is matching without regard to case; properties of characters are not known at all. Byte mode
refuses whatever could match a single byte beyond ASCII.
-/

set_option autoImplicit false

namespace UsbHost.Logging.Pattern

/-- How a pattern is understood. Each of the modes can be switched on and off within it. -/
structure Mode where
  /-- Blanks and comments in the pattern do not count. -/
  spaced : Bool := false
  ignoringCase : Bool := false
  /-- Bytes are matched rather than characters. -/
  bytewise : Bool := false
  deriving DecidableEq, Repr

/-- What is left behind blanks and comments; a comment goes from a number sign to the end of the
line. -/
def skipSpace (inComment : Bool) : List Char → List Char
  | [] => []
  | c :: rest =>
    if inComment then skipSpace (c != '\n') rest
    else if Text.isBlankChar c then skipSpace false rest
    else if c = '#' then skipSpace true rest
    else c :: rest

inductive Atom where
  /-- A character that stands for itself; `asByte` if it is written as two hexadecimal digits. -/
  | literal (c : Char) (asByte : Bool)
  /-- The digits, the blanks or the word characters, or all others. -/
  | shorthand (negated : Bool)
  | anchor
  | wordBoundary
  /-- Any character other than a line feed. -/
  | any
  deriving DecidableEq, Repr

namespace Mode

/-- What is left behind that which does not count. -/
def skip (mode : Mode) (cs : List Char) : List Char :=
  if mode.spaced then skipSpace false cs else cs

/-- Whether an atom may stand outside of character classes. In byte mode only the letters of ASCII
have two cases, so that a character beyond ASCII stands for itself there. -/
def allows (mode : Mode) : Atom → Bool
  | .literal c asByte =>
    if mode.bytewise then c.toNat < 0x80 || !asByte else !mode.ignoringCase
  | .shorthand negated => mode.bytewise && !negated
  | .anchor | .wordBoundary => true
  | .any => !mode.bytewise

/-- Whether an atom may stand in a character class. -/
def allowsInClass (mode : Mode) : Atom → Bool
  | .literal c _ => if mode.bytewise then c.toNat < 0x80 else !mode.ignoringCase
  | .shorthand negated => mode.bytewise && !negated
  | .anchor | .wordBoundary | .any => false

end Mode

def hexDigits? (mode : Mode) : Nat → List Char → Option (List Char × List Char)
  | 0, cs => some ([], cs)
  | count + 1, cs =>
    match mode.skip cs with
    | c :: rest => (hexDigits? mode count rest).map fun (digits, rest) => (c :: digits, rest)
    | [] => none

/-- Reads a character given by a number of hexadecimal digits. Digits in braces do not occur,
since a brace closes the field. -/
def hexEscape? (mode : Mode) (count : Nat) (cs : List Char) : Option (Atom × List Char) := do
  let (digits, rest) ← hexDigits? mode count cs
  let c ← Text.charOfHex? digits
  return (.literal c (count == 2), rest)

/-- The control character that a letter behind a backslash stands for. -/
def control? : Char → Option Char
  | 'a' => some '\x07'
  | 'f' => some '\x0c'
  | 't' => some '\t'
  | 'n' => some '\n'
  | 'r' => some '\r'
  | 'v' => some '\x0b'
  | _ => none

/-- Reads what stands behind a backslash. Every character of ASCII that is neither a letter nor a
digit may be escaped. -/
def escape? (mode : Mode) : List Char → Option (Atom × List Char)
  | [] => none
  | c :: rest =>
    if c = 'x' then hexEscape? mode 2 rest
    else if c = 'u' then hexEscape? mode 4 rest
    else if c = 'U' then hexEscape? mode 8 rest
    else if c ∈ ['d', 's', 'w'] then some (.shorthand false, rest)
    else if c ∈ ['D', 'S', 'W'] then some (.shorthand true, rest)
    else if c ∈ ['A', 'z'] then some (.anchor, rest)
    else if c ∈ ['b', 'B', '<', '>'] then some (.wordBoundary, rest)
    else if c.toNat < 0x80 && !c.isAlphanum then some (.literal c false, rest)
    else (control? c).map fun c => (.literal c false, rest)

end UsbHost.Logging.Pattern
