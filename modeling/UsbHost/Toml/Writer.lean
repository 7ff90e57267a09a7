import UsbHost.Toml.Lexical

/-!
# Writing texts

A text can be written in four forms. The plainest form that needs no escape is chosen; only a text
with control characters, or with long runs of both kinds of quote, is written with escapes.
-/

set_option autoImplicit false

namespace UsbHost.Toml

inductive QuoteForm where
  | basic
  | literal
  | multilineBasic
  | multilineLiteral
  deriving DecidableEq, Repr

/-- A character that no form can hold without an escape: a control character other than tab and
line feed. -/
def needsEscape (c : Char) : Bool :=
  !(isCommentChar c || c == '\n')

/-- The length of the longest run of a character, given that `run` of them stand before. -/
def longestRunFrom (c : Char) (run : Nat) : List Char → Nat
  | [] => run
  | d :: rest =>
    if d = c then longestRunFrom c (run + 1) rest else max run (longestRunFrom c 0 rest)

def longestRun (c : Char) (text : List Char) : Nat :=
  longestRunFrom c 0 text

def QuoteForm.of (text : List Char) : QuoteForm :=
  let plain := !text.any needsEscape
  let backslash := text.contains '\\'
  let lines := text.contains '\n'
  if plain && !backslash && !text.contains '"' && !lines then .basic
  else if plain && !text.contains '\'' && !lines then .literal
  else if plain && !backslash && longestRun '"' text ≤ 2 then .multilineBasic
  else if plain && longestRun '\'' text ≤ 2 then .multilineLiteral
  else if lines then .multilineBasic
  else .basic

def upperHexDigit (n : Nat) : Char :=
  (Nat.digitChar n).toUpper

def numberedEscape (c : Char) : List Char :=
  let n := c.toNat
  ['\\', 'u'] ++ [n / 4096 % 16, n / 256 % 16, n / 16 % 16, n % 16].map upperHexDigit

/-- A character other than quote and line feed within a basic text. -/
def writeBasicChar (c : Char) : List Char :=
  if c = '\x08' then ['\\', 'b']
  else if c = '\t' then ['\\', 't']
  else if c = '\x0c' then ['\\', 'f']
  else if c = '\r' then ['\\', 'r']
  else if c = '\\' then ['\\', '\\']
  else if needsEscape c then numberedEscape c
  else [c]

def writeBasic (text : List Char) : List Char :=
  text.flatMap fun c =>
    if c = '"' then ['\\', '"']
    else if c = '\n' then ['\\', 'n']
    else writeBasicChar c

/-- The inside of a basic text over several lines, given that `quotes` quotes stand directly
before. Two quotes may stand together; the third is escaped, and counting starts anew. -/
def writeMultilineBasic (quotes : Nat) : List Char → List Char
  | [] => []
  | '"' :: rest =>
    if quotes < 2 then '"' :: writeMultilineBasic (quotes + 1) rest
    else '\\' :: '"' :: writeMultilineBasic 0 rest
  | '\n' :: rest => '\n' :: writeMultilineBasic 0 rest
  | c :: rest => writeBasicChar c ++ writeMultilineBasic 0 rest

/-- A text between triple quotes begins on a line of its own if it has several lines. -/
def firstBreak (text : List Char) : List Char :=
  if text.contains '\n' then ['\n'] else []

def QuoteForm.write (form : QuoteForm) (text : List Char) : List Char :=
  match form with
  | .basic => ['"'] ++ writeBasic text ++ ['"']
  | .literal => ['\''] ++ text ++ ['\'']
  | .multilineBasic =>
    ['"', '"', '"'] ++ firstBreak text ++ writeMultilineBasic 0 text ++ ['"', '"', '"']
  | .multilineLiteral =>
    ['\'', '\'', '\''] ++ firstBreak text ++ text ++ ['\'', '\'', '\'']

def writeText (text : String) : String :=
  String.ofList ((QuoteForm.of text.toList).write text.toList)

def writeFlag (value : Bool) : String :=
  if value then "true" else "false"

end UsbHost.Toml
