import UsbHost.Text.Digit
import UsbHost.Toml.Lexical

/-!
# Quoted texts

There are four forms: basic texts between double quotes know escapes, literal texts between single
quotes do not, and either may span lines between triple quotes. A line break directly behind the
opening triple quotes is not part of the text. Up to two quotes may stand directly before the
closing ones and belong to the text. A line break within a text is a single line feed, however it
is written.
-/

set_option autoImplicit false

namespace UsbHost.Toml

/-- A character that stands for itself in a basic text: no control character but tab, and neither
quote nor backslash. -/
def isBasicChar (c : Char) : Bool :=
  isCommentChar c && c != '"' && c != '\\'

/-- A character that stands for itself in a literal text. -/
def isLiteralChar (c : Char) : Bool :=
  isCommentChar c && c != '\''

def simpleEscape? : Char → Option Char
  | 'b' => some '\x08'
  | 't' => some '\t'
  | 'n' => some '\n'
  | 'f' => some '\x0c'
  | 'r' => some '\r'
  | '"' => some '"'
  | '\\' => some '\\'
  | _ => none

def escape? : List Char → Option (Char × List Char)
  | 'u' :: a :: b :: c :: d :: rest => (Text.charOfHex? [a, b, c, d]).map (·, rest)
  | 'U' :: a :: b :: c :: d :: e :: f :: g :: h :: rest =>
    (Text.charOfHex? [a, b, c, d, e, f, g, h]).map (·, rest)
  | c :: rest => (simpleEscape? c).map (·, rest)
  | [] => none

/-- An escape leaves less than it began with. -/
theorem escape?_length {cs rest : List Char} {c : Char} (h : escape? cs = some (c, rest)) :
    rest.length < cs.length := by
  unfold escape? at h
  split at h
  all_goals
    first
    | (obtain ⟨_, _, same⟩ := Option.map_eq_some_iff.mp h
       cases same
       simp only [List.length_cons]
       omega)
    | cases h

/-- Puts a character before a text that was read. -/
def prepend (c : Char) : Option (List Char × List Char) → Option (List Char × List Char)
  | some (text, rest) => some (c :: text, rest)
  | none => none

def basicText (cs : List Char) : Option (List Char × List Char) :=
  match cs with
  | [] => none
  | '"' :: rest => some ([], rest)
  | '\\' :: escaped =>
    match h : escape? escaped with
    | some (c, rest) =>
      have := escape?_length h
      prepend c (basicText rest)
    | none => none
  | c :: rest => if isBasicChar c then prepend c (basicText rest) else none
termination_by cs.length

def literalText : List Char → Option (List Char × List Char)
  | [] => none
  | '\'' :: rest => some ([], rest)
  | c :: rest => if isLiteralChar c then prepend c (literalText rest) else none

/-- Whether a backslash before `cs` continues the line: only blanks are left on it. -/
def continuesLine (cs : List Char) : Bool :=
  (newline? (skipSpaces cs)).isSome

def skipBlankLines : List Char → List Char
  | '\r' :: '\n' :: rest => skipBlankLines rest
  | c :: rest => if isSpace c || c == '\n' then skipBlankLines rest else c :: rest
  | [] => []

/-- Skipping does not make a text longer. -/
theorem skipBlankLines_length (cs : List Char) : (skipBlankLines cs).length ≤ cs.length := by
  fun_induction skipBlankLines cs <;> simp_all <;> omega

/-- Reads a basic text over several lines up to its closing quotes. A backslash at the end of a
line takes the line break and all blank space behind it away. -/
def multilineBasicText (cs : List Char) : Option (List Char × List Char) :=
  match cs with
  | [] => none
  | '"' :: '"' :: '"' :: '"' :: '"' :: rest => some (['"', '"'], rest)
  | '"' :: '"' :: '"' :: '"' :: rest => some (['"'], rest)
  | '"' :: '"' :: '"' :: rest => some ([], rest)
  | '"' :: rest => prepend '"' (multilineBasicText rest)
  | '\r' :: '\n' :: rest => prepend '\n' (multilineBasicText rest)
  | '\n' :: rest => prepend '\n' (multilineBasicText rest)
  | '\\' :: escaped =>
    if continuesLine escaped then
      have := skipBlankLines_length escaped
      multilineBasicText (skipBlankLines escaped)
    else
      match h : escape? escaped with
      | some (c, rest) =>
        have := escape?_length h
        prepend c (multilineBasicText rest)
      | none => none
  | c :: rest => if isBasicChar c then prepend c (multilineBasicText rest) else none
termination_by cs.length

/-- Reads a literal text over several lines up to its closing quotes. -/
def multilineLiteralText : List Char → Option (List Char × List Char)
  | [] => none
  | '\'' :: '\'' :: '\'' :: '\'' :: '\'' :: rest => some (['\'', '\''], rest)
  | '\'' :: '\'' :: '\'' :: '\'' :: rest => some (['\''], rest)
  | '\'' :: '\'' :: '\'' :: rest => some ([], rest)
  | '\'' :: rest => prepend '\'' (multilineLiteralText rest)
  | '\r' :: '\n' :: rest => prepend '\n' (multilineLiteralText rest)
  | '\n' :: rest => prepend '\n' (multilineLiteralText rest)
  | c :: rest => if isLiteralChar c then prepend c (multilineLiteralText rest) else none

/-- What is left behind a line break directly behind opening triple quotes. -/
def skipFirstBreak (cs : List Char) : List Char :=
  (newline? cs).getD cs

/-- Reads a quoted text of one line, as a key may be. -/
def lineText? : List Char → Option (List Char × List Char)
  | '"' :: rest => basicText rest
  | '\'' :: rest => literalText rest
  | _ => none

def quotedText? : List Char → Option (List Char × List Char)
  | '"' :: '"' :: '"' :: rest => multilineBasicText (skipFirstBreak rest)
  | '\'' :: '\'' :: '\'' :: rest => multilineLiteralText (skipFirstBreak rest)
  | cs => lineText? cs

end UsbHost.Toml
