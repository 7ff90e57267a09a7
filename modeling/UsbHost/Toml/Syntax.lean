import UsbHost.Toml.Document
import UsbHost.Toml.Moment
import UsbHost.Toml.Number
import UsbHost.Toml.QuotedText

/-!
# The syntax of documents

A document is a sequence of lines: a header in one or two pairs of brackets, an entry, or nothing,
each perhaps with a comment. A value may span lines where it is an array or a text between triple
quotes.

Arrays and tables between braces may be nested, and keys may be dotted, to a depth below 80.
-/

set_option autoImplicit false

namespace UsbHost.Toml

/-- The deepest nesting of values, and the largest number of parts of a key. -/
def maxDepth : Nat := 79

def simpleKey? (cs : List Char) : Option (String × List Char) :=
  match lineText? cs with
  | some (text, rest) => some (String.ofList text, rest)
  | none =>
    let key := cs.takeWhile isBareKeyChar
    if key.isEmpty then none else some (String.ofList key, cs.dropWhile isBareKeyChar)

/-- Reads the parts of a key, which dots separate. Blanks may stand around each part. -/
def keyParts? (cs : List Char) : Option (List String × List Char) :=
  match simpleKey? (skipSpaces cs) with
  | none => none
  | some (part, rest) =>
    match skipSpaces rest with
    | '.' :: more =>
      if more.length < cs.length then
        (keyParts? more).map fun (parts, rest) => (part :: parts, rest)
      else none
    | rest => some ([part], rest)
termination_by cs.length

/-- Reads a key: the parts before the last one, and the last one. -/
def key? (cs : List Char) : Option ((List String × String) × List Char) := do
  let (parts, rest) ← keyParts? cs
  let last ← parts.getLast?
  if parts.length ≤ maxDepth then return ((parts.dropLast, last), rest) else none

/-- Reads a value that contains no others. -/
def scalarValue? (cs : List Char) : Option (Value × List Char) :=
  match cs with
  | 't' :: 'r' :: 'u' :: 'e' :: rest => some (.flag true, rest)
  | 'f' :: 'a' :: 'l' :: 's' :: 'e' :: rest => some (.flag false, rest)
  | cs =>
    match quotedText? cs with
    | some (text, rest) => some (.text (String.ofList text), rest)
    | none =>
      match moment? cs with
      | some rest => some (.moment, rest)
      | none =>
        match float? cs with
        | some rest => some (.float, rest)
        | none => (integer? cs).map fun (n, rest) => (.integer n, rest)

mutual

/-- Reads a value; `depth` others may be nested in one another inside it. -/
def value? (depth : Nat) (cs : List Char) : Option (Value × List Char) :=
  match cs with
  | '[' :: rest =>
    if depth = 0 then none
    else (items? (depth - 1) rest).map fun (items, rest) => (.array items, rest)
  | '\x7b' :: rest =>
    if depth = 0 then none
    else
      match skipSpaces rest with
      | '\x7d' :: rest => some (.table .inline [], rest)
      | _ =>
        match members? (depth - 1) rest with
        | none => none
        | some (entries, rest) =>
          (inlineTable? entries).map fun table => (.table .inline table, rest)
  | cs => scalarValue? cs
termination_by 2 * cs.length

/-- Reads the items of an array and its closing bracket. The last item may be followed by a
comma. -/
def items? (depth : Nat) (cs : List Char) : Option (List Value × List Char) :=
  match skipFiller false cs with
  | some (']' :: rest) => some ([], rest)
  | some start =>
    if start.length ≤ cs.length then
      match value? depth start with
      | none => none
      | some (item, rest) =>
        match skipFiller false rest with
        | some (']' :: rest) => some ([item], rest)
        | some (',' :: more) =>
          if more.length < cs.length then
            (items? depth more).map fun (items, rest) => (item :: items, rest)
          else none
        | _ => none
    else none
  | none => none
termination_by 2 * cs.length + 1

/-- Reads the entries of a table between braces and the closing brace. The last entry is not
followed by a comma. -/
def members? (depth : Nat) (cs : List Char) :
    Option (List (List String × String × Value) × List Char) :=
  match key? cs with
  | some ((parents, key), '=' :: rest) =>
    if rest.length < cs.length then
      have := length_skipSpaces_le rest
      match value? depth (skipSpaces rest) with
      | none => none
      | some (value, rest) =>
        match skipSpaces rest with
        | '\x7d' :: rest => some ([(parents, key, value)], rest)
        | ',' :: more =>
          if more.length < cs.length then
            (members? depth more).map fun (entries, rest) =>
              ((parents, key, value) :: entries, rest)
          else none
        | _ => none
    else none
  | _ => none
termination_by 2 * cs.length + 1

end

/-- Reads the rest of a header behind its opening brackets. -/
def headerRest? (closing : List Char) (cs : List Char) :
    Option ((List String × String) × List Char) := do
  let (key, rest) ← key? cs
  let rest ← closing.foldlM (fun cs c => expect c cs) rest
  let rest ← lineEnd? rest
  return (key, rest)

def keyedLine? (cs : List Char) : Option (Statement × List Char) := do
  let ((parents, key), rest) ← key? cs
  let rest ← expect '=' rest
  let (value, rest) ← value? maxDepth (skipSpaces rest)
  let rest ← lineEnd? rest
  return (.entry parents key value, rest)

/-- Reads what begins in one line, with the end of the line. -/
def line? (cs : List Char) : Option (Option Statement × List Char) :=
  match skipSpaces cs with
  | '[' :: '[' :: rest =>
    (headerRest? [']', ']'] rest).map fun ((parents, key), rest) =>
      (some (.element parents key), rest)
  | '[' :: rest =>
    (headerRest? [']'] rest).map fun ((parents, key), rest) => (some (.header parents key), rest)
  | cs =>
    match lineEnd? cs with
    | some rest => some (none, rest)
    | none => (keyedLine? cs).map fun (statement, rest) => (some statement, rest)

/-- Reads all lines that are left. -/
def lines? (cs : List Char) : Option (List Statement) :=
  match cs with
  | [] => some []
  | cs =>
    match line? cs with
    | none => none
    | some (statement, rest) =>
      if rest.length < cs.length then (lines? rest).map (statement.toList ++ ·) else none
termination_by cs.length

/-- What is left behind a byte order mark at the beginning of a text. -/
def skipByteOrderMark : List Char → List Char
  | '\ufeff' :: rest => rest
  | cs => cs

def read? (text : String) : Option Entries := do
  let statements ← lines? (skipByteOrderMark text.toList)
  document? statements

end UsbHost.Toml
