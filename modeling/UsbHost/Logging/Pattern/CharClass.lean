import UsbHost.Logging.Pattern.Basic

/-!
# Character classes

A class stands in square brackets. It has characters, ranges of characters, shorthands, named
classes and further classes as items, and may be the intersection, the difference or the symmetric
difference of such unions. A class behind a caret is negated.

A class may be nested in another one. What is read of a class is how deep its parts are nested.
-/

set_option autoImplicit false

namespace UsbHost.Logging.Pattern

/-- How deep a number of parts is nested that are taken together. A single part stands for
itself. -/
def jointDepth : List Nat → Nat
  | [] => 0
  | [depth] => depth
  | depths => 1 + depths.foldl max 0

structure OpenClass where
  /-- How deep the operands in front of the last operator are nested. -/
  operands : Option Nat := none
  /-- How deep the items behind the last operator are nested. -/
  items : List Nat := []
  /-- No item but hyphens has been read; a hyphen stands for itself, and so does a closing bracket
  if there is no hyphen either. -/
  atStart : Bool := true

namespace OpenClass

/-- How deep the class without its brackets is nested so far. -/
def depth (opened : OpenClass) : Nat :=
  match opened.operands with
  | some operands => 1 + max operands (jointDepth opened.items)
  | none => jointDepth opened.items

def add (opened : OpenClass) (depth : Nat) : OpenClass :=
  { opened with items := depth :: opened.items, atStart := false }

def operator (opened : OpenClass) : OpenClass :=
  { operands := some opened.depth, atStart := false }

end OpenClass

def classNames : List String :=
  ["alnum", "alpha", "ascii", "blank", "cntrl", "digit", "graph", "lower", "print", "punct",
    "space", "upper", "word", "xdigit"]

/-- Reads a named class behind its opening bracket, and whether it is negated. -/
def namedClass? : List Char → Option (Bool × List Char)
  | ':' :: rest =>
    let (negated, rest) := match rest with
      | '^' :: rest => (true, rest)
      | rest => (false, rest)
    let name := String.ofList (rest.takeWhile (· != ':'))
    match rest.dropWhile (· != ':') with
    | ':' :: ']' :: rest => if name ∈ classNames then some (negated, rest) else none
    | _ => none
  | _ => none

/-- Whether a named class may stand in a class. -/
def Mode.allowsNamed (mode : Mode) (negated : Bool) : Bool :=
  if mode.bytewise then !negated else !mode.ignoringCase

/-- Whether a class may be negated. -/
def Mode.allowsNegation (mode : Mode) : Bool :=
  !mode.bytewise

/-- Reads an item of a class that is no class: a character or an escape. -/
def classAtom? (mode : Mode) : List Char → Option (Atom × List Char)
  | '\\' :: rest => escape? mode rest
  | c :: rest => some (.literal c false, rest)
  | [] => none

/-- The character that decides whether a hyphen in front of it stands for itself. Blanks do not
count in a spaced pattern, nor does one number sign between them. -/
def behindHyphen? (mode : Mode) (cs : List Char) : Option Char :=
  if mode.spaced then
    match cs.dropWhile Text.isBlankChar with
    | '#' :: rest => (rest.dropWhile Text.isBlankChar).head?
    | rest => rest.head?
  else cs.head?

def rangeEnd? (mode : Mode) (first : Atom) (cs : List Char) : Option (List Char) := do
  let (last, rest) ← classAtom? mode cs
  match first, last with
  | .literal a _, .literal b _ =>
    if a ≤ b && mode.allowsInClass first && mode.allowsInClass last then some rest else none
  | _, _ => none

/-- Reads a range or a single item. A hyphen in front of a hyphen or of the closing bracket makes
no range. -/
def classRange? (mode : Mode) (cs : List Char) : Option (List Char) := do
  let (atom, rest) ← classAtom? mode cs
  match mode.skip rest with
  | [] => none
  | '-' :: more =>
    if behindHyphen? mode more ∈ [some ']', some '-'] then
      if mode.allowsInClass atom then some ('-' :: more) else none
    else rangeEnd? mode atom (mode.skip more)
  | rest => if mode.allowsInClass atom then some rest else none

def beginClass? (mode : Mode) (cs : List Char) : Option (List Char) :=
  match mode.skip cs with
  | '^' :: rest => if mode.allowsNegation then some rest else none
  | rest => some rest

/-- Reads a class up to its end; answers how deep it is nested. The classes in which it stands are
`outer`, the innermost first. One step reads at least one character, so that as many steps suffice
as there are characters. -/
def classBody? (mode : Mode) :
    Nat → List OpenClass → OpenClass → List Char → Option (Nat × List Char)
  | 0, _, _, _ => none
  | steps + 1, outer, opened, cs => do
    let item (depth : Nat) (rest : List Char) : Option (Nat × List Char) :=
      classBody? mode steps outer (opened.add depth) rest
    match mode.skip cs with
    | [] => none
    | '[' :: rest =>
      match namedClass? rest with
      | some (negated, rest) => if mode.allowsNamed negated then item 0 rest else none
      | none =>
        let outer := { opened with atStart := false } :: outer
        classBody? mode steps outer {} (← beginClass? mode rest)
    | ']' :: rest =>
      if opened.atStart && opened.items.isEmpty then
        if mode.allowsInClass (.literal ']' false) then item 0 rest else none
      else
        let depth := 1 + opened.depth
        match outer with
        | [] => some (depth, rest)
        | parent :: outer => classBody? mode steps outer (parent.add depth) rest
    | c :: rest =>
      if opened.atStart && c == '-' then
        if mode.allowsInClass (.literal '-' false) then
          classBody? mode steps outer { opened with items := 0 :: opened.items } rest
        else none
      else if c ∈ ['&', '-', '~'] && rest.head? == some c then
        classBody? mode steps outer opened.operator (rest.drop 1)
      else item 0 (← classRange? mode (c :: rest))

/-- Reads a class behind its opening bracket; answers how deep it is nested. -/
def class? (mode : Mode) (cs : List Char) : Option (Nat × List Char) := do
  let rest ← beginClass? mode cs
  classBody? mode (rest.length + 1) [] {} rest

end UsbHost.Logging.Pattern
