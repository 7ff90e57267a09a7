import UsbHost.Logging.Pattern.CharClass
import UsbHost.Text.Alphanumeric

/-!
# Patterns

A pattern is read from left to right. Groups that are open stand on a stack, each with the mode
that holds again behind it. A pattern that cannot be read is malformed, and so is one whose parts
are nested too deep. A pattern that can be read may still ask for the boundaries of words, which
cannot be told without tables of characters beyond ASCII.

Braces with a number of repetitions do not occur, since a brace closes the field in which a
pattern stands; an opening brace makes a pattern malformed.
-/

set_option autoImplicit false

namespace UsbHost.Logging

inductive PatternError where
  | malformed
  /-- It asks for the boundaries of words. -/
  | wordBoundary
  deriving DecidableEq, Repr

def PatternError.message : PatternError → String
  | malformed => "error building NFA"
  | wordBoundary =>
    "unsupported regex feature for DFAs: cannot build DFAs for regexes with Unicode word " ++
      "boundaries; switch to ASCII word boundaries, or heuristically enable Unicode word " ++
      "boundaries or use a different regex engine"

namespace Pattern

/-! ## Groups -/

/-- The mode after a flag has been switched. Some flags do not matter for reading. -/
def Mode.switch? (mode : Mode) (flag : Char) (on : Bool) : Option Mode :=
  match flag with
  | 'x' => some { mode with spaced := on }
  | 'i' => some { mode with ignoringCase := on }
  | 'u' => some { mode with bytewise := !on }
  | 'm' | 's' | 'R' | 'U' => some mode
  | _ => none

/-- Reads flags up to the colon or bracket behind them. Behind a hyphen they are switched off. No
flag and no hyphen stands twice, and a hyphen does not stand last. -/
def flags? (seen : List Char) (mode : Mode) : List Char → Option (Mode × List Char × List Char)
  | [] => none
  | c :: rest =>
    if c = ':' ∨ c = ')' then
      if seen.head? = some '-' then none else some (mode, seen, c :: rest)
    else if c ∈ seen then none
    else if c = '-' then flags? (c :: seen) mode rest
    else
      match mode.switch? c !seen.contains '-' with
      | some mode => flags? (c :: seen) mode rest
      | none => none

/-- Whether characters are the name of a group. -/
def isGroupName : List Char → Bool
  | [] => false
  | c :: rest =>
    (c == '_' || Text.isAlphabetic c) &&
      rest.all fun c => c ∈ ['_', '.', '[', ']'] || Text.isAlphanumeric c

inductive Opening where
  /-- A group in a mode of its own, perhaps with a name. -/
  | group (mode : Mode) (name : Option String)
  /-- A mode for the rest of the group. -/
  | switch (mode : Mode)
  deriving DecidableEq, Repr

/-- Reads the name of a group and the bracket behind it. -/
def groupName? (mode : Mode) (cs : List Char) : Option (Opening × List Char) :=
  let name := cs.takeWhile (· != '>')
  match cs.dropWhile (· != '>') with
  | _ :: rest =>
    if isGroupName name then some (.group mode (some (String.ofList name)), rest) else none
  | [] => none

def opening? (mode : Mode) (cs : List Char) : Option (Opening × List Char) :=
  match mode.skip cs with
  | '?' :: 'P' :: '<' :: rest => groupName? mode rest
  | '?' :: '<' :: rest => groupName? mode rest
  | '?' :: rest =>
    match flags? [] mode rest with
    | some (mode, _, ':' :: rest) => some (.group mode none, rest)
    | some (mode, seen, _ :: rest) => if seen.isEmpty then none else some (.switch mode, rest)
    | _ => none
  | rest => some (.group mode none, rest)

/-! ## Sequences -/

structure Part where
  /-- How deep it is nested. -/
  depth : Nat := 0
  /-- Whether a repetition may stand behind it. -/
  repeatable : Bool := true

structure Alternatives where
  /-- How deep the alternatives are nested that are complete. -/
  complete : List Nat := []
  /-- The parts of the last alternative, the last one first. -/
  parts : List Part := []

namespace Alternatives

def lastDepth (alternatives : Alternatives) : Nat :=
  jointDepth (alternatives.parts.map Part.depth)

/-- How deep all alternatives together are nested so far. -/
def depth (alternatives : Alternatives) : Nat :=
  jointDepth (alternatives.lastDepth :: alternatives.complete)

def add (alternatives : Alternatives) (part : Part) : Alternatives :=
  { alternatives with parts := part :: alternatives.parts }

def next (alternatives : Alternatives) : Alternatives :=
  { complete := alternatives.lastDepth :: alternatives.complete }

/-- Repeats the part that was read last, if there is one that can be repeated. -/
def repeatLast? (alternatives : Alternatives) : Option Alternatives :=
  match alternatives.parts with
  | part :: parts =>
    if part.repeatable then some { alternatives with parts := { depth := 1 + part.depth } :: parts }
    else none
  | [] => none

end Alternatives

structure Reading where
  mode : Mode := {}
  alternatives : Alternatives := {}
  /-- What was read in front of the groups that are open, and the mode there, the innermost
  first. -/
  outer : List (Alternatives × Mode) := []
  names : List String := []
  /-- Whether the boundary of a word has been asked for. -/
  wordBoundary : Bool := false

namespace Reading

def add (reading : Reading) (part : Part) : Reading :=
  { reading with alternatives := reading.alternatives.add part }

/-- A further atom, if the mode allows it. Word boundaries of ASCII can be told. -/
def addAtom? (reading : Reading) (atom : Atom) : Option Reading :=
  if reading.mode.allows atom then
    let asked := atom = .wordBoundary && !reading.mode.bytewise
    some { reading.add {} with wordBoundary := reading.wordBoundary || asked }
  else none

/-- Opens a group or switches the mode. No two groups have the same name. -/
def openGroup? (reading : Reading) : Opening → Option Reading
  | .switch mode => some { reading.add { repeatable := false } with mode }
  | .group mode name =>
    if name.any (· ∈ reading.names) then none
    else
      some {
        reading with
        mode
        alternatives := {}
        outer := (reading.alternatives, reading.mode) :: reading.outer
        names := name.toList ++ reading.names }

def closeGroup? (reading : Reading) : Option Reading :=
  match reading.outer with
  | (alternatives, mode) :: outer =>
    let part : Part := { depth := 1 + reading.alternatives.depth }
    some { reading with mode, alternatives := alternatives.add part, outer }
  | [] => none

def repeatLast? (reading : Reading) : Option Reading :=
  reading.alternatives.repeatLast?.map fun alternatives => { reading with alternatives }

def step? (reading : Reading) (c : Char) (rest : List Char) : Option (Reading × List Char) :=
  match c with
  | '(' => do
    let (opening, rest) ← opening? reading.mode rest
    return (← reading.openGroup? opening, rest)
  | ')' => reading.closeGroup?.map (·, rest)
  | '|' => some ({ reading with alternatives := reading.alternatives.next }, rest)
  | '[' => (class? reading.mode rest).map fun (depth, rest) => (reading.add { depth }, rest)
  | '*' | '+' | '?' =>
    reading.repeatLast?.map (·, if rest.head? = some '?' then rest.drop 1 else rest)
  | '\x7b' => none
  | '.' => (reading.addAtom? .any).map (·, rest)
  | '^' | '$' => (reading.addAtom? .anchor).map (·, rest)
  | '\\' => do
    let (atom, rest) ← escape? reading.mode rest
    return (← reading.addAtom? atom, rest)
  | c => (reading.addAtom? (.literal c false)).map (·, rest)

/-- Reads a pattern to its end. One step reads at least one character, so that as many steps
suffice as there are characters. -/
def toEnd? : Nat → Reading → List Char → Option Reading
  | 0, _, _ => none
  | steps + 1, reading, cs =>
    match reading.mode.skip cs with
    | [] => if reading.outer.isEmpty then some reading else none
    | c :: rest => (reading.step? c rest).bind fun (reading, rest) => toEnd? steps reading rest

end Reading

/-- How deep the parts of a pattern may be nested. -/
def maxDepth : Nat := 250

def error? (pattern : List Char) : Option PatternError :=
  match Reading.toEnd? (pattern.length + 1) {} pattern with
  | none => some .malformed
  | some reading =>
    if maxDepth < reading.alternatives.depth then some .malformed
    else if reading.wordBoundary then some .wordBoundary
    else none

end Pattern

end UsbHost.Logging
