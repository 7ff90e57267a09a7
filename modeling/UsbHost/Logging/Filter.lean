import UsbHost.Logging.Field
import UsbHost.Logging.Record
import UsbHost.Text.Alphanumeric
import UsbHost.Text.Blank
import UsbHost.Text.Place

/-!
# Log filters

A filter is a list of directives, which are separated by commas. A directive gives the level up to
which the records of a target are shown; without a target it holds for all records. It may ask for
a span or a field in brackets. Of a field it concerns only records that have it; what it says about
spans does not concern records outside of spans, and no record of this program is inside of one.

Blanks around a directive do not count for its form. Its texts, however, are taken out of the
directive as it is written, at the places that they have without the blanks. Behind leading blanks
every text is therefore shifted by as many bytes as the blanks take: a target then begins with a
blank, and no level can be read. Where a shifted place falls inside of a character the text cannot
be cut, and nothing is said about such a directive.

Of the directives that concern a record the most specific one decides, and of equally specific ones
the last.
-/

set_option autoImplicit false

namespace UsbHost.Logging

/-- The level up to which records are shown; `none` shows no record. -/
abbrev Threshold := Option Level

namespace Threshold

/-- Whether records of a level are shown. -/
def shows (threshold : Threshold) (level : Level) : Bool :=
  threshold.any fun most => level.number ≤ most.number

/-- Reads a threshold from its number, `0` for none, or its name in any mixture of cases. -/
def ofText? (text : String) : Option Threshold :=
  match Text.word? text with
  | some 0 => some none
  | some n => (Level.ofNumber? n).map some
  | none => if Text.equalIgnoringCase "off" text then some none else (Level.ofName? text).map some

end Threshold

inductive FilterError where
  | directive
  | level
  | field (error : PatternError)
  deriving DecidableEq, Repr

def FilterError.message : FilterError → String
  | directive => "invalid filter directive"
  | level =>
    "error parsing level filter: expected one of \"off\", \"error\", \"warn\", \"info\", " ++
      "\"debug\", \"trace\", or a number 0-5"
  | field error => "invalid field filter: " ++ error.message

structure Directive where
  /-- What the target of a record must begin with. -/
  target : String := ""
  /-- The span that a record must be in. -/
  span : Option String := none
  /-- The field that a record must have. A field with a value concerns spans. -/
  field : Option Field := none
  threshold : Threshold := some .trace
  deriving DecidableEq, Repr

/-- A directive that is being read. Its form is the directive without the blanks around it. -/
structure DirectiveText where
  written : List Char
  /-- What is left of the form. -/
  form : List Char
  /-- The place of that in the form. -/
  place : Nat := 0

namespace DirectiveText

def ofString (text : String) : DirectiveText :=
  { written := text.toList, form := Text.trimChars text.toList }

/-- What is left behind the first `count` characters of the form. -/
def drop (text : DirectiveText) (count : Nat) : DirectiveText :=
  { text with
    form := text.form.drop count
    place := text.place + Text.byteSize (text.form.take count) }

/-- What is written up to the place where the form goes on differently, and what is left there. -/
def takeWhile (text : DirectiveText) (goesOn : Char → Bool) : String × DirectiveText :=
  let left := text.drop (text.form.takeWhile goesOn).length
  (String.ofList (Text.between text.place left.place text.written), left)

def remainder (text : DirectiveText) : String :=
  String.ofList (Text.dropBytes text.place text.written)

end DirectiveText

namespace Directive

def mayBegin (c : Char) : Bool :=
  Text.isAlphanumeric c || c == '-' || c == ':' || c == '_' || c == '['

/-- Reads the level behind an equals sign; no level is the least severe one. -/
def withLevel (directive : Directive) (text : DirectiveText) : Except FilterError Directive :=
  if text.remainder.isEmpty then .ok directive
  else
    match Threshold.ofText? text.remainder with
    | some threshold => .ok { directive with threshold }
    | none => .error .level

/-- Reads what stands behind the closing bracket: a level or nothing. -/
def behindBracket (directive : Directive) (text : DirectiveText) :
    Except FilterError Directive :=
  match text.form with
  | [] => .ok directive
  | '=' :: _ => directive.withLevel (text.drop 1)
  | _ => .error .directive

/-- Reads what stands behind the opening bracket: a span or a field or both, and the rest of the
directive. -/
def inBracket (directive : Directive) (text : DirectiveText) : Except FilterError Directive :=
  let (span, text) := text.takeWhile fun c => c != ']' && c != '\x7b'
  match text.form with
  | ']' :: _ => { directive with span := some span }.behindBracket (text.drop 1)
  | '\x7b' :: _ =>
    let (field, text) := (text.drop 1).takeWhile fun c => c != '\x7d'
    if text.form.isEmpty || field.isEmpty then .error .directive
    else
      match Field.read field with
      | .error error => .error (.field error)
      | .ok field =>
        match text.form with
        | '\x7d' :: ']' :: _ =>
          let span := if span.isEmpty then none else some span
          { directive with span, field := some field }.behindBracket (text.drop 2)
        | _ => .error .directive
  | _ => .error .directive

/-- A level for all targets, or else a target. -/
def ofLevelOrTarget (text : String) : Directive :=
  match Threshold.ofText? text with
  | some threshold => { threshold }
  | none => { target := text }

/-- Reads a directive. What has neither level nor brackets is a level for all targets, or else a
target. -/
def read (text : String) : Except FilterError Directive :=
  let whole := DirectiveText.ofString text
  let (target, rest) := whole.takeWhile fun c => c != '=' && c != '['
  if whole.form.head?.any mayBegin then
    match rest.form with
    | '=' :: _ => withLevel { target } (rest.drop 1)
    | '[' :: _ => inBracket { target } (rest.drop 1)
    | _ => .ok (ofLevelOrTarget text)
  else .error .directive

/-- Whether a directive concerns a record that is outside of spans. -/
def concerns (directive : Directive) (record : Record) : Bool :=
  directive.span.isNone &&
    directive.field.all (fun field => field.value.isNone && field.name ∈ record.fields.map Prod.fst) &&
    directive.target.toList.isPrefixOf record.target.toList

/-- Whether a field makes a directive at least as specific as another one does. Of two fields the
one whose name comes later counts for more. -/
def fieldAtLeast : Option Field → Option Field → Bool
  | _, none => true
  | none, some _ => false
  | some field, some other => other.name ≤ field.name

/-- Whether a directive is at least as specific as another one: a longer target comes first, then
a field. -/
def atLeastAsSpecific (directive other : Directive) : Bool :=
  other.target.utf8ByteSize < directive.target.utf8ByteSize ||
    (other.target.utf8ByteSize == directive.target.utf8ByteSize &&
      fieldAtLeast directive.field other.field)

end Directive

abbrev Filter := List Directive

namespace Filter

/-- Reads a filter. Empty parts are passed over; the first part that is no directive is the
error. -/
def read (text : String) : Except FilterError Filter :=
  ((Text.split ',' text).filter fun part => !part.isEmpty).mapM Directive.read

/-- The more specific one of two directives, the second one if they are equally specific. -/
def prefer : Option Directive → Directive → Option Directive
  | none, directive => some directive
  | some best, directive => some (if directive.atLeastAsSpecific best then directive else best)

/-- The directive that decides about a record. -/
def deciding? (filter : Filter) (record : Record) : Option Directive :=
  (List.filter (fun directive => directive.concerns record) filter).foldl prefer none

/-- The level up to which records like this one are shown. -/
def threshold (filter : Filter) (record : Record) : Threshold :=
  (filter.deciding? record).bind Directive.threshold

def shows (filter : Filter) (record : Record) : Bool :=
  Threshold.shows (filter.threshold record) record.level

end Filter

end UsbHost.Logging
