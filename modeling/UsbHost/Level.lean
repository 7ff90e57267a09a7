import UsbHost.Text.CaseBlind
import UsbHost.Text.Natural

/-!
# Log levels

A level is written by its number, `1` for the most severe, or by its name in any mixture of cases.
Nothing is trimmed, and `off` names no level.
-/

set_option autoImplicit false

namespace UsbHost

/-- The severity of a log line, from the most to the least severe. -/
inductive Level where
  | error
  | warn
  | info
  | debug
  | trace
  deriving DecidableEq, Repr

namespace Level

/-- The name under which a level stands in log lines. -/
def name : Level → String
  | error => "ERROR"
  | warn => "WARN"
  | info => "INFO"
  | debug => "DEBUG"
  | trace => "TRACE"

/-- The number of a level; a larger number is less severe. -/
def number : Level → Nat
  | error => 1
  | warn => 2
  | info => 3
  | debug => 4
  | trace => 5

/-- All levels, from the most severe on. -/
def all : List Level := [error, warn, info, debug, trace]

/-- The level of a number, `1` to `5`. -/
def ofNumber? (n : Nat) : Option Level :=
  all.find? fun level => level.number == n

/-- The level of a name, in any mixture of cases. -/
def ofName? (text : String) : Option Level :=
  all.find? fun level => Text.equalIgnoringCase level.name text

/-- Reads a level from its number or its name. -/
def ofText? (text : String) : Option Level :=
  match Text.word? text with
  | some n => ofNumber? n
  | none => ofName? text

/-- Every level is found again under its number. -/
theorem ofNumber?_number (level : Level) : ofNumber? level.number = some level := by
  cases level <;> rfl

end Level

end UsbHost
