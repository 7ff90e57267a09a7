import UsbHost.Config.Error
import UsbHost.Toml.Syntax

/-!
# Reading configurations

A configuration is read from a document with two tables. A missing table or key leaves the default,
an unknown key is passed over, and a value of another type makes the document malformed.

Instead of a table there may be an array, which gives the settings in their order, or a date or
time, which gives none of them.
-/

set_option autoImplicit false

namespace UsbHost

/-- Access to the settings of a group by position and name: a table gives them by name, an array by
position, and a date or time gives none. -/
def Toml.Value.settings? : Toml.Value → Option (Nat → String → Option Toml.Value)
  | .table _ entries => some fun _ name => Toml.Entries.get? entries name
  | .array items => some fun position _ => items[position]?
  | .tables elements => some fun position _ => (elements[position]?).map (Toml.Value.table .defined)
  | .moment => some fun _ _ => none
  | _ => none

/-- A text, or the default where there is no value. -/
def textOr (default : String) : Option Toml.Value → Option String
  | none => some default
  | some (.text value) => some value
  | some _ => none

/-- A truth value, or the default where there is no value. -/
def flagOr (default : Bool) : Option Toml.Value → Option Bool
  | none => some default
  | some (.flag value) => some value
  | some _ => none

/-- A group of settings, or the default where there is no value. -/
def groupOr {α : Type} (default : α) (read? : Toml.Value → Option α) :
    Option Toml.Value → Option α
  | none => some default
  | some value => read? value

def LoggingSettings.ofValue? (value : Toml.Value) : Option LoggingSettings := do
  let default : LoggingSettings := {}
  let setting ← value.settings?
  let level ← textOr default.level (setting 0 "level")
  let withTarget ← flagOr default.withTarget (setting 1 "with_target")
  return { level, withTarget }

def CallSettings.ofValue? (value : Toml.Value) : Option CallSettings := do
  let default : CallSettings := {}
  let setting ← value.settings?
  let failureLevel ← textOr default.failureLevel (setting 0 "failure_level")
  let cleanupLevel ← textOr default.cleanupLevel (setting 1 "cleanup_level")
  let queryLevel ← textOr default.queryLevel (setting 2 "query_level")
  return { failureLevel, cleanupLevel, queryLevel }

namespace Config

def ofDocument? (document : Toml.Entries) : Option Config := do
  let logging ← groupOr {} LoggingSettings.ofValue? (document.get? "logging")
  let calls ← groupOr {} CallSettings.ofValue? (document.get? "calls")
  return { logging, calls }

/-- The configuration that a text describes, whether it is valid or not. -/
def ofText? (text : String) : Option Config := do
  let document ← Toml.read? text
  ofDocument? document

def read (text : String) : Except ConfigError Config :=
  match ofText? text with
  | none => .error .malformed
  | some config =>
    match config.validate with
    | .error reason => .error (.invalid reason)
    | .ok () => .ok config

end Config

end UsbHost
