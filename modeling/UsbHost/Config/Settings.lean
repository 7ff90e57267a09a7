import UsbHost.Policy
import UsbHost.Text.Blank

/-!
# Settings

Every setting has a default, so that an empty document yields a working configuration. Levels are
kept as the text that was given; they are read where they are needed, and validation says in
advance whether that will succeed.
-/

set_option autoImplicit false

namespace UsbHost

/-- What is logged, and whether a line names where it came from. -/
structure LoggingSettings where
  level : String := "info"
  withTarget : Bool := true
  deriving DecidableEq, Repr

/-- The levels at which failed native calls are logged: failures that reach the caller, releases
during teardown, and queries that answer with a default. -/
structure CallSettings where
  failureLevel : String := "error"
  cleanupLevel : String := "error"
  queryLevel : String := "error"
  deriving DecidableEq, Repr

structure Config where
  logging : LoggingSettings := {}
  calls : CallSettings := {}
  deriving DecidableEq, Repr

inductive CallField where
  | failure
  | cleanup
  | query
  deriving DecidableEq, Repr

def CallField.path : CallField → String
  | failure => "calls.failure_level"
  | cleanup => "calls.cleanup_level"
  | query => "calls.query_level"

/-- A level of the call settings that cannot be read. -/
structure InvalidLevel where
  field : CallField
  text : String
  deriving DecidableEq, Repr

def configurationError (reason : String) : String :=
  "Configuration error: " ++ reason

/-- Which level cannot be read, and what stands there. -/
def InvalidLevel.message (invalid : InvalidLevel) : String :=
  invalid.field.path ++ ": invalid log level '" ++ invalid.text ++ "'"

namespace CallSettings

def text (settings : CallSettings) : CallField → String
  | .failure => settings.failureLevel
  | .cleanup => settings.cleanupLevel
  | .query => settings.queryLevel

def level (settings : CallSettings) (field : CallField) : Except InvalidLevel Level :=
  match Level.ofText? (settings.text field) with
  | some level => .ok level
  | none => .error { field, text := settings.text field }

end CallSettings

/-- The policies with the configured levels: ordinary failures are raised, the others are not.
The first level that cannot be read is the error. -/
def Policies.ofSettings (settings : CallSettings) : Except InvalidLevel Policies := do
  let failure ← settings.level .failure
  let cleanup ← settings.level .cleanup
  let query ← settings.level .query
  return {
    call := CallPolicy.raising.withLevel failure
    cleanup := CallPolicy.logOnly.withLevel cleanup
    query := CallPolicy.logOnly.withLevel query }

inductive InvalidConfig where
  | blankLoggingLevel
  | level (invalid : InvalidLevel)
  deriving DecidableEq, Repr

def InvalidConfig.message : InvalidConfig → String
  | blankLoggingLevel => "logging.level must not be empty"
  | level invalid => invalid.message

/-- Checks the logging level for blankness and then each level of the calls, in the order in which
the settings list them. -/
def Config.validate (config : Config) : Except InvalidConfig Unit := do
  if Text.isBlank config.logging.level then
    throw .blankLoggingLevel
  for field in [CallField.failure, CallField.cleanup, CallField.query] do
    let _ ← (config.calls.level field).mapError InvalidConfig.level

end UsbHost
