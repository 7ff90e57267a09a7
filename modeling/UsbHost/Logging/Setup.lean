import UsbHost.Config.Settings
import UsbHost.Logging.Filter

/-!
# Setting up logging

A process has at most one logger, and the first one that is installed stays. A filter from the
environment takes the place of the configured one if it can be read, and is passed over if it
cannot. The logger prints the events that its filter shows, each on a line of its own.
-/

set_option autoImplicit false

namespace UsbHost.Logging

structure Logger where
  filter : Filter
  withTarget : Bool
  deriving DecidableEq, Repr

/-- A level, filled up with blanks on the left to the width of the longest. -/
def paddedName (level : Level) : String :=
  String.ofList (List.replicate (5 - level.name.length) ' ') ++ level.name

namespace Logger

/-- A field as it is printed. The message stands without its name. -/
def fieldText : String × String → String
  | ("message", text) => text
  | (name, value) => name ++ "=" ++ value

/-- The line that is printed of a record, without the time. -/
def line (logger : Logger) (record : Record) : String :=
  paddedName record.level ++ " " ++ (if logger.withTarget then record.target ++ ": " else "") ++
    String.intercalate " " (record.fields.map fieldText)

/-- The line that is printed of a record, if it is shown. -/
def print? (logger : Logger) (record : Record) : Option String :=
  if logger.filter.shows record then some (logger.line record) else none

/-- The line that is printed of a message alone, if it is shown. -/
def line? (logger : Logger) (target : String) (level : Level) (message : String) :
    Option String :=
  logger.print? { target, level, fields := [("message", message)] }

/-- The lines that are printed of the events of a log. -/
def printed (logger : Logger) (places : CallPlaces) (log : Log) : List String :=
  log.filterMap fun event => logger.print? (event.record places)

end Logger

/-- Why logging could not be set up. -/
inductive SetupError where
  | filter (error : FilterError)
  | alreadyInstalled
  deriving DecidableEq, Repr

def SetupError.message : SetupError → String
  | filter error => configurationError ("Invalid log filter: " ++ error.message)
  | alreadyInstalled => "Logging error: a global default trace dispatcher has already been set"

/-- The filter that counts: the one from the environment if it can be read, the configured one
otherwise. -/
def chooseFilter (fromEnvironment : Option String) (settings : LoggingSettings) :
    Except FilterError Filter :=
  match fromEnvironment.map Filter.read with
  | some (.ok filter) => .ok filter
  | _ => Filter.read settings.level

/-- Installs a logger unless there is one. A filter that cannot be read is reported in either
case. -/
def setup (fromEnvironment : Option String) (settings : LoggingSettings)
    (installed : Option Logger) : Except SetupError Unit × Option Logger :=
  match chooseFilter fromEnvironment settings with
  | .error error => (.error (.filter error), installed)
  | .ok filter =>
    match installed with
    | some logger => (.error .alreadyInstalled, some logger)
    | none => (.ok (), some { filter, withTarget := settings.withTarget })

/-- Sets logging up several times, and says how each went and what is installed in the end. -/
def setupAll (fromEnvironment : Option String) :
    List LoggingSettings → Option Logger → List (Except SetupError Unit) × Option Logger
  | [], installed => ([], installed)
  | settings :: rest, installed =>
    let (result, installed) := setup fromEnvironment settings installed
    let (results, installed) := setupAll fromEnvironment rest installed
    (result :: results, installed)

/-- What a process does as far as its logger is concerned. -/
inductive Moment where
  | setUp (settings : LoggingSettings)
  | emits (log : Log)

/-- The lines that a process prints. Events are printed by the logger that is there when they are
emitted. -/
def output (fromEnvironment : Option String) (places : CallPlaces) :
    List Moment → Option Logger → List String
  | [], _ => []
  | .setUp settings :: rest, installed =>
    output fromEnvironment places rest (setup fromEnvironment settings installed).2
  | .emits log :: rest, installed =>
    installed.elim [] (·.printed places log) ++ output fromEnvironment places rest installed

end UsbHost.Logging
