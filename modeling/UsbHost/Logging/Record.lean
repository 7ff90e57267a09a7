import UsbHost.Log
import UsbHost.Text.Quoted

/-!
# What a logger is given

A logger is given a record of each event: the target that the event comes from, its level, and its
fields, of which the message is one. The failure of a native call has further fields for the
operation, the native function, the code, and the place in the program at which the operation makes
the call.
-/

set_option autoImplicit false

namespace UsbHost

namespace Logging

structure Record where
  target : String
  level : Level
  /-- The names of the fields, each with its value as it is printed. -/
  fields : List (String × String)
  deriving DecidableEq, Repr

/-- The place in the program at which an operation makes a native call, as it is printed. -/
abbrev CallPlaces := (site function : String) → String

end Logging

namespace Event

/-- The fields of an event besides its message. -/
def details (places : Logging.CallPlaces) : Event → List (String × String)
  | note _ _ => []
  | failure _ site function code _ =>
    [("site", Text.quoted site), ("function", Text.quoted function), ("code", toString code),
      ("location", places site function)]

/-- What a logger is given of an event. -/
def record (places : Logging.CallPlaces) (event : Event) : Logging.Record where
  target := event.part.target
  level := event.level
  fields := ("message", event.message) :: event.details places

end Event

end UsbHost
