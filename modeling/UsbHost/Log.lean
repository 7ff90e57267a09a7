import UsbHost.Level

/-!
# The log

A log is the list of its events in the order in which they were emitted. The failure of a native
call is an event of its own kind, which keeps where and how the call failed. Every event comes from
a part of the program.
-/

set_option autoImplicit false

namespace UsbHost

/-- A part of the program that emits events. -/
inductive Part where
  | configuration
  | context
  | deviceList
  | device
  | handle
  /-- Where native calls are checked. -/
  | invocation
  deriving DecidableEq, Repr

/-- The name by which a part goes in a log. -/
def Part.target : Part → String
  | configuration => "common::config"
  | context => "scoped_usb::context"
  | deviceList => "scoped_usb::device_list"
  | device => "scoped_usb::device"
  | handle => "scoped_usb::handle"
  | invocation => "scoped_usb::invoke"

/-- A line of free text, and the part of the program that it comes from. -/
structure Notice where
  part : Part
  text : String
  deriving DecidableEq, Repr

inductive Event where
  | note (level : Level) (notice : Notice)
  /-- The failure of the native `function`, called by the operation `site`. -/
  | failure (level : Level) (site function : String) (code : Int) (description : String)
  deriving DecidableEq, Repr

namespace Event

def level : Event → Level
  | note level _ => level
  | failure level _ _ _ _ => level

def message : Event → String
  | note _ notice => notice.text
  | failure _ site function _ description =>
    site ++ " failed " ++ function ++ "(): " ++ description

/-- Every failure is emitted where native calls are checked. -/
def part : Event → Part
  | note _ notice => notice.part
  | failure _ _ _ _ _ => .invocation

/-- Whether the event reports the failure of a native call. -/
def isFailure : Event → Bool
  | note _ _ => false
  | failure _ _ _ _ _ => true

end Event

/-- The events of a run, oldest first. -/
abbrev Log := List Event

namespace Log

def atLevel (log : Log) (level : Level) : Log :=
  log.filter fun event => event.level == level

def count (log : Log) (level : Level) : Nat :=
  (log.atLevel level).length

def messages (log : Log) (level : Level) : List String :=
  (log.atLevel level).map Event.message

end Log

end UsbHost
