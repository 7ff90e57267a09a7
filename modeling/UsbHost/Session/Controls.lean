import UsbHost.Session.Basic

/-!
# Steps on the bus and the log

What is done to the bus from outside, and what can be read off the bus and the log. Entry points
are given by name; a name that is none is called by nobody and fails for nobody.
-/

set_option autoImplicit false

namespace UsbHost

inductive ControlStep where
  | attach (info : DeviceInfo)
  /-- Plugs the same device in several times; a negative count is none. -/
  | attachMany (count : Int) (info : DeviceInfo)
  | fail (function : String) (code : Int)
  | failReleaseOf (interface : UInt8) (code : Int)
  | clearFailures
  | references (device : Address)
  | claims (handle : Address)
  | countCalls (function : String)
  | callArguments (function : String)
  | misuseCount
  | logCount (level : Level)
  | logMessages (level : Level)
  deriving DecidableEq, Repr

namespace Bus

/-- Plugs the same device in several times and answers the address of the last one, null if the
device is not plugged in at all. -/
def attachMany (info : DeviceInfo) : Nat → Bus → Address × Bus
  | 0, bus => (0, bus)
  | 1, bus => bus.attach info
  | count + 1, bus => attachMany info count (bus.attach info).2

end Bus

namespace ControlStep

def perform (step : ControlStep) (session : Session) : Session.Ended :=
  let bus := session.world.bus
  let onBus (bus : Bus) : Session := { session with world := { session.world with bus } }
  match step with
  | .attach info =>
    let (id, bus) := bus.attach info
    (onBus bus).answer (.address (some id))
  | .attachMany count info =>
    let (id, bus) := bus.attachMany info count.toNat
    (onBus bus).answer (.address (some id))
  | .fail name code =>
    match NativeFunction.ofName? name with
    | some function => (onBus (bus.fail function code)).answer .done
    | none => session.answer .done
  | .failReleaseOf interface code => (onBus (bus.failReleaseOf interface code)).answer .done
  | .clearFailures => (onBus bus.clearFailures).answer .done
  | .references device => session.answer (.count (bus.references device))
  | .claims handle => session.answer (.integers (bus.claims handle))
  | .countCalls name =>
    session.answer (.count ((NativeFunction.ofName? name).elim 0 bus.countCalls))
  | .callArguments name =>
    session.answer (.arguments ((NativeFunction.ofName? name).elim [] bus.callArguments))
  | .misuseCount => session.answer (.count bus.misuse.length)
  | .logCount level => session.answer (.count (session.world.log.count level))
  | .logMessages level => session.answer (.texts (session.world.log.messages level))

end ControlStep

end UsbHost
