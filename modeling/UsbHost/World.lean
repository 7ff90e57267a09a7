import UsbHost.NativeApi
import UsbHost.Log
import UsbHost.Policy

/-!
# Calling the native library

Resources work on the world: the bus and the log. Every native call that can fail is made through
`Library.invoke`: a negative return value is logged once, at the level of the policy that governs
the call, and then either raised or passed over. Nothing else logs a failure.

An operation that raises keeps the world as the failed call left it.
-/

set_option autoImplicit false

namespace UsbHost

structure World where
  bus : Bus := {}
  log : Log := []

/-- An operation on the world that may raise a native failure. -/
abbrev Usb (α : Type) := EStateM UsbError World α

/-- What every resource carries: the native library's texts for its codes, and the policies that
say how failed calls are reported. -/
structure Library where
  describe : Int → String := describeCode
  policies : Policies := {}

namespace World

def emit (world : World) (event : Event) : World :=
  { world with log := world.log ++ [event] }

def note (world : World) (level : Level) (notice : Notice) : World :=
  world.emit (.note level notice)

def call (world : World) (native : Bus → Bus) : World :=
  { world with bus := native world.bus }

def ask {α : Type} (world : World) (native : Bus → α × Bus) : α × World :=
  let (answer, bus) := native world.bus
  (answer, { world with bus })

end World

namespace Usb

def debug (notice : Notice) : Usb Unit :=
  modify (·.note .debug notice)

def lift {α : Type} (operation : World → α × World) : Usb α :=
  modifyGet operation

end Usb

namespace Library

/-- The event that reports the failure `code` of a call. -/
def failureEvent (library : Library) (policy : CallPolicy) (site function : String) (code : Int) :
    Event :=
  .failure policy.level site function code (library.describe code)

/-- The failure `code` as it is raised. -/
def failure (library : Library) (code : Int) : UsbError :=
  { code, message := library.describe code }

/-- What is logged when a call answers `returned`. -/
def failureLog (library : Library) (policy : CallPolicy) (site function : String)
    (returned : Int) : Log :=
  ((failureCode returned).map (library.failureEvent policy site function)).toList

/-- What is raised when a call answers `returned`. -/
def raised? (library : Library) (policy : CallPolicy) (returned : Int) : Option UsbError :=
  if policy.raise then (failureCode returned).map library.failure else none

/-- Makes a native call and logs its failure, without raising it. -/
def attempt {α : Type} (library : Library) (policy : CallPolicy) (site : String)
    (function : NativeFunction) (native : Bus → Reply α × Bus) (world : World) :
    Reply α × World :=
  let (reply, world) := world.ask native
  (reply,
    { world with log := world.log ++ library.failureLog policy site function.name reply.code })

/-- Makes a native call on behalf of the operation `site`, logs its failure, and raises it if the
policy says so. Under a policy that does not raise the caller gets the negative code. -/
def invoke {α : Type} (library : Library) (policy : CallPolicy) (site : String)
    (function : NativeFunction) (native : Bus → Reply α × Bus) : Usb (Reply α) := do
  let reply ← Usb.lift (library.attempt policy site function native)
  match library.raised? policy reply.code with
  | some error => throw error
  | none => return reply

end Library

end UsbHost
