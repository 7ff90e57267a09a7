import UsbHost.World
import UsbHost.Owner.Basic
import UsbHost.Config.Settings

/-!
# Contexts

A context owns one initialisation of the native library and ends it once. Everything derived from
a context carries the context's policies.
-/

set_option autoImplicit false

namespace UsbHost

variable [NativeApi]

structure Context where
  library : Library
  owner : Owner Address := .empty

/-- Why no context could be made from settings. -/
inductive SetupError where
  | settings (invalid : InvalidLevel)
  | usb (error : UsbError)
  deriving DecidableEq, Repr

def SetupError.message : SetupError → String
  | settings invalid => configurationError invalid.message
  | usb error => error.display

namespace Context

def disposal (raw : Address) (world : World) : World :=
  (world.call (NativeApi.exitLibrary raw)).note .debug
    ⟨.context, "Closed USB context " ++ Text.hex raw⟩

def start (library : Library) : Usb Context := do
  let reply ← library.invoke library.policies.call "UsbContext::new" .initLibrary
    NativeApi.initLibrary
  Usb.debug ⟨.context, "Initialised USB context " ++ Text.hex (reply.out.getD 0)⟩
  return { library, owner := .ofRaw reply.out }

/-- Initialises the native library with the policies that the settings describe. Settings with an
unreadable level are refused before any native call is made. -/
def startWithSettings (describe : Int → String) (settings : CallSettings) (world : World) :
    Except SetupError Context × World :=
  match Policies.ofSettings settings with
  | .error invalid => (.error (.settings invalid), world)
  | .ok policies =>
    match start { describe, policies } world with
    | .ok context world => (.ok context, world)
    | .error error world => (.error (.usb error), world)

def empty (library : Library) : Context := { library }

/-- Takes a native context over; null makes an empty one. -/
def ofRaw (library : Library) (raw : Address) : Context :=
  { library, owner := .ofRaw raw.owned? }

/-- The native context, null if there is none. -/
def raw (context : Context) : Address := context.owner.raw.getD 0

/-- Whether nothing is owned. -/
def isEmpty (context : Context) : Bool := context.owner.isEmpty

/-- Ends the owned context after taking `raw` over. -/
def reset (context : Context) (raw : Address) (world : World) : Context × World :=
  let (owner, world) := context.owner.reset disposal raw.owned? world
  ({ context with owner }, world)

/-- Gives the native context up without ending it. -/
def release (context : Context) : Option Address × Context :=
  let (raw, owner) := context.owner.release
  (raw, { context with owner })

def drop (context : Context) (world : World) : World :=
  context.owner.drop disposal world

def inspect (context : Context) : Inspect :=
  .record "UsbContext" [("inner", context.owner.inspect)]

end Context

end UsbHost
