import UsbHost.Session.Basic

/-!
# Native calls made by a client

A client may call the native library past all resources. Arrays and records that such a call
allocates are held under names, so that a later call can free them. A call that writes no pointer
leaves what is held under the name as it is.
-/

set_option autoImplicit false

namespace UsbHost

variable [NativeApi]

inductive NativeStep where
  | describe (code : Int)
  | call (call : NativeCall)
  /-- Enumerates the devices and holds the array. -/
  | enumerate (context : Address) (held : String)
  /-- Reads a configuration record and holds it. -/
  | readConfig (device : Address) (index : UInt8) (held : String)
  | freeHeldArray (held : String) (unref : Int)
  | freeHeldRecord (held : String)
  deriving DecidableEq, Repr

def Slots.hold {α : Type} (slots : Slots α) (name : String) (written : Option α) : Slots α :=
  written.elim slots (slots.put name)

namespace NativeStep

def direct (session : Session) (call : NativeCall) : Session.Ended :=
  session.run (fun world => world.ask call.perform) fun answer session =>
    session.answer (.native answer)

def perform (step : NativeStep) (session : Session) : Session.Ended :=
  match step with
  | .describe code => session.answer (.text (session.library.describe code))
  | .call request => direct session request
  | .enumerate context held =>
    session.run (fun world => world.ask (NativeApi.getDeviceList context)) fun reply session =>
      { session with heldArrays := session.heldArrays.hold held reply.out }.answer
        (.native (.array reply))
  | .readConfig device index held =>
    session.run (fun world => world.ask (NativeApi.getConfigDescriptor device index))
      fun reply session =>
        { session with heldRecords := session.heldRecords.hold held reply.out }.answer
          (.native (.config reply))
  | .freeHeldArray held unref =>
    session.withSlot (session.heldArrays.get? held) fun array =>
      direct { session with heldArrays := session.heldArrays.remove held }
        (.freeDeviceList (.block array.block) unref)
  | .freeHeldRecord held =>
    session.withSlot (session.heldRecords.get? held) fun pointer =>
      direct { session with heldRecords := session.heldRecords.remove held }
        (.freeConfigDescriptor pointer.ref)

end NativeStep

end UsbHost
