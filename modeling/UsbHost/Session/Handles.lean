import UsbHost.Session.Basic

/-!
# Steps on handles
-/

set_option autoImplicit false

namespace UsbHost

variable [NativeApi]

/-- A step on a handle. A step that may take an explicit policy uses the handle's own without. -/
inductive HandleStep where
  | empty (target : String)
  | adopt (target : String) (raw : Address)
  | wrap (target context : String) (systemHandle : Int)
  | look (handle : String)
  | isClaimed (handle : String) (interface : UInt8)
  | claim (handle : String) (interface : UInt8)
  | unclaim (handle : String) (interface : UInt8)
  | setConfiguration (handle : String) (value : Int)
  | configuration (handle : String) (policy : Option CallPolicy)
  | configurationOrDefault (handle : String)
  | autoDetach (handle : String) (enable : Bool) (policy : Option CallPolicy)
  | device (handle target : String)
  | reset (handle : String) (raw : Address)
  | close (handle : String)
  | release (handle : String)
  deriving DecidableEq, Repr

namespace HandleStep

/-- Performs a step that changes which interfaces are claimed, and shows them afterwards. -/
def onClaims (session : Session) (name : String) (handle : Handle) (operation : Usb Handle) :
    Session.Ended :=
  match operation session.world with
  | .ok handle world =>
    ({ result := .ok .done, claimed := some handle.claimed },
      session.update name (.handle handle) world)
  | .error error world =>
    ({ result := .error (.usb error), claimed := some handle.claimed }, { session with world })

def perform (step : HandleStep) (session : Session) : Session.Ended :=
  match step with
  | .empty target => session.storing target (.handle (.empty session.library))
  | .adopt target raw => session.storing target (.handle (.ofRaw session.library raw.owned?))
  | .wrap target context systemHandle =>
    session.withSlot (session.resources.context? context) fun context =>
      session.perform (Handle.wrapSystemDevice context systemHandle) fun handle =>
        Session.storing target (.handle handle)
  | .look name =>
    session.withSlot (session.resources.handle? name) fun handle =>
      session.answer (.handle handle (session.world.bus.claims handle.raw))
  | .isClaimed name interface =>
    session.withSlot (session.resources.handle? name) fun handle =>
      session.answer (.flag (handle.isClaimed interface))
  | .claim name interface =>
    session.withSlot (session.resources.handle? name) fun handle =>
      onClaims session name handle (handle.claimInterface interface)
  | .unclaim name interface =>
    session.withSlot (session.resources.handle? name) fun handle =>
      onClaims session name handle (handle.releaseInterface interface)
  | .setConfiguration name value =>
    session.withSlot (session.resources.handle? name) fun handle =>
      session.perform (handle.setConfiguration value) fun _ session => session.answer .done
  | .configuration name policy =>
    session.withSlot (session.resources.handle? name) fun handle =>
      let operation := match policy with
        | some policy => handle.configurationWith policy
        | none => handle.configuration
      session.perform operation fun value session => session.answer (.integer value)
  | .configurationOrDefault name =>
    session.withSlot (session.resources.handle? name) fun handle =>
      session.run handle.configurationOrDefault fun value session =>
        session.answer (.integer value)
  | .autoDetach name enable policy =>
    session.withSlot (session.resources.handle? name) fun handle =>
      let operation := match policy with
        | some policy => handle.setAutoDetachWith policy enable
        | none => handle.setAutoDetach enable
      session.perform operation fun _ session => session.answer .done
  | .device name target =>
    session.withSlot (session.resources.handle? name) fun handle =>
      session.perform handle.device fun device => Session.storing target (.device device)
  | .reset name raw =>
    session.withSlot (session.resources.handle? name) fun handle =>
      let (handle, world) := handle.reset raw session.world
      (session.update name (.handle handle) world).answer .done
  | .close name =>
    session.withSlot (session.resources.handle? name) fun handle =>
      let (handle, world) := handle.close session.world
      (session.update name (.handle handle) world).answer .done
  | .release name =>
    session.withSlot (session.resources.handle? name) fun handle =>
      let (raw, handle) := handle.release
      (session.update name (.handle handle) session.world).answer (.address raw)

end HandleStep

end UsbHost
