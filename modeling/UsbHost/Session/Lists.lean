import UsbHost.Session.Basic

/-!
# Steps on device lists
-/

set_option autoImplicit false

namespace UsbHost

variable [NativeApi]

inductive ListStep where
  | enumerate (target context : String)
  | look (list : String)
  | get (list : String) (index : Nat)
  | entryAt (list : String) (index : Nat)
  /-- The index operator, which stops the client behind the end of the entries. -/
  | index (list : String) (index : Nat)
  | device (list : String) (index : Nat) (target : String)
  /-- Makes a device of every entry and stores them under `stem` followed by a number. -/
  | devices (list stem : String) (backwards : Bool)
  | find (list path target : String)
  deriving DecidableEq, Repr

namespace ListStep

/-- Stores devices under numbered names. -/
def storeNumbered (stem : String) (session : Session) (devices : List Device) : Session :=
  devices.zipIdx.foldl
    (fun session entry => session.store (stem ++ toString entry.2) (.device entry.1)) session

def perform (step : ListStep) (session : Session) : Session.Ended :=
  match step with
  | .enumerate target context =>
    session.withSlot (session.resources.context? context) fun context =>
      session.perform (DeviceList.enumerate context) fun list =>
        Session.storing target (.list list)
  | .look name =>
    session.withSlot (session.resources.list? name) fun list => session.answer (.list list)
  | .get name position =>
    session.withSlot (session.resources.list? name) fun list =>
      session.answer (.address (list.get? position))
  | .entryAt name position =>
    session.withSlot (session.resources.list? name) fun list =>
      match list.entryAt position with
      | .ok raw => session.answer (.address (some raw))
      | .error access => (.refused (.outOfRange access), session)
  | .index name position =>
    session.withSlot (session.resources.list? name) fun list =>
      match list.get? position with
      | some raw => session.answer (.address (some raw))
      | none => (.refused (.indexOutOfBounds list.entries.length position), session)
  | .device name position target =>
    session.withSlot (session.resources.list? name) fun list =>
      session.run (list.device? position) fun device session =>
        match device with
        | some device => (session.store target (.device device)).answer (.flag true)
        | none => session.answer (.flag false)
  | .devices name stem backwards =>
    session.withSlot (session.resources.list? name) fun list =>
      session.run (list.devices backwards) fun devices session =>
        (storeNumbered stem session devices).answer (.addresses (devices.map Device.raw))
  | .find name path target =>
    session.withSlot (session.resources.list? name) fun list =>
      session.run (list.findByPath path) fun device session =>
        match device with
        | some device =>
          (session.store target (.device device)).answer (.address (some device.raw))
        | none => session.answer (.address none)

end ListStep

end UsbHost
