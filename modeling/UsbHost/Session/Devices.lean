import UsbHost.Session.Basic

/-!
# Steps on devices
-/

set_option autoImplicit false

namespace UsbHost

variable [NativeApi]

/-- A step on a device. A step that may take an explicit policy uses the device's own without. -/
inductive DeviceStep where
  | empty (target : String)
  /-- Takes a reference to `raw`, with the policies of a context if one is named. -/
  | adopt (target : String) (raw : Address) (context : Option String)
  | look (device : String)
  | clone (device target : String)
  | reset (device : String) (raw : Address)
  | release (device : String)
  | openHandle (device target : String)
  | config (device : String) (index : UInt8) (target : String) (policy : Option CallPolicy)
  | descriptor (device : String) (policy : Option CallPolicy)
  | descriptorOrDefault (device : String)
  | busNumber (device : String)
  | address (device : String)
  | ports (device : String)
  | path (device : String)
  deriving DecidableEq, Repr

namespace DeviceStep

def perform (step : DeviceStep) (session : Session) : Session.Ended :=
  match step with
  | .empty target => session.storing target (.device (.empty session.library))
  | .adopt target raw none =>
    session.run (Device.ofRaw session.library raw) fun device =>
      Session.storing target (.device device)
  | .adopt target raw (some context) =>
    session.withSlot (session.resources.context? context) fun context =>
      session.run (Device.ofRaw context.library raw) fun device =>
        Session.storing target (.device device)
  | .look name =>
    session.withSlot (session.resources.device? name) fun device => session.answer (.device device)
  | .clone name target =>
    session.withSlot (session.resources.device? name) fun device =>
      session.run device.clone fun device => Session.storing target (.device device)
  | .reset name raw =>
    session.withSlot (session.resources.device? name) fun device =>
      let (device, world) := device.reset raw session.world
      (session.update name (.device device) world).answer .done
  | .release name =>
    session.withSlot (session.resources.device? name) fun device =>
      let (raw, device) := device.release
      (session.update name (.device device) session.world).answer (.address raw)
  | .openHandle name target =>
    session.withSlot (session.resources.device? name) fun device =>
      session.perform device.openHandle fun handle => Session.storing target (.handle handle)
  | .config name index target policy =>
    session.withSlot (session.resources.device? name) fun device =>
      let operation := match policy with
        | some policy => device.configDescriptorWith policy index
        | none => device.configDescriptor index
      session.perform operation fun descriptor => Session.storing target (.descriptor descriptor)
  | .descriptor name policy =>
    session.withSlot (session.resources.device? name) fun device =>
      let operation := match policy with
        | some policy => device.descriptorWith policy
        | none => device.descriptor
      session.perform operation fun descriptor session =>
        session.answer (.deviceDescriptor descriptor)
  | .descriptorOrDefault name =>
    session.withSlot (session.resources.device? name) fun device =>
      session.run device.descriptorOrDefault fun descriptor session =>
        session.answer (.deviceDescriptor descriptor)
  | .busNumber name =>
    session.withSlot (session.resources.device? name) fun device =>
      session.run device.busNumber fun number session => session.answer (.count number.toNat)
  | .address name =>
    session.withSlot (session.resources.device? name) fun device =>
      session.run device.address fun number session => session.answer (.count number.toNat)
  | .ports name =>
    session.withSlot (session.resources.device? name) fun device =>
      session.perform device.portNumbers fun ports session => session.answer (.bytes ports)
  | .path name =>
    session.withSlot (session.resources.device? name) fun device =>
      session.perform device.path fun path session => session.answer (.text path)

end DeviceStep

end UsbHost
