import UsbHost.Handle

/-!
# Devices

What can be asked of a device: opening it, its descriptors, and its position on the bus. Several
values may name the same device, each with a reference of its own.

Reading from a device needs a raw device; a value that names none refuses with an invalid
parameter, without any native call. Bus number and address read as zero then.
-/

set_option autoImplicit false

namespace UsbHost

variable [NativeApi]

/-- How many ports there can be between a root hub and a device. -/
def maxPortNumbers : Nat := 7

namespace Device

/-- The raw device, or the refusal of a value that names none. -/
def requireRaw (device : Device) : Usb Address :=
  match device.owner.raw with
  | some raw => return raw
  | none => throw (.ofKind .invalidParam)

/-- Another value for the same device, with a reference of its own. -/
def clone (device : Device) (world : World) : Device × World :=
  ofRaw device.library device.raw world

/-- Names `raw` from now on. Its reference is taken before the old one is given back, so that a
device may be reset to itself. -/
def reset (device : Device) (raw : Address) (world : World) : Device × World :=
  let (owner, world) := device.owner.reset disposal (referenced raw world).owned?
    (takeReference raw world)
  ({ device with owner }, world)

/-- Gives the reference up without giving it back. -/
def release (device : Device) : Option Address × Device :=
  let (raw, owner) := device.owner.release
  (raw, { device with owner })

def openHandle (device : Device) : Usb Handle := do
  let raw ← device.requireRaw
  let reply ← device.library.invoke device.library.policies.call "UsbDevice::open" .openDevice
    (NativeApi.openDevice raw)
  Usb.debug
    ⟨.device, "Opened device " ++ Text.hex raw ++ " as handle " ++ Text.hex (reply.out.getD 0)⟩
  return Handle.ofRaw device.library reply.out

/-- Reads the descriptor of configuration `index` under an explicit policy. Where the policy does
not raise, a failed call makes an empty descriptor. -/
def configDescriptorWith (device : Device) (policy : CallPolicy) (index : UInt8) :
    Usb ConfigDescriptor := do
  let raw ← device.requireRaw
  let reply ← device.library.invoke policy "UsbDevice::config_descriptor" .getConfigDescriptor
    (NativeApi.getConfigDescriptor raw index)
  if reply.code < 0 then
    return .empty device.library
  else
    return .ofRaw device.library reply.out

/-- Reads the descriptor of configuration `index`. -/
def configDescriptor (device : Device) (index : UInt8) : Usb ConfigDescriptor :=
  device.configDescriptorWith device.library.policies.call index

/-- Reads the device descriptor under an explicit policy. Where the policy does not raise, a
failed call makes the descriptor of zeros. -/
def descriptorWith (device : Device) (policy : CallPolicy) : Usb DeviceDescriptor := do
  let raw ← device.requireRaw
  let reply ← device.library.invoke policy "UsbDevice::device_descriptor" .getDeviceDescriptor
    (NativeApi.getDeviceDescriptor raw)
  return .ofRecord (reply.out.getD {})

def descriptor (device : Device) : Usb DeviceDescriptor :=
  device.descriptorWith device.library.policies.call

/-- Reads the device descriptor under the query policy; zeros if that fails. -/
def descriptorOrDefault (device : Device) (world : World) : DeviceDescriptor × World :=
  match device.descriptorWith device.library.policies.query.quiet world with
  | .ok descriptor world => (descriptor, world)
  | .error _ world => ({}, world)

/-- The bus number; zero for a value that names no device. -/
def busNumber (device : Device) (world : World) : UInt8 × World :=
  match device.owner.raw with
  | some raw => world.ask (NativeApi.getBusNumber raw)
  | none => (0, world)

/-- The address on the bus; zero for a value that names no device. -/
def address (device : Device) (world : World) : UInt8 × World :=
  match device.owner.raw with
  | some raw => world.ask (NativeApi.getDeviceAddress raw)
  | none => (0, world)

/-- How many ports a call reports: its return value, read as a 64-bit word, but at most the size
of the buffer. -/
def reportedPorts (code : Int) : Nat :=
  min (code % UInt64.size).toNat maxPortNumbers

/-- The ports from the root hub down to the device. -/
def portNumbers (device : Device) : Usb (List UInt8) := do
  let raw ← device.requireRaw
  let reply ← device.library.invoke device.library.policies.call "UsbDevice::port_numbers"
    .getPortNumbers (NativeApi.getPortNumbers raw maxPortNumbers)
  return (writtenBuffer maxPortNumbers reply.out).take (reportedPorts reply.code)

/-- The text of a position: the bus and each port, separated by dots. No ports are written as
one port zero. -/
def pathText (bus : UInt8) (ports : List UInt8) : String :=
  let ports := if ports.isEmpty then [0] else ports
  ports.foldl (fun path port => path ++ "." ++ toString port.toNat) (toString bus.toNat)

def path (device : Device) : Usb String := do
  let ports ← device.portNumbers
  let bus ← Usb.lift device.busNumber
  return pathText bus ports

end Device

end UsbHost
