import UsbHost.Context
import UsbHost.Descriptor
import UsbHost.Device.Basic

/-!
# Handles

A handle owns an open native handle and remembers which interfaces were claimed through it. When
it is closed, reset or dropped, every claimed interface is released in the order of the claims,
whatever each release answers, and then the native handle is closed.

Claiming what is claimed already, and releasing what is not, makes no native call and needs no
native handle. Everything else is refused with an invalid parameter while nothing is owned.
-/

set_option autoImplicit false

namespace UsbHost

variable [NativeApi]

/-- The owner of an open handle, with the interfaces claimed through it in claim order. -/
structure Handle where
  library : Library
  owner : Owner Address := .empty
  claimed : List UInt8 := []

namespace Handle

def disposal (raw : Address) (world : World) : World :=
  (world.call (NativeApi.closeHandle raw)).note .debug
    ⟨.handle, "Closed device handle " ++ Text.hex raw⟩

def empty (library : Library) : Handle := { library }

/-- Takes an open native handle over, with nothing claimed. -/
def ofRaw (library : Library) (raw : Option Address) : Handle :=
  { library, owner := .ofRaw raw }

/-- The native handle, null if there is none. -/
def raw (handle : Handle) : Address := handle.owner.raw.getD 0

/-- Whether nothing is owned. -/
def isEmpty (handle : Handle) : Bool := handle.owner.isEmpty

/-- Whether an interface was claimed through this handle. -/
def isClaimed (handle : Handle) (interface : UInt8) : Bool :=
  handle.claimed.contains interface

/-- The native handle, or the refusal of a handle that owns nothing. -/
def requireRaw (handle : Handle) : Usb Address :=
  match handle.owner.raw with
  | some raw => return raw
  | none => throw (.ofKind .invalidParam)

/-- Opens a handle on what stands behind a platform's own handle. -/
def wrapSystemDevice (context : Context) (systemHandle : Int) : Usb Handle := do
  let reply ← context.library.invoke context.library.policies.call
    "DeviceHandle::wrap_sys_device" .wrapSystemDevice
    (NativeApi.wrapSystemDevice context.raw systemHandle)
  Usb.debug ⟨.handle, "Wrapped system device " ++ toString systemHandle ++ " as handle " ++
    Text.hex (reply.out.getD 0)⟩
  return ofRaw context.library reply.out

def nativeInterface (interface : UInt8) : Int := interface.toNat

def claimInterface (handle : Handle) (interface : UInt8) : Usb Handle := do
  if handle.isClaimed interface then
    return handle
  let raw ← handle.requireRaw
  let _ ← handle.library.invoke handle.library.policies.call "DeviceHandle::claim_interface"
    .claimInterface (NativeApi.claimInterface raw (nativeInterface interface))
  Usb.debug
    ⟨.handle, "Claimed interface " ++ toString interface.toNat ++ " on handle " ++ Text.hex raw⟩
  return { handle with claimed := handle.claimed ++ [interface] }

def releaseInterface (handle : Handle) (interface : UInt8) : Usb Handle := do
  if !handle.isClaimed interface then
    return handle
  let raw ← handle.requireRaw
  let _ ← handle.library.invoke handle.library.policies.call "DeviceHandle::release_interface"
    .releaseInterface (NativeApi.releaseInterface raw (nativeInterface interface))
  Usb.debug
    ⟨.handle, "Released interface " ++ toString interface.toNat ++ " on handle " ++ Text.hex raw⟩
  return { handle with claimed := handle.claimed.erase interface }

def setConfiguration (handle : Handle) (value : Int) : Usb Unit := do
  let raw ← handle.requireRaw
  let _ ← handle.library.invoke handle.library.policies.call "DeviceHandle::set_configuration"
    .setConfiguration (NativeApi.setConfiguration raw value)

/-- Reads the configuration under an explicit policy; where that does not raise, a failed call
reads as zero. -/
def configurationWith (handle : Handle) (policy : CallPolicy) : Usb Int := do
  let raw ← handle.requireRaw
  let reply ← handle.library.invoke policy "DeviceHandle::configuration" .getConfiguration
    (NativeApi.getConfiguration raw)
  return if reply.code < 0 then 0 else reply.out.getD 0

/-- Reads the configuration; zero is an unconfigured device. -/
def configuration (handle : Handle) : Usb Int :=
  handle.configurationWith handle.library.policies.call

/-- Reads the configuration under the query policy; zero if that fails. -/
def configurationOrDefault (handle : Handle) (world : World) : Int × World :=
  match handle.configurationWith handle.library.policies.query.quiet world with
  | .ok value world => (value, world)
  | .error _ world => (0, world)

/-- Switches the automatic detaching of the kernel's driver under an explicit policy. -/
def setAutoDetachWith (handle : Handle) (policy : CallPolicy) (enable : Bool) : Usb Unit := do
  let raw ← handle.requireRaw
  let _ ← handle.library.invoke policy "DeviceHandle::set_auto_detach_kernel_driver"
    .setAutoDetach (NativeApi.setAutoDetach raw (if enable then 1 else 0))

def setAutoDetach (handle : Handle) (enable : Bool) : Usb Unit :=
  handle.setAutoDetachWith handle.library.policies.call enable

/-- The device behind the handle, with a reference of its own. -/
def device (handle : Handle) : Usb Device := do
  let raw ← handle.requireRaw
  let device ← Usb.lift (·.ask (NativeApi.getDevice raw))
  if device = 0 then
    throw (.ofKind .noDevice)
  Usb.lift (Device.ofRaw handle.library device)

/-- Releases one interface during teardown; a failure is only logged. -/
def releaseOne (library : Library) (raw : Address) (world : World) (interface : UInt8) : World :=
  (library.attempt library.policies.cleanup "DeviceHandle::reset" .releaseInterface
    (NativeApi.releaseInterface raw (nativeInterface interface)) world).2

/-- Releases all claimed interfaces, in the order of their claims. -/
def releaseClaimed (handle : Handle) (world : World) : World :=
  match handle.owner.raw with
  | some raw => handle.claimed.foldl (releaseOne handle.library raw) world
  | none => world

/-- Releases all claimed interfaces, closes the native handle and takes `raw` over. -/
def reset (handle : Handle) (raw : Address) (world : World) : Handle × World :=
  let (owner, world) := handle.owner.reset disposal raw.owned? (handle.releaseClaimed world)
  ({ handle with owner, claimed := [] }, world)

/-- Releases all claimed interfaces and closes the native handle. -/
def close (handle : Handle) (world : World) : Handle × World :=
  handle.reset 0 world

/-- Gives the native handle up as it is. Which interfaces are claimed is forgotten. -/
def release (handle : Handle) : Option Address × Handle :=
  let (raw, owner) := handle.owner.release
  (raw, { handle with owner, claimed := [] })

/-- Ends the handle: it is closed, and the emptied owner is dropped. -/
def drop (handle : Handle) (world : World) : World :=
  let (closed, world) := handle.close world
  closed.owner.drop disposal world

def inspect (handle : Handle) : Inspect :=
  .record "DeviceHandle"
    [("inner", handle.owner.inspect),
      ("claimed", .list (handle.claimed.map fun interface => .number interface.toNat))]

end Handle

end UsbHost
