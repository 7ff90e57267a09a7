import UsbHost.NativeApi

/-!
# Native calls as data

A native call with its arguments is a value, so that a run of the native library is a list. What a
call answers is a value too: nothing, a code, an address, a byte, or a code together with what was
written to the out-parameter.
-/

set_option autoImplicit false

namespace UsbHost

/-- A call of the native library. Addresses and references are arbitrary. -/
inductive NativeCall where
  | initLibrary
  | exitLibrary (context : Address)
  | getDeviceList (context : Address)
  | freeDeviceList (list : BlockRef) (unref : Int)
  | refDevice (device : Address)
  | unrefDevice (device : Address)
  | openDevice (device : Address)
  | wrapSystemDevice (context : Address) (systemHandle : Int)
  | closeHandle (handle : Address)
  | getDevice (handle : Address)
  | getDeviceDescriptor (device : Address)
  | getConfigDescriptor (device : Address) (index : UInt8)
  | freeConfigDescriptor (descriptor : BlockRef)
  | claimInterface (handle : Address) (interface : Int)
  | releaseInterface (handle : Address) (interface : Int)
  | setConfiguration (handle : Address) (value : Int)
  | getConfiguration (handle : Address)
  | setAutoDetach (handle : Address) (enable : Int)
  | getBusNumber (device : Address)
  | getDeviceAddress (device : Address)
  | getPortNumbers (device : Address) (capacity : Int)
  deriving DecidableEq, Repr

inductive NativeAnswer where
  | nothing
  | code (code : Int)
  | address (address : Address)
  | byte (byte : UInt8)
  | created (reply : Reply Address)
  | array (reply : Reply DeviceArray)
  | device (reply : Reply DeviceRecord)
  | config (reply : Reply ConfigPointer)
  | configuration (reply : Reply Int)
  /-- The ports, with the size of the buffer that they were to be written to. -/
  | ports (capacity : Int) (reply : Reply (List UInt8))
  deriving DecidableEq, Repr

namespace NativeCall

/-- Makes a native call. -/
def perform [NativeApi] (call : NativeCall) (bus : Bus) : NativeAnswer × Bus :=
  match call with
  | initLibrary => (NativeApi.initLibrary bus).map .created id
  | exitLibrary context => (.nothing, NativeApi.exitLibrary context bus)
  | getDeviceList context => (NativeApi.getDeviceList context bus).map .array id
  | freeDeviceList list unref => (.nothing, NativeApi.freeDeviceList list unref bus)
  | refDevice device => (NativeApi.refDevice device bus).map .address id
  | unrefDevice device => (.nothing, NativeApi.unrefDevice device bus)
  | openDevice device => (NativeApi.openDevice device bus).map .created id
  | wrapSystemDevice context systemHandle =>
    (NativeApi.wrapSystemDevice context systemHandle bus).map .created id
  | closeHandle handle => (.nothing, NativeApi.closeHandle handle bus)
  | getDevice handle => (NativeApi.getDevice handle bus).map .address id
  | getDeviceDescriptor device => (NativeApi.getDeviceDescriptor device bus).map .device id
  | getConfigDescriptor device index =>
    (NativeApi.getConfigDescriptor device index bus).map .config id
  | freeConfigDescriptor descriptor => (.nothing, NativeApi.freeConfigDescriptor descriptor bus)
  | claimInterface handle interface =>
    (NativeApi.claimInterface handle interface bus).map (.code ·.code) id
  | releaseInterface handle interface =>
    (NativeApi.releaseInterface handle interface bus).map (.code ·.code) id
  | setConfiguration handle value =>
    (NativeApi.setConfiguration handle value bus).map (.code ·.code) id
  | getConfiguration handle => (NativeApi.getConfiguration handle bus).map .configuration id
  | setAutoDetach handle enable => (NativeApi.setAutoDetach handle enable bus).map (.code ·.code) id
  | getBusNumber device => (NativeApi.getBusNumber device bus).map .byte id
  | getDeviceAddress device => (NativeApi.getDeviceAddress device bus).map .byte id
  | getPortNumbers device capacity =>
    (NativeApi.getPortNumbers device capacity bus).map (.ports capacity) id

end NativeCall

/-- One thing that can happen to the bus: a device is plugged in, a failure is arranged or called
off, or a native call is made. -/
inductive BusStep where
  | attach (info : DeviceInfo)
  | fail (function : NativeFunction) (code : Int)
  | failReleaseOf (interface : UInt8) (code : Int)
  | clearFailures
  | call (call : NativeCall)
  deriving DecidableEq, Repr

namespace Bus

def step (bus : Bus) : BusStep → Bus
  | .attach info => (bus.attach info).2
  | .fail function code => bus.fail function code
  | .failReleaseOf interface code => bus.failReleaseOf interface code
  | .clearFailures => bus.clearFailures
  | .call call => (call.perform bus).2

def run (bus : Bus) (steps : List BusStep) : Bus :=
  steps.foldl step bus

end Bus

end UsbHost
