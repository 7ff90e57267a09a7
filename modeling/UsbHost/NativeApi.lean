import UsbHost.Bus.Calls

/-!
# The native interface

Operations reach the devices through a native interface only, which has one function for every
entry point. The bus offers one itself, and that is the one used where no other is given. What an
interface answers may depend on the bus behind it and on the arguments, and on nothing else.
-/

set_option autoImplicit false

namespace UsbHost

/-- The functions of a native library, as they act on the bus behind it. -/
class NativeApi where
  initLibrary : Bus → Reply Address × Bus
  exitLibrary (context : Address) : Bus → Bus
  getDeviceList (context : Address) : Bus → Reply DeviceArray × Bus
  freeDeviceList (list : BlockRef) (unref : Int) : Bus → Bus
  refDevice (device : Address) : Bus → Address × Bus
  unrefDevice (device : Address) : Bus → Bus
  openDevice (device : Address) : Bus → Reply Address × Bus
  wrapSystemDevice (context : Address) (systemHandle : Int) : Bus → Reply Address × Bus
  closeHandle (handle : Address) : Bus → Bus
  getDevice (handle : Address) : Bus → Address × Bus
  getDeviceDescriptor (device : Address) : Bus → Reply DeviceRecord × Bus
  getConfigDescriptor (device : Address) (index : UInt8) : Bus → Reply ConfigPointer × Bus
  freeConfigDescriptor (descriptor : BlockRef) : Bus → Bus
  claimInterface (handle : Address) (interface : Int) : Bus → Reply Unit × Bus
  releaseInterface (handle : Address) (interface : Int) : Bus → Reply Unit × Bus
  setConfiguration (handle : Address) (value : Int) : Bus → Reply Unit × Bus
  getConfiguration (handle : Address) : Bus → Reply Int × Bus
  setAutoDetach (handle : Address) (enable : Int) : Bus → Reply Unit × Bus
  getBusNumber (device : Address) : Bus → UInt8 × Bus
  getDeviceAddress (device : Address) : Bus → UInt8 × Bus
  getPortNumbers (device : Address) (capacity : Int) : Bus → Reply (List UInt8) × Bus

/-- The interface of the bus itself. Which context a call is made for is of no consequence to it. -/
instance Bus.api : NativeApi where
  initLibrary := Bus.initLibrary
  exitLibrary := Bus.exitLibrary
  getDeviceList _ := Bus.getDeviceList
  freeDeviceList := Bus.freeDeviceList
  refDevice device bus := (device, bus.refDevice device)
  unrefDevice := Bus.unrefDevice
  openDevice := Bus.openDevice
  wrapSystemDevice _ := Bus.wrapSystemDevice
  closeHandle := Bus.closeHandle
  getDevice := Bus.getDevice
  getDeviceDescriptor := Bus.getDeviceDescriptor
  getConfigDescriptor := Bus.getConfigDescriptor
  freeConfigDescriptor := Bus.freeConfigDescriptor
  claimInterface := Bus.claimInterface
  releaseInterface := Bus.releaseInterface
  setConfiguration := Bus.setConfiguration
  getConfiguration := Bus.getConfiguration
  setAutoDetach := Bus.setAutoDetach
  getBusNumber := Bus.getBusNumber
  getDeviceAddress := Bus.getDeviceAddress
  getPortNumbers := Bus.getPortNumbers

end UsbHost
