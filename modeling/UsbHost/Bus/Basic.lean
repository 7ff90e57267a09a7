import UsbHost.Error
import UsbHost.Text.Hex
import UsbHost.Bus.Record

/-!
# The bus

The state of the native library: devices with their reference counts, open handles with the
interfaces claimed through them, contexts, and the memory handed out for device arrays and
configuration records. Beside them the bus keeps a journal of every native call, the codes that
are to be injected into calls, and a record of every misuse.

A device, a context and a handle are known by an address; all addresses come from one counter and
none is handed out twice. Memory blocks are counted apart, because their addresses carry no
meaning.
-/

set_option autoImplicit false

namespace UsbHost

/-- The address of a device, a context or a handle; zero is null. -/
abbrev Address := Nat

/-- The address as it may be owned: null is owned by nobody. -/
def Address.owned? (address : Address) : Option Address :=
  if address = 0 then none else some address

inductive NativeFunction where
  | initLibrary
  | exitLibrary
  | getDeviceList
  | freeDeviceList
  | refDevice
  | unrefDevice
  | openDevice
  | wrapSystemDevice
  | closeHandle
  | getDevice
  | getDeviceDescriptor
  | getConfigDescriptor
  | freeConfigDescriptor
  | claimInterface
  | releaseInterface
  | setConfiguration
  | getConfiguration
  | setAutoDetach
  | getBusNumber
  | getDeviceAddress
  | getPortNumbers
  deriving DecidableEq, Repr

namespace NativeFunction

/-- The name under which the native library exports an entry point. -/
def name : NativeFunction → String
  | initLibrary => "libusb_init"
  | exitLibrary => "libusb_exit"
  | getDeviceList => "libusb_get_device_list"
  | freeDeviceList => "libusb_free_device_list"
  | refDevice => "libusb_ref_device"
  | unrefDevice => "libusb_unref_device"
  | openDevice => "libusb_open"
  | wrapSystemDevice => "libusb_wrap_sys_device"
  | closeHandle => "libusb_close"
  | getDevice => "libusb_get_device"
  | getDeviceDescriptor => "libusb_get_device_descriptor"
  | getConfigDescriptor => "libusb_get_config_descriptor"
  | freeConfigDescriptor => "libusb_free_config_descriptor"
  | claimInterface => "libusb_claim_interface"
  | releaseInterface => "libusb_release_interface"
  | setConfiguration => "libusb_set_configuration"
  | getConfiguration => "libusb_get_configuration"
  | setAutoDetach => "libusb_set_auto_detach_kernel_driver"
  | getBusNumber => "libusb_get_bus_number"
  | getDeviceAddress => "libusb_get_device_address"
  | getPortNumbers => "libusb_get_port_numbers"

/-- All entry points. -/
def all : List NativeFunction :=
  [initLibrary, exitLibrary, getDeviceList, freeDeviceList, refDevice, unrefDevice, openDevice,
    wrapSystemDevice, closeHandle, getDevice, getDeviceDescriptor, getConfigDescriptor,
    freeConfigDescriptor, claimInterface, releaseInterface, setConfiguration, getConfiguration,
    setAutoDetach, getBusNumber, getDeviceAddress, getPortNumbers]

/-- The entry point of a name, if there is one. -/
def ofName? (name : String) : Option NativeFunction :=
  all.find? fun function => function.name == name

end NativeFunction

structure DeviceInfo where
  vendor : UInt16 := 1
  product : UInt16 := 2
  bus : UInt8 := 1
  address : UInt8 := 0
  ports : List UInt8 := []
  interfaces : UInt8 := 1
  configurations : UInt8 := 1
  deriving DecidableEq, Repr

/-- A device on the bus and the number of references to it. -/
structure AttachedDevice where
  id : Address
  info : DeviceInfo
  references : Nat
  deriving DecidableEq, Repr

/-- An open handle: the device behind it, the interfaces claimed through it in the order of their
claims, and the configuration set through it. -/
structure OpenHandle where
  id : Address
  device : Address
  claimed : List Int := []
  configuration : Int := 0
  deriving DecidableEq, Repr

structure DeviceArray where
  block : Nat
  entries : List Address
  deriving DecidableEq, Repr

/-- A reference to a memory block: a block that the library handed out, or an address of foreign
origin. Null is the foreign address zero. -/
inductive BlockRef where
  | foreign (address : Address)
  | block (serial : Nat)
  deriving DecidableEq, Repr

def BlockRef.text : BlockRef → String
  | foreign address => Text.hex address
  | block serial => Text.hex serial

/-- A reference to a configuration record, together with the record, which never changes. -/
structure ConfigPointer where
  ref : BlockRef
  record : ConfigRecord
  deriving DecidableEq, Repr

/-- One native call: the entry point, the argument worth keeping, and the code that the call
returned, if it returns one. -/
structure JournalEntry where
  function : NativeFunction
  argument : Option Int := none
  returned : Option Int := none
  deriving DecidableEq, Repr

def JournalEntry.text (entry : JournalEntry) : String :=
  match entry.argument with
  | some argument => entry.function.name ++ "(" ++ toString argument ++ ")"
  | none => entry.function.name ++ "()"

/-- A native call that its caller should not have made. -/
inductive Misuse where
  | unknownContext (context : Address)
  | unknownList (list : BlockRef)
  | unknownDevice (function : NativeFunction) (device : Address)
  | unknownHandle (function : NativeFunction) (handle : Address)
  | unknownDescriptor (descriptor : BlockRef)
  | referenceUnderflow (function : NativeFunction) (device : Address)
  deriving DecidableEq, Repr

def Misuse.text : Misuse → String
  | unknownContext context =>
    NativeFunction.exitLibrary.name ++ ": unknown context " ++ Text.hex context
  | unknownList list =>
    NativeFunction.freeDeviceList.name ++ ": unknown list " ++ list.text
  | unknownDevice function device => function.name ++ ": unknown device " ++ Text.hex device
  | unknownHandle function handle => function.name ++ ": unknown handle " ++ Text.hex handle
  | unknownDescriptor descriptor =>
    NativeFunction.freeConfigDescriptor.name ++ ": unknown descriptor " ++ descriptor.text
  | referenceUnderflow function device =>
    function.name ++ ": reference underflow on " ++ Text.hex device

/-- The first address that is handed out. -/
def firstAddress : Address := 0x1000

/-- The distance between two addresses handed out one after the other. -/
def addressStride : Nat := 0x10

/-- The state of the native library. Devices and handles stand in the order of their addresses,
because a later one has the larger address. -/
structure Bus where
  nextAddress : Address := firstAddress
  nextBlock : Nat := 0
  contexts : List Address := []
  devices : List AttachedDevice := []
  handles : List OpenHandle := []
  lists : List DeviceArray := []
  descriptors : List Nat := []
  journal : List JournalEntry := []
  misuse : List Misuse := []
  failures : List (NativeFunction × Int) := []
  releaseFailures : List (Int × Int) := []
  deriving DecidableEq, Repr

namespace Bus

/-! ## Looking at the bus -/

def device? (bus : Bus) (device : Address) : Option AttachedDevice :=
  bus.devices.find? fun attached => attached.id == device

def handle? (bus : Bus) (handle : Address) : Option OpenHandle :=
  bus.handles.find? fun opened => opened.id == handle

/-- How many references to a device there are; none to an unknown one. -/
def references (bus : Bus) (device : Address) : Nat :=
  (bus.device? device).elim 0 AttachedDevice.references

/-- The interfaces claimed through a handle; none through an unknown one. -/
def claims (bus : Bus) (handle : Address) : List Int :=
  (bus.handle? handle).elim [] OpenHandle.claimed

/-- The code to be injected into a call of `function`. -/
def injected (bus : Bus) (function : NativeFunction) : Option Int :=
  bus.failures.lookup function

/-- The code to be injected into a release of `interface`: one that is meant for this interface
goes before one that is meant for every release. -/
def injectedRelease (bus : Bus) (interface : Int) : Option Int :=
  (bus.releaseFailures.lookup interface).or (bus.injected .releaseInterface)

/-! ## Changing the bus -/

def record (bus : Bus) (function : NativeFunction) (argument : Option Int := none)
    (returned : Option Int := none) : Bus :=
  { bus with journal := bus.journal ++ [{ function, argument, returned }] }

def report (bus : Bus) (misuse : Misuse) : Bus :=
  { bus with misuse := bus.misuse ++ [misuse] }

/-- The next free address, and the bus without it. -/
def allocate (bus : Bus) : Address × Bus :=
  (bus.nextAddress, { bus with nextAddress := bus.nextAddress + addressStride })

def modifyReferences (bus : Bus) (device : Address) (change : Nat → Nat) : Bus :=
  { bus with devices := bus.devices.map fun attached =>
      if attached.id = device then { attached with references := change attached.references }
      else attached }

def modifyHandle (bus : Bus) (handle : Address) (change : OpenHandle → OpenHandle) : Bus :=
  { bus with handles := bus.handles.map fun opened =>
      if opened.id = handle then change opened else opened }

/-- Gives one reference to a device back, on behalf of `function`. A device without references
stays as it is, and so does the bus if the device is unknown; either is a misuse. -/
def giveBack (bus : Bus) (function : NativeFunction) (device : Address) : Bus :=
  match bus.device? device with
  | none => bus.report (.unknownDevice function device)
  | some attached =>
    if attached.references = 0 then bus.report (.referenceUnderflow function device)
    else bus.modifyReferences device (· - 1)

/-! ## Controls -/

/-- The bus address of a device: its own, or the number of its place among the devices, up to
the largest address. -/
def automaticAddress (bus : Bus) (info : DeviceInfo) : UInt8 :=
  if info.address = 0 then UInt8.ofNat (min (bus.devices.length + 1) 255) else info.address

/-- Plugs a device in. The bus itself holds the first reference. -/
def attach (bus : Bus) (info : DeviceInfo) : Address × Bus :=
  let address := bus.automaticAddress info
  let (id, bus) := bus.allocate
  (id, { bus with devices :=
    bus.devices ++ [{ id, info := { info with address }, references := 1 }] })

/-- Lets every call of `function` return `code` from now on. -/
def fail (bus : Bus) (function : NativeFunction) (code : Int) : Bus :=
  { bus with failures := (function, code) :: bus.failures }

/-- Lets every release of `interface` return `code` from now on. -/
def failReleaseOf (bus : Bus) (interface : UInt8) (code : Int) : Bus :=
  { bus with releaseFailures := ((interface.toNat : Int), code) :: bus.releaseFailures }

/-- Lets every call return its own codes again. -/
def clearFailures (bus : Bus) : Bus :=
  { bus with failures := [], releaseFailures := [] }

def countCalls (bus : Bus) (function : NativeFunction) : Nat :=
  (bus.journal.filter fun entry => entry.function == function).length

def callArguments (bus : Bus) (function : NativeFunction) : List (Option Int) :=
  (bus.journal.filter fun entry => entry.function == function).map JournalEntry.argument

end Bus

end UsbHost
