import UsbHost.Bus.Basic

/-!
# The native calls

One function per entry point of the native library. Each writes one journal entry. The calls that
return a code look for an injected code first and answer it at once, leaving everything else as it
was; only then do they look at their arguments. A call that is handed an address it does not know
takes that down as a misuse.

The calls take any address whatever: null, one that is no longer open, or one that never was.
-/

set_option autoImplicit false

namespace UsbHost

/-- What a call with an out-parameter answers: its return value, and what it wrote. A call that
fails, or that answers an injected code, writes nothing. -/
structure Reply (α : Type) where
  code : Int
  out : Option α := none
  deriving DecidableEq, Repr

namespace Reply

def failed {α : Type} (kind : ErrorKind) : Reply α := { code := kind.code }

/-- A call that succeeded and wrote `out`. -/
def wrote {α : Type} (out : α) : Reply α := { code := 0, out := some out }

def done {α : Type} : Reply α := { code := 0 }

end Reply

namespace Bus

variable {α : Type}

/-- Answers the injected code, or else what `body` answers, and journals the call of `function`. -/
def answering (bus : Bus) (function : NativeFunction) (argument injected : Option Int)
    (body : Reply α × Bus) : Reply α × Bus :=
  let (reply, bus) : Reply α × Bus := match injected with
    | some code => ({ code }, bus)
    | none => body
  (reply, bus.record function argument (some reply.code))

/-- Makes a call of `function` that answers the code injected for it, or else what `body`
answers. -/
def checked (bus : Bus) (function : NativeFunction) (argument : Option Int)
    (body : Reply α × Bus) : Reply α × Bus :=
  bus.answering function argument (bus.injected function) body

/-- Runs `body` on a device that the bus knows. An unknown one is a misuse and no device. -/
def withDevice (bus : Bus) (function : NativeFunction) (device : Address)
    (body : AttachedDevice → Reply α × Bus) : Reply α × Bus :=
  match bus.device? device with
  | some attached => body attached
  | none => (.failed .noDevice, bus.report (.unknownDevice function device))

/-- Runs `body` on a handle that is open. Any other is a misuse and no device. -/
def withHandle (bus : Bus) (function : NativeFunction) (handle : Address)
    (body : OpenHandle → Reply α × Bus) : Reply α × Bus :=
  match bus.handle? handle with
  | some opened => body opened
  | none => (.failed .noDevice, bus.report (.unknownHandle function handle))

/-! ## Contexts -/

def initLibrary (bus : Bus) : Reply Address × Bus :=
  bus.checked .initLibrary none <|
    let (id, bus) := bus.allocate
    (.wrote id, { bus with contexts := bus.contexts ++ [id] })

def exitLibrary (context : Address) (bus : Bus) : Bus :=
  let bus := bus.record .exitLibrary
  if context ∈ bus.contexts then { bus with contexts := bus.contexts.filter (· ≠ context) }
  else bus.report (.unknownContext context)

/-! ## Device arrays -/

/-- Takes a reference to every attached device and answers their number and an array of them. -/
def getDeviceList (bus : Bus) : Reply DeviceArray × Bus :=
  bus.checked .getDeviceList none <|
    let array : DeviceArray :=
      { block := bus.nextBlock, entries := bus.devices.map AttachedDevice.id }
    let devices := bus.devices.map fun attached =>
      { attached with references := attached.references + 1 }
    ({ code := array.entries.length, out := some array },
      { bus with devices, lists := bus.lists ++ [array], nextBlock := bus.nextBlock + 1 })

def array? (bus : Bus) (list : BlockRef) : Option DeviceArray :=
  bus.lists.find? fun array => BlockRef.block array.block == list

/-- Frees an array, and gives back one reference to each of its entries if `unref` is not zero. -/
def freeDeviceList (list : BlockRef) (unref : Int) (bus : Bus) : Bus :=
  let bus := bus.record .freeDeviceList (some unref)
  match bus.array? list with
  | none => bus.report (.unknownList list)
  | some array =>
    let bus := { bus with lists := bus.lists.filter (·.block ≠ array.block) }
    if unref = 0 then bus
    else array.entries.foldl (fun bus device => bus.giveBack .freeDeviceList device) bus

/-! ## References -/

def refDevice (device : Address) (bus : Bus) : Bus :=
  let bus := bus.record .refDevice
  match bus.device? device with
  | some _ => bus.modifyReferences device (· + 1)
  | none => bus.report (.unknownDevice .refDevice device)

def unrefDevice (device : Address) (bus : Bus) : Bus :=
  (bus.record .unrefDevice).giveBack .unrefDevice device

/-! ## Handles -/

/-- Opens a handle on `device`, which keeps a reference to it until the handle is closed. -/
def addHandle (bus : Bus) (device : Address) : Reply Address × Bus :=
  let (id, bus) := (bus.modifyReferences device (· + 1)).allocate
  (.wrote id, { bus with handles := bus.handles ++ [{ id, device }] })

/-- Opens a device, provided somebody still holds a reference to it. -/
def openDevice (device : Address) (bus : Bus) : Reply Address × Bus :=
  bus.checked .openDevice none <|
    bus.withDevice .openDevice device fun attached =>
      if attached.references = 0 then (.failed .noDevice, bus) else bus.addHandle device

/-- Opens a handle on what stands behind a platform's own handle: the first device to which
somebody still holds a reference. -/
def wrapSystemDevice (systemHandle : Int) (bus : Bus) : Reply Address × Bus :=
  bus.checked .wrapSystemDevice (some systemHandle) <|
    match bus.devices.find? fun attached => 0 < attached.references with
    | some attached => bus.addHandle attached.id
    | none => (.failed .noDevice, bus)

def closeHandle (handle : Address) (bus : Bus) : Bus :=
  let bus := bus.record .closeHandle
  match bus.handle? handle with
  | none => bus.report (.unknownHandle .closeHandle handle)
  | some opened =>
    { bus with handles := bus.handles.filter (·.id ≠ handle) }.giveBack .closeHandle opened.device

/-- The device behind a handle; null if the handle is not open. -/
def getDevice (handle : Address) (bus : Bus) : Address × Bus :=
  let bus := bus.record .getDevice
  match bus.handle? handle with
  | some opened => (opened.device, bus)
  | none => (0, bus.report (.unknownHandle .getDevice handle))

/-! ## Descriptors -/

def getDeviceDescriptor (device : Address) (bus : Bus) : Reply DeviceRecord × Bus :=
  bus.checked .getDeviceDescriptor none <|
    bus.withDevice .getDeviceDescriptor device fun attached =>
      (.wrote {
        length := 18
        descriptorType := 1
        usbVersion := 0x0200
        maxPacketSize := 64
        vendor := attached.info.vendor
        product := attached.info.product
        configurations := attached.info.configurations }, bus)

/-- Reads the record of one configuration into a new memory block. -/
def getConfigDescriptor (device : Address) (index : UInt8) (bus : Bus) :
    Reply ConfigPointer × Bus :=
  bus.checked .getConfigDescriptor (some index.toNat) <|
    bus.withDevice .getConfigDescriptor device fun attached =>
      if attached.info.configurations ≤ index then (.failed .notFound, bus)
      else
        (.wrote {
          ref := .block bus.nextBlock
          record := .build (index + 1) attached.info.interfaces },
          { bus with
            descriptors := bus.descriptors ++ [bus.nextBlock]
            nextBlock := bus.nextBlock + 1 })

def freeConfigDescriptor (descriptor : BlockRef) (bus : Bus) : Bus :=
  let bus := bus.record .freeConfigDescriptor
  if bus.descriptors.any fun serial => BlockRef.block serial == descriptor then
    { bus with descriptors :=
        bus.descriptors.filter fun serial => BlockRef.block serial ≠ descriptor }
  else bus.report (.unknownDescriptor descriptor)

/-! ## Interfaces and configurations -/

/-- How many interfaces can be claimed through a handle. A handle on a device that the bus does
not know has all there can be. -/
def interfaceLimit (bus : Bus) (device : Address) : Nat :=
  (bus.device? device).elim 255 fun attached => attached.info.interfaces.toNat

/-- Claims an interface that the device has. Claiming it twice is the same as claiming it once. -/
def claimInterface (handle : Address) (interface : Int) (bus : Bus) : Reply Unit × Bus :=
  bus.checked .claimInterface (some interface) <|
    bus.withHandle .claimInterface handle fun opened =>
      if interface < 0 ∨ (bus.interfaceLimit opened.device : Int) ≤ interface then
        (.failed .notFound, bus)
      else if interface ∈ opened.claimed then (.done, bus)
      else
        (.done, bus.modifyHandle handle fun opened =>
          { opened with claimed := opened.claimed ++ [interface] })

/-- Releases a claimed interface. A code injected for this interface, or for every release, is
answered first. -/
def releaseInterface (handle : Address) (interface : Int) (bus : Bus) : Reply Unit × Bus :=
  bus.answering .releaseInterface (some interface) (bus.injectedRelease interface) <|
    bus.withHandle .releaseInterface handle fun opened =>
      if interface ∈ opened.claimed then
        (.done, bus.modifyHandle handle fun opened =>
          { opened with claimed := opened.claimed.erase interface })
      else (.failed .notFound, bus)

/-- Sets the configuration of a handle; negative ones count as zero. -/
def setConfiguration (handle : Address) (value : Int) (bus : Bus) : Reply Unit × Bus :=
  bus.checked .setConfiguration (some value) <|
    bus.withHandle .setConfiguration handle fun _ =>
      (.done, bus.modifyHandle handle fun opened => { opened with configuration := max value 0 })

def getConfiguration (handle : Address) (bus : Bus) : Reply Int × Bus :=
  bus.checked .getConfiguration none <|
    bus.withHandle .getConfiguration handle fun opened => (.wrote opened.configuration, bus)

/-- Switches the automatic detaching of the kernel's driver; the bus has no driver to detach. -/
def setAutoDetach (handle : Address) (enable : Int) (bus : Bus) : Reply Unit × Bus :=
  bus.checked .setAutoDetach (some enable) <|
    bus.withHandle .setAutoDetach handle fun _ => (.done, bus)

/-! ## Topology -/

/-- Reads one byte about a device; zero for an unknown one. -/
def readByte (function : NativeFunction) (device : Address) (byte : DeviceInfo → UInt8)
    (bus : Bus) : UInt8 × Bus :=
  let bus := bus.record function
  match bus.device? device with
  | some attached => (byte attached.info, bus)
  | none => (0, bus.report (.unknownDevice function device))

def getBusNumber (device : Address) (bus : Bus) : UInt8 × Bus :=
  bus.readByte .getBusNumber device DeviceInfo.bus

def getDeviceAddress (device : Address) (bus : Bus) : UInt8 × Bus :=
  bus.readByte .getDeviceAddress device DeviceInfo.address

/-- Writes the ports from the root hub down to a device into a buffer of `capacity` bytes and
answers their number. A buffer too small for all of them gets none. -/
def getPortNumbers (device : Address) (capacity : Int) (bus : Bus) : Reply (List UInt8) × Bus :=
  bus.checked .getPortNumbers none <|
    bus.withDevice .getPortNumbers device fun attached =>
      let ports := attached.info.ports
      if capacity.toNat < ports.length then (.failed .overflow, bus)
      else ({ code := ports.length, out := some ports }, bus)

end Bus

/-- A buffer of `size` bytes after a call has written to it; what was not written is zero. -/
def writtenBuffer (size : Nat) (written : Option (List UInt8)) : List UInt8 :=
  (written.getD [] ++ List.replicate size 0).take size

end UsbHost
