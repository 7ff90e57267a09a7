import Mathlib.Algebra.Group.Nat.Defs
import UsbHost.Proofs.CallRecords

/-!
# Watched arithmetic and accesses

The native library once more, as a program that watches what it does: counters are words, every
addition, subtraction and multiplication is checked, and so is every access to a vector or a slice.
A step that goes wrong stops the program with a fault.

The journal is a vector, and a vector can only be so long. A call that finds no room for its entry
stops the program too; this is no fault, but it bounds how many calls there can have been.
-/

set_option autoImplicit false

namespace UsbHost

/-- Why a program stopped. -/
inductive Fault where
  | outOfBounds
  | overflow
  | underflow
  | outOfMemory
  deriving DecidableEq, Repr

abbrev Watched := Except Fault

namespace Watched

variable {α β : Type}

def add (width a b : Nat) : Watched Nat :=
  if a + b < 2 ^ width then .ok (a + b) else .error .overflow

def multiply (width a b : Nat) : Watched Nat :=
  if a * b < 2 ^ width then .ok (a * b) else .error .overflow

def subtract (a b : Nat) : Watched Nat :=
  if b ≤ a then .ok (a - b) else .error .underflow

def element (items : List α) (index : Nat) : Watched α :=
  match items[index]? with
  | some item => .ok item
  | none => .error .outOfBounds

/-- The slice of the first `count` items. -/
def upTo (items : List α) (count : Nat) : Watched (List α) :=
  if count ≤ items.length then .ok (items.take count) else .error .outOfBounds

def remove (items : List α) (position : Nat) : Watched (List α) :=
  if position < items.length then .ok (items.eraseIdx position) else .error .outOfBounds

/-- Writes items to the start of a buffer. -/
def copyTo (buffer items : List α) : Watched (List α) :=
  if items.length ≤ buffer.length then .ok (items ++ buffer.drop items.length)
  else .error .outOfBounds

/-- The size of a vector is a signed word of bytes, and no entry is smaller than a byte. -/
def vectorLimit : Nat := 2 ^ 63 - 1

/-- Whether there is room for one more entry. -/
def room (items : List α) : Watched Unit :=
  if items.length < vectorLimit then .ok () else .error .outOfMemory

/-! ## The parts of native calls -/

def allocate (bus : Bus) : Watched (Address × Bus) := do
  let next ← add 64 bus.nextAddress addressStride
  return (bus.nextAddress, { bus with nextAddress := next })

def countReferences (attached : AttachedDevice) (change : Nat → Watched Nat) :
    Watched AttachedDevice := do
  let references ← change attached.references
  return { attached with references }

def modifyReferences (bus : Bus) (device : Address) (change : Nat → Watched Nat) : Watched Bus := do
  let devices ← bus.devices.mapM fun attached =>
    if attached.id = device then countReferences attached change else .ok attached
  return { bus with devices }

def giveBack (bus : Bus) (function : NativeFunction) (device : Address) : Watched Bus :=
  match bus.device? device with
  | none => .ok (bus.report (.unknownDevice function device))
  | some attached =>
    if attached.references = 0 then .ok (bus.report (.referenceUnderflow function device))
    else modifyReferences bus device (subtract · 1)

/-- The journal entry is made before anything else. -/
def answering (bus : Bus) (function : NativeFunction) (argument injected : Option Int)
    (body : Watched (Reply α × Bus)) : Watched (Reply α × Bus) := do
  room bus.journal
  match injected with
  | some code => return ({ code }, bus.record function argument (some code))
  | none =>
    let (reply, bus) ← body
    return (reply, bus.record function argument (some reply.code))

def withDevice (bus : Bus) (function : NativeFunction) (device : Address)
    (body : AttachedDevice → Watched (Reply α × Bus)) : Watched (Reply α × Bus) :=
  match bus.device? device with
  | some attached => body attached
  | none => .ok (.failed .noDevice, bus.report (.unknownDevice function device))

def withHandle (bus : Bus) (function : NativeFunction) (handle : Address)
    (body : OpenHandle → Watched (Reply α × Bus)) : Watched (Reply α × Bus) :=
  match bus.handle? handle with
  | some opened => body opened
  | none => .ok (.failed .noDevice, bus.report (.unknownHandle function handle))

def addHandle (bus : Bus) (device : Address) : Watched (Reply Address × Bus) := do
  let bus ← modifyReferences bus device (add 64 · 1)
  let (id, bus) ← allocate bus
  return (.wrote id, { bus with handles := bus.handles ++ [{ id, device }] })

/-! ## Native calls -/

def initLibrary (bus : Bus) : Watched (Reply Address × Bus) :=
  answering bus .initLibrary none (bus.injected .initLibrary) do
    let (id, bus) ← allocate bus
    return (.wrote id, { bus with contexts := bus.contexts ++ [id] })

def getDeviceList (bus : Bus) : Watched (Reply DeviceArray × Bus) :=
  answering bus .getDeviceList none (bus.injected .getDeviceList) do
    let array : DeviceArray :=
      { block := bus.nextBlock, entries := bus.devices.map AttachedDevice.id }
    let devices ← bus.devices.mapM fun attached => countReferences attached (add 64 · 1)
    return ({ code := array.entries.length, out := some array },
      { bus with devices, lists := bus.lists ++ [array], nextBlock := bus.nextBlock + 1 })

/-- The memory of an array holds one null behind the entries. -/
def freeDeviceList (list : BlockRef) (unref : Int) (bus : Bus) : Watched Bus := do
  room bus.journal
  let bus := bus.record .freeDeviceList (some unref)
  match bus.array? list with
  | none => return bus.report (.unknownList list)
  | some array =>
    let bus := { bus with lists := bus.lists.filter (·.block ≠ array.block) }
    let size ← add 64 array.entries.length 1
    let memory ← upTo (array.entries ++ [0]) size
    if unref = 0 then return bus
    else
      (memory.take array.entries.length).foldlM
        (fun bus device => giveBack bus .freeDeviceList device) bus

def refDevice (device : Address) (bus : Bus) : Watched Bus := do
  room bus.journal
  let bus := bus.record .refDevice
  match bus.device? device with
  | some _ => modifyReferences bus device (add 64 · 1)
  | none => return bus.report (.unknownDevice .refDevice device)

def unrefDevice (device : Address) (bus : Bus) : Watched Bus := do
  room bus.journal
  giveBack (bus.record .unrefDevice) .unrefDevice device

def openDevice (device : Address) (bus : Bus) : Watched (Reply Address × Bus) :=
  answering bus .openDevice none (bus.injected .openDevice) <|
    withDevice bus .openDevice device fun attached =>
      if attached.references = 0 then .ok (.failed .noDevice, bus) else addHandle bus device

def wrapSystemDevice (systemHandle : Int) (bus : Bus) : Watched (Reply Address × Bus) :=
  answering bus .wrapSystemDevice (some systemHandle) (bus.injected .wrapSystemDevice) <|
    match bus.devices.find? fun attached => 0 < attached.references with
    | some attached => addHandle bus attached.id
    | none => .ok (.failed .noDevice, bus)

def closeHandle (handle : Address) (bus : Bus) : Watched Bus := do
  room bus.journal
  let bus := bus.record .closeHandle
  match bus.handle? handle with
  | none => return bus.report (.unknownHandle .closeHandle handle)
  | some opened =>
    giveBack { bus with handles := bus.handles.filter (·.id ≠ handle) } .closeHandle opened.device

def buildRecord (value interfaces : UInt8) : Watched ConfigRecord := do
  let size ← multiply 16 9 interfaces.toNat
  let totalLength ← add 16 9 size
  return { ConfigRecord.build value interfaces with totalLength := .ofNat totalLength }

def getConfigDescriptor (device : Address) (index : UInt8) (bus : Bus) :
    Watched (Reply ConfigPointer × Bus) :=
  answering bus .getConfigDescriptor (some index.toNat) (bus.injected .getConfigDescriptor) <|
    withDevice bus .getConfigDescriptor device fun attached =>
      if attached.info.configurations ≤ index then .ok (.failed .notFound, bus)
      else do
        let value ← add 8 index.toNat 1
        let record ← buildRecord (.ofNat value) attached.info.interfaces
        return (.wrote { ref := .block bus.nextBlock, record },
          { bus with
            descriptors := bus.descriptors ++ [bus.nextBlock]
            nextBlock := bus.nextBlock + 1 })

def releaseInterface (handle : Address) (interface : Int) (bus : Bus) :
    Watched (Reply Unit × Bus) :=
  answering bus .releaseInterface (some interface) (bus.injectedRelease interface) <|
    withHandle bus .releaseInterface handle fun opened =>
      match opened.claimed.idxOf? interface with
      | some position => do
        let claimed ← remove opened.claimed position
        return (.done, bus.modifyHandle handle fun opened => { opened with claimed })
      | none => .ok (.failed .notFound, bus)

def getPortNumbers (device : Address) (capacity : Int) (bus : Bus) :
    Watched (Reply (List UInt8) × Bus) :=
  answering bus .getPortNumbers none (bus.injected .getPortNumbers) <|
    withDevice bus .getPortNumbers device fun attached =>
      let ports := attached.info.ports
      if capacity.toNat < ports.length then .ok (.failed .overflow, bus)
      else do
        let _ ← copyTo (List.replicate capacity.toNat 0) ports
        return ({ code := ports.length, out := some ports }, bus)

def automaticAddress (bus : Bus) (info : DeviceInfo) : Watched UInt8 :=
  if info.address = 0 then do
    let place ← add 64 bus.devices.length 1
    return .ofNat (min place 255)
  else .ok info.address

def attach (bus : Bus) (info : DeviceInfo) : Watched (Address × Bus) := do
  let (id, allocated) ← allocate bus
  let address ← automaticAddress bus info
  return (id, { allocated with devices :=
    allocated.devices ++ [{ id, info := { info with address }, references := 1 }] })

end Watched

/-- The configuration record that an answer writes. -/
def NativeAnswer.record? : NativeAnswer → Option ConfigPointer
  | .config reply => reply.out
  | _ => none

/-! ## The machine -/

/-- The bus, together with the configuration records that its memory blocks hold. -/
structure Machine where
  bus : Bus := {}
  records : Nat → ConfigRecord := fun _ => {}

namespace Machine

open Watched

/-- Frees the array of interfaces whose length the record tells. -/
def freeInterfaces (record : ConfigRecord) : Watched Unit :=
  match record.interfaces with
  | none => .ok ()
  | some interfaces => do
    let _ ← upTo interfaces record.interfaceCount.toNat

def freeConfigDescriptor (descriptor : BlockRef) (machine : Machine) : Watched Machine := do
  room machine.bus.journal
  match descriptor with
  | .block serial =>
    if serial ∈ machine.bus.descriptors then freeInterfaces (machine.records serial)
  | .foreign _ => pure ()
  return { machine with bus := machine.bus.freeConfigDescriptor descriptor }

/-- Puts the record of an answer where the answer says it is. -/
def keep (machine : Machine) (written : Option ConfigPointer) : Machine :=
  match written with
  | some { ref := .block serial, record } =>
    { machine with records := fun other =>
        if other = serial then record else machine.records other }
  | _ => machine

/-- Makes a native call. A call that computes nothing and looks into no vector only needs room for
its journal entry. -/
def perform (call : NativeCall) (machine : Machine) : Watched (NativeAnswer × Machine) :=
  match call with
  | .initLibrary => do
    let (reply, bus) ← initLibrary machine.bus
    return (.created reply, { machine with bus })
  | .getDeviceList _ => do
    let (reply, bus) ← getDeviceList machine.bus
    return (.array reply, { machine with bus })
  | .freeDeviceList list unref => do
    let bus ← freeDeviceList list unref machine.bus
    return (.nothing, { machine with bus })
  | .refDevice device => do
    let bus ← refDevice device machine.bus
    return (.address device, { machine with bus })
  | .unrefDevice device => do
    let bus ← unrefDevice device machine.bus
    return (.nothing, { machine with bus })
  | .openDevice device => do
    let (reply, bus) ← openDevice device machine.bus
    return (.created reply, { machine with bus })
  | .wrapSystemDevice _ systemHandle => do
    let (reply, bus) ← wrapSystemDevice systemHandle machine.bus
    return (.created reply, { machine with bus })
  | .closeHandle handle => do
    let bus ← closeHandle handle machine.bus
    return (.nothing, { machine with bus })
  | .getConfigDescriptor device index => do
    let (reply, bus) ← getConfigDescriptor device index machine.bus
    return (.config reply, { machine with bus }.keep reply.out)
  | .freeConfigDescriptor descriptor => do
    let machine ← machine.freeConfigDescriptor descriptor
    return (.nothing, machine)
  | .releaseInterface handle interface => do
    let (reply, bus) ← releaseInterface handle interface machine.bus
    return (.code reply.code, { machine with bus })
  | .getPortNumbers device capacity => do
    let (reply, bus) ← getPortNumbers device capacity machine.bus
    return (.ports capacity reply, { machine with bus })
  | .exitLibrary _ | .getDevice _ | .getDeviceDescriptor _ | .claimInterface .. |
    .setConfiguration .. | .getConfiguration _ | .setAutoDetach .. | .getBusNumber _ |
    .getDeviceAddress _ => do
    room machine.bus.journal
    return (call.answer machine.bus, { machine with bus := call.after machine.bus })

def step (machine : Machine) (step : BusStep) : Watched Machine :=
  match step with
  | .attach info => do
    let (_, bus) ← attach machine.bus info
    return { machine with bus }
  | .call call => do
    let (_, machine) ← perform call machine
    return machine
  | .fail .. | .failReleaseOf .. | .clearFailures =>
    .ok { machine with bus := machine.bus.step step }

def run (machine : Machine) (steps : List BusStep) : Watched Machine :=
  steps.foldlM step machine

end Machine

end UsbHost
