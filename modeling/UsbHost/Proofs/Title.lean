import UsbHost.Bus.Step
import UsbHost.Session.Resource

/-!
# Titles

A title is the duty to give one native resource back. A resource of the library has at most one
title; a raw resource that a client was handed by a release is a title that no resource has.
-/

set_option autoImplicit false

namespace UsbHost

/-- What somebody has to give back to the native library, once. -/
inductive Title where
  | context (raw : Address)
  | array (array : DeviceArray)
  | reference (device : Address)
  | handle (raw : Address)
  | record (ref : BlockRef)
  deriving DecidableEq, Repr

namespace Title

/-- Whether no second title of this kind can stand for the same resource. Several references to
one device are several titles. -/
def isExclusive : Title → Bool
  | reference _ => false
  | _ => true

/-- Whether the title includes a reference to the device. -/
def holds (device : Address) : Title → Bool
  | array value => value.entries.contains device
  | reference held => held == device
  | _ => false

@[simp] theorem holds_context (device raw : Address) : (context raw).holds device = false := rfl

@[simp] theorem holds_array (device : Address) (value : DeviceArray) :
    (array value).holds device = value.entries.contains device := rfl

@[simp] theorem holds_reference (device held : Address) :
    (reference held).holds device = (held == device) := rfl

@[simp] theorem holds_handle (device raw : Address) : (handle raw).holds device = false := rfl

@[simp] theorem holds_record (device : Address) (ref : BlockRef) :
    (record ref).holds device = false := rfl

/-- The native call that gives back what the title stands for. -/
def returnCall : Title → NativeCall
  | context raw => .exitLibrary raw
  | array value => .freeDeviceList (.block value.block) 1
  | reference device => .unrefDevice device
  | handle raw => .closeHandle raw
  | record ref => .freeConfigDescriptor ref

def array? : Title → Option DeviceArray
  | array value => some value
  | _ => none

def context? : Title → Option Address
  | context raw => some raw
  | _ => none

def handle? : Title → Option Address
  | handle raw => some raw
  | _ => none

def record? : Title → Option BlockRef
  | record ref => some ref
  | _ => none

end Title

/-- The title of a resource; a resource that owns nothing has none. -/
def Resource.title? : Resource → Option Title
  | .context value => value.owner.raw.map .context
  | .list value => value.array.map .array
  | .device value => value.owner.raw.map .reference
  | .handle value => value.owner.raw.map .handle
  | .descriptor value => value.owner.raw.map fun pointer => .record pointer.ref

def Resource.claimed : Resource → List UInt8
  | .handle value => value.claimed
  | _ => []

namespace Bus

/-- The exclusive titles to everything that is alive on the bus. -/
def exclusiveTitles (bus : Bus) : List Title :=
  bus.contexts.map .context ++ bus.lists.map .array ++
    bus.handles.map (fun opened => .handle opened.id) ++
    bus.descriptors.map (fun serial => .record (.block serial))

def Knows (bus : Bus) (device : Address) : Prop :=
  device ∈ bus.devices.map AttachedDevice.id

def handlesOn (bus : Bus) (device : Address) : Nat :=
  bus.handles.countP fun opened => opened.device == device

end Bus

end UsbHost
