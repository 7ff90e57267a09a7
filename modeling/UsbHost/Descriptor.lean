import UsbHost.World
import UsbHost.Owner.Basic

/-!
# Descriptors

A device descriptor is a copy of the fields of the native record. A configuration descriptor owns
the native record and frees it once; while it owns nothing, every field of it reads as zero and
it has no interfaces.
-/

set_option autoImplicit false

namespace UsbHost

variable [NativeApi]

/-- What a device says about itself. The fields of the record that describe the record itself are
left out. -/
structure DeviceDescriptor where
  usbVersion : UInt16 := 0
  classCode : UInt8 := 0
  subClassCode : UInt8 := 0
  protocolCode : UInt8 := 0
  maxPacketSize : UInt8 := 0
  vendor : UInt16 := 0
  product : UInt16 := 0
  deviceVersion : UInt16 := 0
  manufacturerText : UInt8 := 0
  productText : UInt8 := 0
  serialText : UInt8 := 0
  configurations : UInt8 := 0
  deriving DecidableEq, Repr

def DeviceDescriptor.ofRecord (record : DeviceRecord) : DeviceDescriptor where
  usbVersion := record.usbVersion
  classCode := record.classCode
  subClassCode := record.subClassCode
  protocolCode := record.protocolCode
  maxPacketSize := record.maxPacketSize
  vendor := record.vendor
  product := record.product
  deviceVersion := record.deviceVersion
  manufacturerText := record.manufacturerText
  productText := record.productText
  serialText := record.serialText
  configurations := record.configurations

structure ConfigDescriptor where
  library : Library
  owner : Owner ConfigPointer := .empty

namespace ConfigDescriptor

def disposal (pointer : ConfigPointer) (world : World) : World :=
  world.call (NativeApi.freeConfigDescriptor pointer.ref)

def empty (library : Library) : ConfigDescriptor := { library }

def ofRaw (library : Library) (raw : Option ConfigPointer) : ConfigDescriptor :=
  { library, owner := .ofRaw raw }

/-- Whether nothing is owned. -/
def isEmpty (descriptor : ConfigDescriptor) : Bool := descriptor.owner.isEmpty

/-- The native record, as long as it is owned. -/
def record? (descriptor : ConfigDescriptor) : Option ConfigRecord :=
  descriptor.owner.raw.map ConfigPointer.record

/-- The record that the accessors read: the owned one, or zeros. -/
def contents (descriptor : ConfigDescriptor) : ConfigRecord :=
  descriptor.record?.getD {}

def configurationValue (descriptor : ConfigDescriptor) : UInt8 := descriptor.contents.value

def interfaceCount (descriptor : ConfigDescriptor) : UInt8 := descriptor.contents.interfaceCount

def attributes (descriptor : ConfigDescriptor) : UInt8 := descriptor.contents.attributes

/-- The power drawn, in the units of the record. -/
def maxPower (descriptor : ConfigDescriptor) : UInt8 := descriptor.contents.maxPower

/-- The length of the record with everything that belongs to it. -/
def totalLength (descriptor : ConfigDescriptor) : UInt16 := descriptor.contents.totalLength

/-- The numbers of the interfaces, in order. -/
def interfaceNumbers (descriptor : ConfigDescriptor) : List UInt8 :=
  descriptor.contents.interfaceNumbers

def clear (descriptor : ConfigDescriptor) (world : World) : ConfigDescriptor × World :=
  let (owner, world) := descriptor.owner.clear disposal world
  ({ descriptor with owner }, world)

/-- Gives the record up without freeing it. -/
def release (descriptor : ConfigDescriptor) : Option ConfigPointer × ConfigDescriptor :=
  let (raw, owner) := descriptor.owner.release
  (raw, { descriptor with owner })

/-- Ends the descriptor; the record is freed if it is still owned. -/
def drop (descriptor : ConfigDescriptor) (world : World) : World :=
  descriptor.owner.drop disposal world

def inspect (descriptor : ConfigDescriptor) : Inspect :=
  let address := match descriptor.owner.raw with
    | some { ref := .foreign address, .. } => address
    | some { ref := .block serial, .. } => serial
    | none => 0
  .record "ConfigDescriptor" [("inner", (Owner.mk (some address)).inspect)]

end ConfigDescriptor

end UsbHost
