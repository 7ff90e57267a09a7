/-!
# Native descriptor records

The records that the native library fills in: the device record as one block of fields, and the
configuration record, which refers to an array of interfaces. Either reference inside it may be
null, which is `none` here.
-/

set_option autoImplicit false

namespace UsbHost

/-- The device record of the native library. Every field of a record that was not written is
zero. -/
structure DeviceRecord where
  length : UInt8 := 0
  descriptorType : UInt8 := 0
  usbVersion : UInt16 := 0
  classCode : UInt8 := 0
  subClassCode : UInt8 := 0
  protocolCode : UInt8 := 0
  maxPacketSize : UInt8 := 0
  vendor : UInt16 := 0
  product : UInt16 := 0
  deviceVersion : UInt16 := 0
  manufacturerText : UInt8 := 0
  productText : UInt8 := 0
  serialText : UInt8 := 0
  configurations : UInt8 := 0
  deriving DecidableEq, Repr

/-- One interface of a configuration record: the interface numbers of its alternate settings and
the count that the record claims for them, which need not be the length of the list. -/
structure InterfaceRecord where
  settings : Option (List UInt8) := none
  count : Int := 0
  deriving DecidableEq, Repr

/-- The number of an interface, taken from its first alternate setting. -/
def InterfaceRecord.number? (interface : InterfaceRecord) : Option UInt8 :=
  if 0 < interface.count then interface.settings.bind List.head? else none

structure ConfigRecord where
  length : UInt8 := 0
  descriptorType : UInt8 := 0
  totalLength : UInt16 := 0
  interfaceCount : UInt8 := 0
  value : UInt8 := 0
  attributes : UInt8 := 0
  maxPower : UInt8 := 0
  interfaces : Option (List InterfaceRecord) := none
  deriving DecidableEq, Repr

/-- The numbers of the interfaces, in order, without those that have no alternate setting. Only
as many interfaces as the record counts are looked at. -/
def ConfigRecord.interfaceNumbers (record : ConfigRecord) : List UInt8 :=
  match record.interfaces with
  | none => []
  | some interfaces =>
    (interfaces.take record.interfaceCount.toNat).filterMap InterfaceRecord.number?

/-- The record of configuration `value` of a device with `interfaces` interfaces, each with one
alternate setting and numbered from zero. -/
def ConfigRecord.build (value interfaces : UInt8) : ConfigRecord where
  length := 9
  descriptorType := 2
  totalLength := 9 + 9 * interfaces.toUInt16
  interfaceCount := interfaces
  value := value
  attributes := 0x80
  maxPower := 50
  interfaces :=
    if interfaces = 0 then none
    else some ((List.range interfaces.toNat).map fun n =>
      { settings := some [UInt8.ofNat n], count := 1 })

end UsbHost
