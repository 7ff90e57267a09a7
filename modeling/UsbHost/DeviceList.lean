import UsbHost.Device

/-!
# Device lists

A list owns the array of one enumeration together with one reference to each entry, and gives both
back at once when it ends. Devices made from an entry have references of their own and outlive the
list.

The size of a list is what the enumeration answered, read as a 64-bit word; its entries are those
of the array. Without an array there are no entries, whatever the size.
-/

set_option autoImplicit false

namespace UsbHost

variable [NativeApi]

structure DeviceList where
  library : Library
  array : Option DeviceArray
  size : Nat

namespace DeviceList

def enumerate (context : Context) : Usb DeviceList := do
  let reply ← context.library.invoke context.library.policies.call "DeviceList::new"
    .getDeviceList (NativeApi.getDeviceList context.raw)
  Usb.debug ⟨.deviceList, "Enumerated " ++ toString reply.code ++ " USB devices"⟩
  return {
    library := context.library
    array := reply.out
    size := (reply.code % UInt64.size).toNat }

/-- Whether the enumeration answered zero. -/
def isEmpty (list : DeviceList) : Bool := list.size == 0

def entries (list : DeviceList) : List Address :=
  list.array.elim [] fun array => array.entries.take list.size

def get? (list : DeviceList) (index : Nat) : Option Address := list.entries[index]?

/-- The entry at an index, or how far off the index is. -/
def entryAt (list : DeviceList) (index : Nat) : Except OutOfRange Address :=
  match list.get? index with
  | some raw => .ok raw
  | none => .error { index, size := list.size }

/-- The first entry. -/
def first? (list : DeviceList) : Option Address := list.entries.head?

def last? (list : DeviceList) : Option Address := list.entries.getLast?

/-- The device of an entry, with a reference of its own. -/
def device? (list : DeviceList) (index : Nat) (world : World) : Option Device × World :=
  match list.get? index with
  | some raw =>
    let (device, world) := Device.ofRaw list.library raw world
    (some device, world)
  | none => (none, world)

/-- The devices of the given entries, each with a reference of its own. -/
def devicesOf (library : Library) : List Address → World → List Device × World
  | [], world => ([], world)
  | raw :: rest, world =>
    let (device, world) := Device.ofRaw library raw world
    let (devices, world) := devicesOf library rest world
    (device :: devices, world)

/-- The devices of all entries, in order or backwards. -/
def devices (list : DeviceList) (backwards : Bool) (world : World) : List Device × World :=
  devicesOf list.library (if backwards then list.entries.reverse else list.entries) world

/-- The first of the given entries whose path can be read and is the one sought. An entry that is
passed over gives its reference back before the next one is looked at. -/
def findAmong (library : Library) (path : String) : List Address → World → Option Device × World
  | [], world => (none, world)
  | raw :: rest, world =>
    let (device, world) := Device.ofRaw library raw world
    match device.path world with
    | .ok candidate world =>
      if candidate = path then (some device, world)
      else findAmong library path rest (device.drop world)
    | .error _ world => findAmong library path rest (device.drop world)

/-- The first device at a position. Devices whose position cannot be read are skipped. -/
def findByPath (list : DeviceList) (path : String) (world : World) : Option Device × World :=
  findAmong list.library path list.entries world

/-- Ends the list: the array and the references of its entries are given back. -/
def drop (list : DeviceList) (world : World) : World :=
  match list.array with
  | some array => world.call (NativeApi.freeDeviceList (.block array.block) 1)
  | none => world

def inspect (list : DeviceList) : Inspect :=
  .list (list.entries.map .address)

end DeviceList

end UsbHost
