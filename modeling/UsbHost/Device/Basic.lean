import UsbHost.World
import UsbHost.Owner.Basic

/-!
# Device values

A device value owns one reference to a device: it is taken when the value is made and given back
when the value ends. Taking a reference to null does nothing, and null is never given back.
-/

set_option autoImplicit false

namespace UsbHost

variable [NativeApi]

structure Device where
  library : Library
  owner : Owner Address := .empty

namespace Device

def disposal (raw : Address) (world : World) : World :=
  world.call (NativeApi.unrefDevice raw)

/-- Takes one more reference to `raw`, unless it is null. -/
def takeReference (raw : Address) (world : World) : World :=
  if raw = 0 then world else world.call fun bus => (NativeApi.refDevice raw bus).2

/-- The device that taking a reference answers. -/
def referenced (raw : Address) (world : World) : Address :=
  if raw = 0 then raw else (NativeApi.refDevice raw world.bus).1

/-- A value that names no device. -/
def empty (library : Library) : Device := { library }

/-- Names the device `raw`, with a reference of its own. -/
def ofRaw (library : Library) (raw : Address) (world : World) : Device × World :=
  ({ library, owner := .ofRaw (referenced raw world).owned? }, takeReference raw world)

/-- The raw device, null if there is none. -/
def raw (device : Device) : Address := device.owner.raw.getD 0

/-- Whether the value names no device. -/
def isEmpty (device : Device) : Bool := device.owner.isEmpty

def drop (device : Device) (world : World) : World :=
  device.owner.drop disposal world

def inspect (device : Device) : Inspect :=
  .record "UsbDevice" [("inner", device.owner.inspect)]

end Device

end UsbHost
