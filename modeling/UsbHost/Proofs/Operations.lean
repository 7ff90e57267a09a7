import UsbHost.Proofs.Endings

/-!
# What operations on resources do to the titles

Every operation that makes a resource obtains at most the title of that resource, every reading is
quiet, and every refusal leaves the bus as it was. An empty device or handle refuses before any
native call.
-/

set_option autoImplicit false

namespace UsbHost

variable {α : Type} {world : World} {after : World}

/-- A resource with nothing claimed was made: the bus gave out at most its title. -/
structure World.Makes (before : World) (library : Library) (resource : Resource)
    (after : World) : Prop where
  acquires : before.bus.Acquires after.bus resource.title?
  library : resource.library = library
  claimed : resource.claimed = []

/-! ## Contexts and lists -/

theorem Context.start_ends (library : Library) (world : World) :
    (Context.start library).Ends world
      (fun context after => world.Makes library (.context context) after)
      (fun _ after => world.Refused after) := by
  unfold Context.start
  rw [Usb.ends_bind]
  refine world.bus.initLibrary_obtains.invoke.imp ?_ fun _ _ refused => refused
  rintro reply after ⟨acquires, -⟩
  simp only [Usb.ends_bind, Usb.ends_debug, Usb.ends_pure]
  exact ⟨acquires, rfl, rfl⟩

theorem DeviceList.enumerate_ends (context : Context) (world : World) :
    (DeviceList.enumerate context).Ends world
      (fun list after => world.Makes context.library (.list list) after)
      (fun _ after => world.Refused after) := by
  unfold DeviceList.enumerate
  rw [Usb.ends_bind]
  refine world.bus.getDeviceList_obtains.invoke.imp ?_ fun _ _ refused => refused
  rintro reply after ⟨acquires, -⟩
  simp only [Usb.ends_bind, Usb.ends_debug, Usb.ends_pure]
  exact ⟨acquires, rfl, rfl⟩

/-! ## Devices -/

/-- The bus answers the device itself to whoever takes a reference to it. -/
theorem Device.referenced_eq (raw : Address) (world : World) : referenced raw world = raw :=
  ite_self raw

theorem Device.ofRaw_makes (library : Library) (raw : Address) (world : World)
    (attached : raw ≠ 0 → world.bus.Knows raw) :
    world.Makes library (.device (Device.ofRaw library raw world).1)
      (Device.ofRaw library raw world).2 := by
  refine ⟨?_, rfl, rfl⟩
  by_cases null : raw = 0
  · simp only [Device.ofRaw, referenced_eq, Device.takeReference, Address.owned?, if_pos null]
    exact .nothing (.refl _)
  · simp only [Device.ofRaw, referenced_eq, Device.takeReference, Address.owned?, if_neg null]
    exact Bus.refDevice_acquires (attached null)

def Device.Attached (device : Device) (bus : Bus) : Prop :=
  ∀ raw, device.owner.raw = some raw → bus.Knows raw

theorem Device.clone_makes {device : Device} (attached : device.Attached world.bus) :
    world.Makes device.library (.device (device.clone world).1) (device.clone world).2 := by
  refine Device.ofRaw_makes _ _ _ fun nonNull => ?_
  cases owned : device.owner.raw with
  | none => simp [Device.raw, owned] at nonNull
  | some raw => simpa [Device.raw, owned] using attached raw owned

/-- What needs a raw device is refused without one, and otherwise goes on with it. -/
theorem Device.requireRaw_ends {device : Device} {next : Address → Usb α} {ok : α → World → Prop}
    (attached : device.Attached world.bus)
    (goesOn : ∀ raw, world.bus.Knows raw →
      (next raw).Ends world ok fun _ after => world.Refused after) :
    (device.requireRaw >>= next).Ends world ok fun _ after => world.Refused after := by
  rw [Usb.ends_bind]
  unfold Device.requireRaw
  split
  · next raw owned => exact goesOn raw (attached raw owned)
  · exact .refl world

theorem Device.openHandle_ends {device : Device} (attached : device.Attached world.bus) :
    device.openHandle.Ends world
      (fun handle after => world.Makes device.library (.handle handle) after)
      (fun _ after => world.Refused after) := by
  unfold Device.openHandle
  refine Device.requireRaw_ends attached fun raw known => ?_
  rw [Usb.ends_bind]
  refine (Bus.openDevice_obtains known).invoke.imp ?_ fun _ _ refused => refused
  rintro reply after ⟨acquires, -⟩
  simp only [Usb.ends_bind, Usb.ends_debug, Usb.ends_pure]
  exact ⟨acquires, rfl, rfl⟩

theorem Device.configDescriptorWith_ends {device : Device} (attached : device.Attached world.bus)
    (policy : CallPolicy) (index : UInt8) :
    (device.configDescriptorWith policy index).Ends world
      (fun descriptor after => world.Makes device.library (.descriptor descriptor) after)
      (fun _ after => world.Refused after) := by
  unfold Device.configDescriptorWith
  refine Device.requireRaw_ends attached fun raw known => ?_
  rw [Usb.ends_bind]
  refine (Bus.getConfigDescriptor_obtains known index).invoke.imp ?_
    fun _ _ refused => refused
  rintro reply after ⟨acquires, unwritten⟩
  split
  · next negative =>
    rw [unwritten negative] at acquires
    exact ⟨acquires, rfl, rfl⟩
  · exact ⟨acquires, rfl, rfl⟩

theorem Device.descriptorWith_ends {device : Device} (attached : device.Attached world.bus)
    (policy : CallPolicy) :
    (device.descriptorWith policy).Ends world (fun _ after => world.bus.Quiet after.bus)
      (fun _ after => world.Refused after) := by
  unfold Device.descriptorWith
  refine Device.requireRaw_ends attached fun raw known => ?_
  rw [Usb.ends_bind]
  exact (Bus.getDeviceDescriptor_answers known).invoke

theorem Device.portNumbers_ends {device : Device} (attached : device.Attached world.bus) :
    device.portNumbers.Ends world (fun _ after => world.bus.Quiet after.bus)
      (fun _ after => world.Refused after) := by
  unfold Device.portNumbers
  refine Device.requireRaw_ends attached fun raw known => ?_
  rw [Usb.ends_bind]
  exact (Bus.getPortNumbers_answers known _).invoke

theorem Device.Attached.quiet {device : Device} {before after : Bus}
    (attached : device.Attached before) (quiet : before.Quiet after) : device.Attached after :=
  fun raw owned => quiet.knows_iff.mpr (attached raw owned)

theorem Device.readByte_quiet {device : Device} (attached : device.Attached world.bus)
    (function : NativeFunction) (byte : DeviceInfo → UInt8) :
    world.bus.Quiet (match device.owner.raw with
      | some raw => world.ask (Bus.readByte function raw byte)
      | none => (0, world)).2.bus := by
  split
  · next raw owned => exact (Bus.readByte_untouched (attached raw owned) function byte).quiet
  · exact .refl _

theorem Device.busNumber_quiet {device : Device} (attached : device.Attached world.bus) :
    world.bus.Quiet (device.busNumber world).2.bus :=
  Device.readByte_quiet attached .getBusNumber DeviceInfo.bus

theorem Device.address_quiet {device : Device} (attached : device.Attached world.bus) :
    world.bus.Quiet (device.address world).2.bus :=
  Device.readByte_quiet attached .getDeviceAddress DeviceInfo.address

theorem Device.path_ends {device : Device} (attached : device.Attached world.bus) :
    device.path.Ends world (fun _ after => world.bus.Quiet after.bus)
      (fun _ after => world.Refused after) := by
  unfold Device.path
  rw [Usb.ends_bind]
  refine (Device.portNumbers_ends attached).imp (fun ports middle quiet => ?_)
    fun _ _ refused => refused
  simp only [Usb.ends_bind, Usb.ends_lift, Usb.ends_pure]
  exact quiet.trans (Device.busNumber_quiet (attached.quiet quiet))

theorem Device.descriptorOrDefault_quiet {device : Device} (attached : device.Attached world.bus) :
    world.bus.Quiet (device.descriptorOrDefault world).2.bus := by
  have ends := Device.descriptorWith_ends attached device.library.policies.query.quiet
  unfold Device.descriptorOrDefault
  split
  · next reached => exact ends.of_ok reached
  · next reached => exact (ends.of_error reached).quiet

/-! ## Handles -/

def Handle.Open (handle : Handle) (bus : Bus) : Prop :=
  ∀ raw, handle.owner.raw = some raw → ∃ opened, bus.handle? raw = some opened

theorem Handle.wrapSystemDevice_ends (context : Context) (systemHandle : Int) (world : World) :
    (Handle.wrapSystemDevice context systemHandle).Ends world
      (fun handle after => world.Makes context.library (.handle handle) after)
      (fun _ after => world.Refused after) := by
  unfold Handle.wrapSystemDevice
  rw [Usb.ends_bind]
  refine (world.bus.wrapSystemDevice_obtains systemHandle).invoke.imp ?_ fun _ _ refused => refused
  rintro reply after ⟨acquires, -⟩
  simp only [Usb.ends_bind, Usb.ends_debug, Usb.ends_pure]
  exact ⟨acquires, rfl, rfl⟩

/-- What needs a native handle is refused without one, and otherwise goes on with it. -/
theorem Handle.requireRaw_ends {handle : Handle} {next : Address → Usb α} {ok : α → World → Prop}
    (isOpen : handle.Open world.bus)
    (goesOn : ∀ raw opened, handle.owner.raw = some raw → world.bus.handle? raw = some opened →
      (next raw).Ends world ok fun _ after => world.Refused after) :
    (handle.requireRaw >>= next).Ends world ok fun _ after => world.Refused after := by
  rw [Usb.ends_bind]
  unfold Handle.requireRaw
  split
  · next raw owned =>
    obtain ⟨opened, found⟩ := isOpen raw owned
    exact goesOn raw opened owned found
  · exact .refl world

theorem Handle.setConfiguration_ends {handle : Handle} (isOpen : handle.Open world.bus)
    (value : Int) :
    (handle.setConfiguration value).Ends world (fun _ after => world.bus.Quiet after.bus)
      (fun _ after => world.Refused after) := by
  unfold Handle.setConfiguration
  refine Handle.requireRaw_ends isOpen fun raw opened _ found => ?_
  rw [Usb.ends_bind]
  exact (Bus.setConfiguration_answers found value).invoke

theorem Handle.configurationWith_ends {handle : Handle} (isOpen : handle.Open world.bus)
    (policy : CallPolicy) :
    (handle.configurationWith policy).Ends world (fun _ after => world.bus.Quiet after.bus)
      (fun _ after => world.Refused after) := by
  unfold Handle.configurationWith
  refine Handle.requireRaw_ends isOpen fun raw opened _ found => ?_
  rw [Usb.ends_bind]
  exact (Bus.getConfiguration_answers found).invoke

theorem Handle.configurationOrDefault_quiet {handle : Handle} (isOpen : handle.Open world.bus) :
    world.bus.Quiet (handle.configurationOrDefault world).2.bus := by
  have ends := Handle.configurationWith_ends isOpen handle.library.policies.query.quiet
  unfold Handle.configurationOrDefault
  split
  · next reached => exact ends.of_ok reached
  · next reached => exact (ends.of_error reached).quiet

theorem Handle.setAutoDetachWith_ends {handle : Handle} (isOpen : handle.Open world.bus)
    (policy : CallPolicy) (enable : Bool) :
    (handle.setAutoDetachWith policy enable).Ends world
      (fun _ after => world.bus.Quiet after.bus) (fun _ after => world.Refused after) := by
  unfold Handle.setAutoDetachWith
  refine Handle.requireRaw_ends isOpen fun raw opened _ found => ?_
  rw [Usb.ends_bind]
  exact (Bus.setAutoDetach_answers found _).invoke

/-- What a handle owns is open on an attached device. -/
def Handle.Seated (handle : Handle) (bus : Bus) : Prop :=
  ∀ raw, handle.owner.raw = some raw →
    ∃ opened, bus.handle? raw = some opened ∧ bus.Knows opened.device ∧ opened.device ≠ 0

theorem Handle.Seated.isOpen {handle : Handle} {bus : Bus} (seated : handle.Seated bus) :
    handle.Open bus := by
  intro raw owned
  obtain ⟨opened, found, -⟩ := seated raw owned
  exact ⟨opened, found⟩

theorem Handle.device_ends {handle : Handle} (seated : handle.Seated world.bus) :
    handle.device.Ends world
      (fun device after => world.Makes handle.library (.device device) after)
      (fun _ after => world.Refused after) := by
  unfold Handle.device
  refine Handle.requireRaw_ends seated.isOpen fun raw _ owned _ => ?_
  obtain ⟨opened, found, known, nonNull⟩ := seated raw owned
  simp only [Usb.ends_bind, Usb.ends_lift, World.ask, NativeApi.getDevice,
    Bus.getDevice_found found]
  rw [if_neg nonNull]
  have makes := Device.ofRaw_makes handle.library opened.device
    ⟨world.bus.record .getDevice, world.log⟩ fun _ => known
  exact ⟨(world.bus.untouched_record ..).acquires makes.acquires, makes.library, makes.claimed⟩

/-! ## Claims -/

theorem Handle.nativeInterface_injective : Function.Injective nativeInterface := by
  intro left right same
  exact UInt8.toNat_inj.mp (Int.ofNat.inj same)

/-- How a claim ends that is not refused: there was nothing to do, or the bus was asked. -/
inductive Handle.ClaimEnds (handle : Handle) (interface : UInt8) (before : World) :
    Handle → World → Prop where
  | already : interface ∈ handle.claimed → ClaimEnds handle interface before handle before
  | asked {raw : Address} {opened : OpenHandle} {code : Int} {after : World} :
      handle.owner.raw = some raw → before.bus.handle? raw = some opened →
      interface ∉ handle.claimed → (handle.library.policies.call.raise → 0 ≤ code) →
      before.bus.Claims opened (nativeInterface interface) code after.bus →
      ClaimEnds handle interface before
        { handle with claimed := handle.claimed ++ [interface] } after

/-- How a release ends that is not refused: there was nothing to do, or the bus was asked. -/
inductive Handle.ReleaseEnds (handle : Handle) (interface : UInt8) (before : World) :
    Handle → World → Prop where
  | already : interface ∉ handle.claimed → ReleaseEnds handle interface before handle before
  | asked {raw : Address} {opened : OpenHandle} {code : Int} {after : World} :
      handle.owner.raw = some raw → before.bus.handle? raw = some opened →
      interface ∈ handle.claimed → (handle.library.policies.call.raise → 0 ≤ code) →
      before.bus.Releases opened (nativeInterface interface) code after.bus →
      ReleaseEnds handle interface before
        { handle with claimed := handle.claimed.erase interface } after

theorem Handle.isClaimed_iff {handle : Handle} {interface : UInt8} :
    handle.isClaimed interface ↔ interface ∈ handle.claimed :=
  List.contains_iff_mem

theorem Handle.claimInterface_ends {handle : Handle} (isOpen : handle.Open world.bus)
    (interface : UInt8) :
    (handle.claimInterface interface).Ends world (handle.ClaimEnds interface world)
      (fun _ after => world.Refused after) := by
  unfold Handle.claimInterface
  by_cases claimed : handle.isClaimed interface
  · rw [if_pos claimed]
    exact .already (isClaimed_iff.mp claimed)
  · rw [if_neg claimed]
    refine Handle.requireRaw_ends isOpen fun raw opened owned found => ?_
    have claims := Bus.claimInterface_claims found (nativeInterface interface)
    rw [Usb.ends_bind]
    refine Library.invoke_of claims.untouched fun raises => ?_
    exact .asked owned found (mt isClaimed_iff.mpr claimed) raises claims

theorem Handle.releaseInterface_ends {handle : Handle} (isOpen : handle.Open world.bus)
    (interface : UInt8) :
    (handle.releaseInterface interface).Ends world (handle.ReleaseEnds interface world)
      (fun _ after => world.Refused after) := by
  unfold Handle.releaseInterface
  by_cases claimed : handle.isClaimed interface
  · rw [if_neg (by simpa using claimed)]
    refine Handle.requireRaw_ends isOpen fun raw opened owned found => ?_
    have releases := Bus.releaseInterface_releases found (nativeInterface interface)
    rw [Usb.ends_bind]
    refine Library.invoke_of releases.untouched fun raises => ?_
    exact .asked owned found (isClaimed_iff.mp claimed) raises releases
  · rw [if_pos (by simpa using claimed)]
    exact .already (mt isClaimed_iff.mpr claimed)

end UsbHost
