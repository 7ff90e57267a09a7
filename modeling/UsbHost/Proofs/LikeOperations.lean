import UsbHost.Proofs.Likeness

/-!
# Operations side by side

Every operation of every kind of resource, performed on two resources that differ in their
libraries only and in worlds that are alike, ends in the same way. No operation looks at the texts
of its library, and no operation but a checked call looks at its policies.
-/

set_option autoImplicit false

namespace UsbHost

open Usb

variable {like : Likeness} {left right : World} {library : Library}

/-! ## Resources -/

/-- Contexts that differ in their libraries only. -/
def Context.Like (like : Likeness) (one other : Context) : Prop :=
  ∃ library, like.library one.library library ∧ other = { one with library }

def DeviceList.Like (like : Likeness) (one other : DeviceList) : Prop :=
  ∃ library, like.library one.library library ∧ other = { one with library }

def Device.Like (like : Likeness) (one other : Device) : Prop :=
  ∃ library, like.library one.library library ∧ other = { one with library }

def Handle.Like (like : Likeness) (one other : Handle) : Prop :=
  ∃ library, like.library one.library library ∧ other = { one with library }

def ConfigDescriptor.Like (like : Likeness) (one other : ConfigDescriptor) : Prop :=
  ∃ library, like.library one.library library ∧ other = { one with library }

theorem Owner.dispose_like {α : Type} {disposal : α → World → World} (owner : Owner α)
    (disposals : ∀ raw, like.Moves (disposal raw) (disposal raw)) :
    like.Moves (owner.dispose disposal) (owner.dispose disposal) := by
  intro left right worlds
  unfold Owner.dispose
  cases owner.raw with
  | none => exact worlds
  | some raw => exact disposals raw worlds

/-! ## Contexts -/

namespace Context

theorem disposal_like (raw : Address) : like.Moves (disposal raw) (disposal raw) :=
  fun _ _ worlds => (worlds.call _).note _ _

theorem start_like {one other : Library} (libraries : like.library one other)
    (worlds : like.Worlds left right) :
    Alike like (start one) (start other) left right (Context.Like like) := by
  refine (Library.invoke_like libraries worlds Bus.initLibrary_coded .ordinary _
    (like.raise libraries)).bind fun same worlds => ?_
  subst same
  exact Both.debug worlds _ fun noted => Both.pure noted ⟨other, libraries, rfl⟩

theorem reset_like {context : Context} (libraries : like.library context.library library)
    (raw : Address) (worlds : like.Worlds left right) :
    (context.reset raw left).1.Like like (Context.reset { context with library } raw right).1 ∧
      like.Worlds (context.reset raw left).2
        (Context.reset { context with library } raw right).2 :=
  ⟨⟨library, libraries, rfl⟩, context.owner.dispose_like disposal_like worlds⟩

theorem release_like {context : Context} (libraries : like.library context.library library) :
    context.release.2.Like like (Context.release { context with library }).2 :=
  ⟨library, libraries, rfl⟩

theorem drop_like (context : Context) (library : Library) :
    like.Moves context.drop (Context.drop { context with library }) :=
  context.owner.dispose_like disposal_like

end Context

/-! ## Descriptors -/

namespace ConfigDescriptor

theorem disposal_like (pointer : ConfigPointer) :
    like.Moves (disposal pointer) (disposal pointer) :=
  fun _ _ worlds => worlds.call _

theorem clear_like {descriptor : ConfigDescriptor}
    (libraries : like.library descriptor.library library) (worlds : like.Worlds left right) :
    (descriptor.clear left).1.Like like
        (ConfigDescriptor.clear { descriptor with library } right).1 ∧
      like.Worlds (descriptor.clear left).2
        (ConfigDescriptor.clear { descriptor with library } right).2 :=
  ⟨⟨library, libraries, rfl⟩, descriptor.owner.dispose_like disposal_like worlds⟩

theorem release_like {descriptor : ConfigDescriptor}
    (libraries : like.library descriptor.library library) :
    descriptor.release.2.Like like (ConfigDescriptor.release { descriptor with library }).2 :=
  ⟨library, libraries, rfl⟩

theorem drop_like (descriptor : ConfigDescriptor) (library : Library) :
    like.Moves descriptor.drop (ConfigDescriptor.drop { descriptor with library }) :=
  descriptor.owner.dispose_like disposal_like

end ConfigDescriptor

/-! ## Device values -/

namespace Device

theorem disposal_like (raw : Address) : like.Moves (disposal raw) (disposal raw) :=
  fun _ _ worlds => worlds.call _

theorem takeReference_like (raw : Address) :
    like.Moves (takeReference raw) (takeReference raw) := by
  intro left right worlds
  unfold takeReference
  split
  · exact worlds
  · exact worlds.call _

theorem ofRaw_like {one other : Library} (libraries : like.library one other) (raw : Address)
    (worlds : like.Worlds left right) :
    (ofRaw one raw left).1.Like like (ofRaw other raw right).1 ∧
      like.Worlds (ofRaw one raw left).2 (ofRaw other raw right).2 :=
  ⟨⟨other, libraries, rfl⟩, takeReference_like raw worlds⟩

theorem drop_like (device : Device) (library : Library) :
    like.Moves device.drop (Device.drop { device with library }) :=
  device.owner.dispose_like disposal_like

end Device

/-! ## Handles -/

namespace Handle

theorem disposal_like (raw : Address) : like.Moves (disposal raw) (disposal raw) :=
  fun _ _ worlds => (worlds.call _).note _ _

/-- Both handles have the raw handle that is needed, or both refuse. -/
theorem require_like {α β : Type} {values : α → β → Prop} (handle : Handle) (library : Library)
    (worlds : like.Worlds left right) {next : Address → Usb α} {next' : Address → Usb β}
    (owned : ∀ raw, Alike like (next raw) (next' raw) left right values) :
    Alike like (handle.requireRaw >>= next)
      (Handle.requireRaw { handle with library } >>= next') left right values := by
  unfold requireRaw
  cases handle.owner.raw with
  | none => exact Alike.refuse worlds .invalidParam
  | some raw => exact owned raw

theorem wrapSystemDevice_like {one other : Context} (contexts : one.Like like other)
    (systemHandle : Int) (worlds : like.Worlds left right) :
    Alike like (wrapSystemDevice one systemHandle) (wrapSystemDevice other systemHandle) left right
      (Handle.Like like) := by
  obtain ⟨library, libraries, rfl⟩ := contexts
  refine (Library.invoke_like libraries worlds (Bus.wrapSystemDevice_coded systemHandle) .ordinary _
    (like.raise libraries)).bind fun same worlds => ?_
  subst same
  exact Both.debug worlds _ fun noted => Both.pure noted ⟨library, libraries, rfl⟩

section

variable {handle : Handle} (libraries : like.library handle.library library)

include libraries

theorem claimInterface_like (interface : UInt8) (worlds : like.Worlds left right) :
    Alike like (handle.claimInterface interface)
      (Handle.claimInterface { handle with library } interface) left right (Handle.Like like) := by
  have seen : Handle.isClaimed { handle with library } interface = handle.isClaimed interface := rfl
  unfold claimInterface
  rw [seen]
  cases handle.isClaimed interface with
  | true => exact Alike.pure worlds ⟨library, libraries, rfl⟩
  | false =>
    refine handle.require_like library worlds fun raw => ?_
    refine (Library.invoke_like libraries worlds
      (Bus.claimInterface_coded raw (nativeInterface interface)) .ordinary _
      (like.raise libraries)).bind fun _ worlds => ?_
    exact Both.debug worlds _ fun noted => Both.pure noted ⟨library, libraries, rfl⟩

theorem releaseInterface_like (interface : UInt8) (worlds : like.Worlds left right) :
    Alike like (handle.releaseInterface interface)
      (Handle.releaseInterface { handle with library } interface) left right
      (Handle.Like like) := by
  have seen : Handle.isClaimed { handle with library } interface = handle.isClaimed interface := rfl
  unfold releaseInterface
  rw [seen]
  cases handle.isClaimed interface with
  | false => exact Alike.pure worlds ⟨library, libraries, rfl⟩
  | true =>
    refine handle.require_like library worlds fun raw => ?_
    refine (Library.invoke_like libraries worlds
      (Bus.releaseInterface_coded raw (nativeInterface interface)) .ordinary _
      (like.raise libraries)).bind fun _ worlds => ?_
    exact Both.debug worlds _ fun noted => Both.pure noted ⟨library, libraries, rfl⟩

theorem setConfiguration_like (value : Int) (worlds : like.Worlds left right) :
    Alike like (handle.setConfiguration value)
      (Handle.setConfiguration { handle with library } value) left right
      fun _ _ => True := by
  refine handle.require_like library worlds fun raw => ?_
  refine (Library.invoke_like libraries worlds (Bus.setConfiguration_coded raw value) .ordinary _
    (like.raise libraries)).bind fun _ worlds => ?_
  exact Both.pure worlds trivial

theorem configurationWith_like (purpose : Purpose)
    (raises : (purpose.policy library).raise = (purpose.policy handle.library).raise)
    (worlds : like.Worlds left right) :
    Alike like (handle.configurationWith (purpose.policy handle.library))
      (Handle.configurationWith { handle with library } (purpose.policy library)) left right
      fun value value' => value' = value := by
  refine handle.require_like library worlds fun raw => ?_
  refine (Library.invoke_like libraries worlds (Bus.getConfiguration_coded raw) purpose _
    raises).bind fun same worlds => ?_
  subst same
  exact Both.pure worlds rfl

theorem setAutoDetachWith_like (purpose : Purpose) (enable : Bool)
    (raises : (purpose.policy library).raise = (purpose.policy handle.library).raise)
    (worlds : like.Worlds left right) :
    Alike like (handle.setAutoDetachWith (purpose.policy handle.library) enable)
      (Handle.setAutoDetachWith { handle with library } (purpose.policy library) enable) left right
      fun _ _ => True := by
  refine handle.require_like library worlds fun raw => ?_
  refine (Library.invoke_like libraries worlds (Bus.setAutoDetach_coded raw _) purpose _
    raises).bind fun _ worlds => ?_
  exact Both.pure worlds trivial

theorem configurationOrDefault_like (worlds : like.Worlds left right) :
    (Handle.configurationOrDefault { handle with library } right).1 =
        (handle.configurationOrDefault left).1 ∧
      like.Worlds (handle.configurationOrDefault left).2
        (Handle.configurationOrDefault { handle with library } right).2 := by
  have alike := configurationWith_like libraries .query rfl worlds
  unfold Alike Purpose.policy at alike
  unfold configurationOrDefault
  generalize handle.configurationWith _ left = ended at alike ⊢
  generalize Handle.configurationWith _ _ right = ended' at alike ⊢
  cases alike with
  | ok worlds same => exact ⟨same, worlds⟩
  | error calls worlds => exact ⟨rfl, worlds⟩

theorem device_like (worlds : like.Worlds left right) :
    Alike like handle.device (Handle.device { handle with library }) left right
      (Device.Like like) := by
  refine handle.require_like library worlds fun raw => ?_
  obtain ⟨argument, journal⟩ := (Bus.getDevice_uncoded raw).journal left.bus
  refine Alike.ask worlds (Bus.getDevice raw) fun device asked => ?_
  by_cases null : device = 0
  · rw [if_pos null, if_pos null]
    exact .error _ asked journal (.own .noDevice (by simp))
  · rw [if_neg null, if_neg null]
    obtain ⟨devices, worlds⟩ := Device.ofRaw_like libraries device asked
    exact .ok worlds devices

/-- The releases of a teardown are made and logged in both runs, whatever the policies say. -/
theorem releaseOne_like (raw : Address) (interface : UInt8) :
    like.Moves (releaseOne handle.library raw · interface) (releaseOne library raw · interface) :=
  fun _ _ worlds => (Library.attempt_like libraries worlds .cleanup _ _ _).2

theorem releaseAll_like (raw : Address) (interfaces : List UInt8) :
    like.Moves (interfaces.foldl (releaseOne handle.library raw))
      (interfaces.foldl (releaseOne library raw)) := by
  induction interfaces with
  | nil => exact fun _ _ worlds => worlds
  | cons interface rest ih =>
    exact fun _ _ worlds => ih (releaseOne_like libraries raw interface worlds)

theorem releaseClaimed_like :
    like.Moves handle.releaseClaimed (Handle.releaseClaimed { handle with library }) := by
  intro left right worlds
  unfold releaseClaimed
  cases handle.owner.raw with
  | none => exact worlds
  | some raw => exact releaseAll_like libraries raw handle.claimed worlds

theorem reset_like (raw : Address) (worlds : like.Worlds left right) :
    (handle.reset raw left).1.Like like (Handle.reset { handle with library } raw right).1 ∧
      like.Worlds (handle.reset raw left).2
        (Handle.reset { handle with library } raw right).2 :=
  ⟨⟨library, libraries, rfl⟩,
    handle.owner.dispose_like disposal_like (releaseClaimed_like libraries worlds)⟩

theorem release_like :
    handle.release.2.Like like (Handle.release { handle with library }).2 :=
  ⟨library, libraries, rfl⟩

theorem drop_like : like.Moves handle.drop (Handle.drop { handle with library }) :=
  fun _ _ worlds => (Owner.ofRaw (Address.owned? 0)).dispose_like disposal_like
    (reset_like libraries 0 worlds).2

end

end Handle

/-! ## Devices -/

namespace Device

/-- Both devices have the raw device that is needed, or both refuse. -/
theorem require_like {α β : Type} {values : α → β → Prop} (device : Device) (library : Library)
    (worlds : like.Worlds left right) {next : Address → Usb α} {next' : Address → Usb β}
    (owned : ∀ raw, Alike like (next raw) (next' raw) left right values) :
    Alike like (device.requireRaw >>= next)
      (Device.requireRaw { device with library } >>= next') left right values := by
  unfold requireRaw
  cases device.owner.raw with
  | none => exact Alike.refuse worlds .invalidParam
  | some raw => exact owned raw

theorem busNumber_like (device : Device) (library : Library) (worlds : like.Worlds left right) :
    (Device.busNumber { device with library } right).1 = (device.busNumber left).1 ∧
      like.Worlds (device.busNumber left).2 (Device.busNumber { device with library } right).2 := by
  unfold busNumber
  cases device.owner.raw with
  | none => exact ⟨rfl, worlds⟩
  | some raw => exact worlds.ask _

theorem address_like (device : Device) (library : Library) (worlds : like.Worlds left right) :
    (Device.address { device with library } right).1 = (device.address left).1 ∧
      like.Worlds (device.address left).2 (Device.address { device with library } right).2 := by
  unfold address
  cases device.owner.raw with
  | none => exact ⟨rfl, worlds⟩
  | some raw => exact worlds.ask _

section

variable {device : Device} (libraries : like.library device.library library)

include libraries

theorem reset_like (raw : Address) (worlds : like.Worlds left right) :
    (device.reset raw left).1.Like like (Device.reset { device with library } raw right).1 ∧
      like.Worlds (device.reset raw left).2
        (Device.reset { device with library } raw right).2 :=
  ⟨⟨library, libraries, rfl⟩,
    device.owner.dispose_like disposal_like (takeReference_like raw worlds)⟩

theorem release_like :
    device.release.2.Like like (Device.release { device with library }).2 :=
  ⟨library, libraries, rfl⟩

theorem clone_like (worlds : like.Worlds left right) :
    (device.clone left).1.Like like (Device.clone { device with library } right).1 ∧
      like.Worlds (device.clone left).2 (Device.clone { device with library } right).2 :=
  ofRaw_like libraries device.raw worlds

theorem openHandle_like (worlds : like.Worlds left right) :
    Alike like device.openHandle (Device.openHandle { device with library }) left right
      (Handle.Like like) := by
  refine device.require_like library worlds fun raw => ?_
  refine (Library.invoke_like libraries worlds (Bus.openDevice_coded raw) .ordinary _
    (like.raise libraries)).bind fun same worlds => ?_
  subst same
  exact Both.debug worlds _ fun noted => Both.pure noted ⟨library, libraries, rfl⟩

theorem configDescriptorWith_like (purpose : Purpose) (index : UInt8)
    (raises : (purpose.policy library).raise = (purpose.policy device.library).raise)
    (worlds : like.Worlds left right) :
    Alike like (device.configDescriptorWith (purpose.policy device.library) index)
      (Device.configDescriptorWith { device with library } (purpose.policy library) index)
      left right (ConfigDescriptor.Like like) := by
  refine device.require_like library worlds fun raw => ?_
  refine (Library.invoke_like libraries worlds (Bus.getConfigDescriptor_coded raw index) purpose _
    raises).bind @fun _ reply _ _ same worlds => ?_
  subst same
  by_cases failed : reply.code < 0
  · rw [if_pos failed, if_pos failed]
    exact Both.pure worlds ⟨library, libraries, rfl⟩
  · rw [if_neg failed, if_neg failed]
    exact Both.pure worlds ⟨library, libraries, rfl⟩

theorem descriptorWith_like (purpose : Purpose)
    (raises : (purpose.policy library).raise = (purpose.policy device.library).raise)
    (worlds : like.Worlds left right) :
    Alike like (device.descriptorWith (purpose.policy device.library))
      (Device.descriptorWith { device with library } (purpose.policy library)) left right
      fun value value' => value' = value := by
  refine device.require_like library worlds fun raw => ?_
  refine (Library.invoke_like libraries worlds (Bus.getDeviceDescriptor_coded raw) purpose _
    raises).bind fun same worlds => ?_
  subst same
  exact Both.pure worlds rfl

theorem descriptorOrDefault_like (worlds : like.Worlds left right) :
    (Device.descriptorOrDefault { device with library } right).1 =
        (device.descriptorOrDefault left).1 ∧
      like.Worlds (device.descriptorOrDefault left).2
        (Device.descriptorOrDefault { device with library } right).2 := by
  have alike := descriptorWith_like libraries .query rfl worlds
  unfold Alike Purpose.policy at alike
  unfold descriptorOrDefault
  generalize device.descriptorWith _ left = ended at alike ⊢
  generalize Device.descriptorWith _ _ right = ended' at alike ⊢
  cases alike with
  | ok worlds same => exact ⟨same, worlds⟩
  | error calls worlds => exact ⟨rfl, worlds⟩

theorem portNumbers_like (worlds : like.Worlds left right) :
    Alike like device.portNumbers (Device.portNumbers { device with library }) left right
      fun ports ports' => ports' = ports := by
  refine device.require_like library worlds fun raw => ?_
  refine (Library.invoke_like libraries worlds (Bus.getPortNumbers_coded raw _) .ordinary _
    (like.raise libraries)).bind fun same worlds => ?_
  subst same
  exact Both.pure worlds rfl

theorem path_like (worlds : like.Worlds left right) :
    Alike like device.path (Device.path { device with library }) left right
      fun path path' => path' = path := by
  refine (portNumbers_like libraries worlds).bind fun same worlds => ?_
  obtain ⟨number, asked⟩ := device.busNumber_like library worlds
  subst same
  exact .ok asked (congrArg (pathText · _) number)

end

end Device

/-! ## Device lists -/

namespace DeviceList

theorem enumerate_like {one other : Context} (contexts : one.Like like other)
    (worlds : like.Worlds left right) :
    Alike like (enumerate one) (enumerate other) left right (DeviceList.Like like) := by
  obtain ⟨library, libraries, rfl⟩ := contexts
  refine (Library.invoke_like libraries worlds Bus.getDeviceList_coded .ordinary _
    (like.raise libraries)).bind fun same worlds => ?_
  subst same
  exact Both.debug worlds _ fun noted => Both.pure noted ⟨library, libraries, rfl⟩

theorem drop_like (list : DeviceList) (library : Library) :
    like.Moves list.drop (DeviceList.drop { list with library }) := by
  intro left right worlds
  unfold drop
  cases list.array with
  | none => exact worlds
  | some array => exact worlds.call _

section

variable {one other : Library} (libraries : like.library one other)

include libraries

theorem devicesOf_like (raws : List Address) (worlds : like.Worlds left right) :
    List.Forall₂ (Device.Like like) (devicesOf one raws left).1 (devicesOf other raws right).1 ∧
      like.Worlds (devicesOf one raws left).2 (devicesOf other raws right).2 := by
  induction raws generalizing left right with
  | nil => exact ⟨.nil, worlds⟩
  | cons raw rest ih =>
    obtain ⟨device, worlds⟩ := Device.ofRaw_like libraries raw worlds
    obtain ⟨devices, worlds⟩ := ih worlds
    exact ⟨.cons device devices, worlds⟩

/-- The search finds the same entry in both runs: a path is told apart from a failure, and failures
are not looked at. -/
theorem findAmong_like (path : String) (raws : List Address) (worlds : like.Worlds left right) :
    Option.Rel (Device.Like like) (findAmong one path raws left).1
        (findAmong other path raws right).1 ∧
      like.Worlds (findAmong one path raws left).2 (findAmong other path raws right).2 := by
  induction raws generalizing left right with
  | nil => exact ⟨.none, worlds⟩
  | cons raw rest ih =>
    obtain ⟨devices, worlds⟩ := Device.ofRaw_like libraries raw worlds
    -- The device of the other run is kept as it was made; its path and its drop are those of the
    -- device with another library.
    obtain ⟨library, alike, renamed⟩ := devices
    have paths := Device.path_like alike worlds
    rw [← renamed] at paths
    have drops : like.Moves (Device.ofRaw one raw left).1.drop
        (Device.ofRaw other raw right).1.drop := renamed ▸ Device.drop_like _ library
    unfold Alike at paths
    unfold findAmong
    dsimp only
    generalize (Device.ofRaw one raw left).1.path _ = ended at paths ⊢
    generalize (Device.ofRaw other raw right).1.path _ = ended' at paths ⊢
    cases paths with
    | error calls worlds => exact ih (drops worlds)
    | @ok _ found _ _ worlds same =>
      subst same
      dsimp only
      by_cases sought : found = path
      · rw [if_pos sought, if_pos sought]
        exact ⟨.some ⟨library, alike, renamed⟩, worlds⟩
      · rw [if_neg sought, if_neg sought]
        exact ih (drops worlds)

end

section

variable {list : DeviceList} (libraries : like.library list.library library)

include libraries

theorem device?_like (index : Nat) (worlds : like.Worlds left right) :
    Option.Rel (Device.Like like) (list.device? index left).1
        (DeviceList.device? { list with library } index right).1 ∧
      like.Worlds (list.device? index left).2
        (DeviceList.device? { list with library } index right).2 := by
  have entries : DeviceList.get? { list with library } index = list.get? index := rfl
  unfold device?
  rw [entries]
  cases list.get? index with
  | none => exact ⟨.none, worlds⟩
  | some raw =>
    obtain ⟨devices, worlds⟩ := Device.ofRaw_like libraries raw worlds
    exact ⟨.some devices, worlds⟩

theorem devices_like (backwards : Bool) (worlds : like.Worlds left right) :
    List.Forall₂ (Device.Like like) (list.devices backwards left).1
        (DeviceList.devices { list with library } backwards right).1 ∧
      like.Worlds (list.devices backwards left).2
        (DeviceList.devices { list with library } backwards right).2 :=
  devicesOf_like libraries _ worlds

theorem findByPath_like (path : String) (worlds : like.Worlds left right) :
    Option.Rel (Device.Like like) (list.findByPath path left).1
        (DeviceList.findByPath { list with library } path right).1 ∧
      like.Worlds (list.findByPath path left).2
        (DeviceList.findByPath { list with library } path right).2 :=
  findAmong_like libraries path list.entries worlds

end

end DeviceList

/-! ## Resources of any kind -/

/-- Resources of the same kind that differ in their libraries only. -/
inductive Resource.Like (like : Likeness) : Resource → Resource → Prop where
  | context {one other : Context} : one.Like like other →
      Resource.Like like (.context one) (.context other)
  | list {one other : DeviceList} : one.Like like other →
      Resource.Like like (.list one) (.list other)
  | device {one other : Device} : one.Like like other →
      Resource.Like like (.device one) (.device other)
  | handle {one other : Handle} : one.Like like other →
      Resource.Like like (.handle one) (.handle other)
  | descriptor {one other : ConfigDescriptor} : one.Like like other →
      Resource.Like like (.descriptor one) (.descriptor other)

namespace Resource.Like

variable {one other : Resource}

theorem kind (alike : one.Like like other) : other.kind = one.kind := by
  cases alike <;> rfl

theorem inspect (alike : one.Like like other) : other.inspect = one.inspect := by
  cases alike with
  | context alike | list alike | device alike | handle alike | descriptor alike =>
    obtain ⟨library, -, rfl⟩ := alike
    rfl

theorem drop (alike : one.Like like other) : like.Moves one.drop other.drop := by
  cases alike with
  | @context value _ alike =>
    obtain ⟨library, -, rfl⟩ := alike
    exact value.drop_like library
  | @list value _ alike =>
    obtain ⟨library, -, rfl⟩ := alike
    exact value.drop_like library
  | @device value _ alike =>
    obtain ⟨library, -, rfl⟩ := alike
    exact value.drop_like library
  | handle alike =>
    obtain ⟨library, libraries, rfl⟩ := alike
    exact Handle.drop_like libraries
  | @descriptor value _ alike =>
    obtain ⟨library, -, rfl⟩ := alike
    exact value.drop_like library

end Resource.Like

end UsbHost
