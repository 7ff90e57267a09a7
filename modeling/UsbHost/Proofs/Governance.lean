import UsbHost.Proofs.Journal

/-!
# Who answers for a native call

A native call that can fail is made by some operation under some policy. Between two worlds every
failed call of the journal is matched by one event of the log, in the same order, and the event
says what the operation and the policy of the call say. This is followed through the operations
from call to call, whatever the bus answers and whether or not anything is raised.
-/

set_option autoImplicit false

namespace UsbHost

/-- Who answers for a native call: the operation that makes it, the policy that it is made under,
and the texts of its codes. -/
structure Governance where
  site : String
  policy : CallPolicy
  describe : Int → String

/-- The code under which a negative return value is reported: the value itself if it is a 32-bit
number. -/
def narrowed (returned : Int) : Int :=
  if -2147483648 ≤ returned then returned else -99

namespace Governance

/-- The event that a failed call asks for. -/
def report (governance : Governance) (function : NativeFunction) (returned : Int) : Event :=
  .failure governance.policy.level governance.site function.name (narrowed returned)
    (governance.describe (narrowed returned))

def failure (governance : Governance) (returned : Int) : UsbError where
  code := narrowed returned
  message := governance.describe (narrowed returned)

/-- What is logged of a call that answered `returned`. -/
def lines (governance : Governance) (function : NativeFunction) (returned : Int) : Log :=
  if returned < 0 then [governance.report function returned] else []

end Governance

theorem narrowed_neg {returned : Int} (negative : returned < 0) : narrowed returned < 0 := by
  unfold narrowed
  split
  · exact negative
  · decide

theorem failureCode_eq (returned : Int) :
    failureCode returned = if returned < 0 then some (narrowed returned) else none := by
  unfold failureCode narrowed
  by_cases negative : returned < 0
  · rw [if_neg (Int.not_le.mpr negative), if_pos negative]
    by_cases small : returned < -2147483648
    · rw [if_pos small, if_neg (Int.not_le.mpr small)]
      rfl
    · rw [if_neg small, if_pos (Int.not_lt.mp small)]
  · rw [if_pos (Int.not_lt.mp negative), if_neg negative]

/-- Whether the call answered a negative code. -/
def JournalEntry.isFailed (entry : JournalEntry) : Bool :=
  entry.returned.any fun returned => returned < 0

/-- Who answers for the calls of each entry point, where anybody does. -/
abbrev Governor := NativeFunction → Option Governance

/-- The event that a journal entry asks for. -/
def Governor.report? (governor : Governor) (entry : JournalEntry) : Option Event :=
  (governor entry.function).bind fun governance =>
    entry.returned.map (governance.report entry.function)

/-! ## Accounts -/

namespace World

/-- The calls made between two worlds, and the events that match the failed ones. -/
structure Accounts (governor : Governor) (before : World) (calls : List JournalEntry)
    (after : World) : Prop where
  journal : after.bus.journal = before.bus.journal ++ calls
  answered : ∀ entry ∈ calls, entry.returned.isSome = entry.function.isFallible
  log : ∃ lines, after.log = before.log ++ lines ∧
    (lines.filter Event.isFailure).map some =
      (calls.filter JournalEntry.isFailed).map governor.report?

/-- Whatever calls were made, the failed ones were reported. -/
def Told (governor : Governor) (before after : World) : Prop :=
  ∃ calls, before.Accounts governor calls after

variable {governor : Governor} {before middle after : World} {calls later : List JournalEntry}

theorem Accounts.refl (governor : Governor) (world : World) : world.Accounts governor [] world where
  journal := by simp
  answered := by simp
  log := ⟨[], by simp, rfl⟩

theorem Accounts.trans (first : before.Accounts governor calls middle)
    (second : middle.Accounts governor later after) :
    before.Accounts governor (calls ++ later) after where
  journal := by rw [second.journal, first.journal, List.append_assoc]
  answered := by
    intro entry member
    rcases List.mem_append.mp member with early | late
    · exact first.answered entry early
    · exact second.answered entry late
  log := by
    obtain ⟨lines, logged, matched⟩ := first.log
    obtain ⟨others, loggedLater, matchedLater⟩ := second.log
    refine ⟨lines ++ others, by rw [loggedLater, logged, List.append_assoc], ?_⟩
    simp only [List.filter_append, List.map_append, matched, matchedLater]

theorem Accounts.told (accounts : before.Accounts governor calls after) :
    before.Told governor after :=
  ⟨calls, accounts⟩

theorem Told.refl (governor : Governor) (world : World) : world.Told governor world :=
  (Accounts.refl governor world).told

theorem Told.trans (first : before.Told governor middle) (second : middle.Told governor after) :
    before.Told governor after := by
  obtain ⟨calls, accounts⟩ := first
  obtain ⟨later, accountsLater⟩ := second
  exact (accounts.trans accountsLater).told

theorem told_note (governor : Governor) (world : World) (level : Level) (notice : Notice) :
    world.Told governor (world.note level notice) :=
  ⟨[],
    { journal := by simp [note, emit]
      answered := by simp
      log := ⟨[.note level notice], rfl, rfl⟩ }⟩

end World

variable {α β : Type} {governor : Governor} {world : World}

/-- A call that answers no code has nothing to report. -/
theorem Bus.Uncoded.told {function : NativeFunction} {native : Bus → Bus}
    (uncoded : Uncoded function native) (governor : Governor) (world : World) :
    world.Told governor { world with bus := native world.bus } := by
  obtain ⟨argument, journal⟩ := uncoded.journal world.bus
  exact ⟨_,
    { journal
      answered := by simp [uncoded.infallible]
      log := ⟨[], by simp, by simp [JournalEntry.isFailed]⟩ }⟩

namespace Library

variable {library : Library} {policy : CallPolicy} {site : String} {function : NativeFunction}
  {native : Bus → Reply α × Bus}

/-- Who answers for the calls that `site` makes on behalf of a resource. -/
def governs (library : Library) (site : String) (policy : CallPolicy) : Governance where
  site
  policy
  describe := library.describe

theorem raised?_eq (library : Library) (site : String) (policy : CallPolicy) (returned : Int) :
    library.raised? policy returned =
      if returned < 0 ∧ policy.raise then some ((library.governs site policy).failure returned)
      else none := by
  unfold raised?
  rw [failureCode_eq]
  by_cases negative : returned < 0
  · cases raise : policy.raise <;> simp [negative, governs, Governance.failure, failure]
  · cases raise : policy.raise <;> simp [negative]

theorem failureLog_eq (library : Library) (policy : CallPolicy) (site : String)
    (function : NativeFunction) (returned : Int) :
    library.failureLog policy site function.name returned =
      (library.governs site policy).lines function returned := by
  unfold failureLog Governance.lines
  rw [failureCode_eq]
  split <;> rfl

/-- A checked call writes its entry, and one event if it fails. -/
theorem attempt_accounts (coded : Bus.Coded function native)
    (governed : governor function = some (library.governs site policy)) (world : World) :
    ∃ argument, world.Accounts governor
      [{ function, argument, returned := some (native world.bus).1.code }]
      (library.attempt policy site function native world).2 := by
  obtain ⟨argument, journal⟩ := coded.journal world.bus
  refine ⟨argument,
    { journal
      answered := by simp [coded.fallible]
      log := ⟨_, rfl, ?_⟩ }⟩
  have reported : governor.report?
      { function, argument, returned := some (native world.bus).1.code } =
        some ((library.governs site policy).report function (native world.bus).1.code) := by
    rw [Governor.report?, governed]
    rfl
  rw [failureLog_eq, Governance.lines]
  by_cases negative : (native world.bus).1.code < 0
  · simp only [JournalEntry.isFailed, negative, if_true, Option.any_some, decide_true,
      List.filter_cons_of_pos, List.filter_nil, List.map_cons, List.map_nil, reported]
    rfl
  · simp [JournalEntry.isFailed, negative]

end Library

/-! ## Operations that make a checked call -/

namespace Usb

variable {operation : Usb α} {function : NativeFunction} {governance : Governance}

/-- The operation begins with a call of `function`. It is refused exactly if the call fails under a
policy that raises, and in any case every failed call is reported. -/
def Requests (operation : Usb α) (world : World) (governor : Governor)
    (function : NativeFunction) (governance : Governance) : Prop :=
  ∃ argument returned,
    operation.Ends world
      (fun _ after => ¬ (returned < 0 ∧ governance.policy.raise) ∧ ∃ calls,
        world.Accounts governor ({ function, argument, returned := some returned } :: calls) after)
      (fun error after => (returned < 0 ∧ governance.policy.raise) ∧
        error = governance.failure returned ∧ ∃ calls,
        world.Accounts governor ({ function, argument, returned := some returned } :: calls) after)

theorem invoke_requests {library : Library} {policy : CallPolicy} {site : String}
    {native : Bus → Reply α × Bus} (coded : Bus.Coded function native)
    (governed : governor function = some (library.governs site policy)) (world : World) :
    (library.invoke policy site function native).Requests world governor function
      (library.governs site policy) := by
  obtain ⟨argument, accounts⟩ := Library.attempt_accounts coded governed world
  refine ⟨argument, (native world.bus).1.code, ?_⟩
  rw [Library.invoke_ends, library.raised?_eq site]
  split
  · next error raised =>
    split at raised
    · next fails => exact ⟨fails, (Option.some.inj raised).symm, [], accounts⟩
    · contradiction
  · next raised =>
    split at raised
    · contradiction
    · next passes => exact ⟨passes, [], accounts⟩

/-- What follows on the call may say more, but may not be refused. -/
theorem Requests.bind (requests : operation.Requests world governor function governance)
    {next : α → Usb β}
    (told : ∀ value after,
      (next value).Ends after (fun _ last => after.Told governor last) fun _ _ => False) :
    (operation >>= next).Requests world governor function governance := by
  obtain ⟨argument, returned, ends⟩ := requests
  refine ⟨argument, returned, ?_⟩
  rw [ends_bind]
  refine ends.imp ?_ fun _ _ refused => refused
  rintro value after ⟨passes, calls, accounts⟩
  refine (told value after).imp ?_ fun _ _ impossible => impossible.elim
  rintro _ last ⟨later, accountsLater⟩
  exact ⟨passes, calls ++ later, accounts.trans accountsLater⟩

theorem Requests.told (requests : operation.Requests world governor function governance) :
    operation.Ends world (fun _ after => world.Told governor after)
      fun _ after => world.Told governor after := by
  obtain ⟨argument, returned, ends⟩ := requests
  refine ends.imp ?_ ?_
  · rintro _ after ⟨-, calls, accounts⟩
    exact accounts.told
  · rintro _ after ⟨-, -, calls, accounts⟩
    exact accounts.told

end Usb

open Usb (Requests invoke_requests)

theorem Context.start_requests (library : Library) (world : World)
    (governed : governor .initLibrary =
      some (library.governs "UsbContext::new" library.policies.call)) :
    (Context.start library).Requests world governor .initLibrary
      (library.governs "UsbContext::new" library.policies.call) :=
  (invoke_requests Bus.initLibrary_coded governed world).bind fun _ after =>
    after.told_note governor _ _

theorem DeviceList.enumerate_requests (context : Context) (world : World)
    (governed : governor .getDeviceList =
      some (context.library.governs "DeviceList::new" context.library.policies.call)) :
    (DeviceList.enumerate context).Requests world governor .getDeviceList
      (context.library.governs "DeviceList::new" context.library.policies.call) :=
  (invoke_requests Bus.getDeviceList_coded governed world).bind fun _ after =>
    after.told_note governor _ _

theorem Handle.wrapSystemDevice_requests (context : Context) (systemHandle : Int) (world : World)
    (governed : governor .wrapSystemDevice =
      some (context.library.governs "DeviceHandle::wrap_sys_device"
        context.library.policies.call)) :
    (Handle.wrapSystemDevice context systemHandle).Requests world governor .wrapSystemDevice
      (context.library.governs "DeviceHandle::wrap_sys_device" context.library.policies.call) :=
  (invoke_requests (Bus.wrapSystemDevice_coded systemHandle) governed world).bind fun _ after =>
    after.told_note governor _ _

namespace Device

variable {device : Device} {raw : Address}

theorem requireRaw_bind (owned : device.owner.raw = some raw) (next : Address → Usb α) :
    device.requireRaw >>= next = next raw := by
  unfold requireRaw
  rw [owned]
  rfl

theorem openHandle_requests (owned : device.owner.raw = some raw) (world : World)
    (governed : governor .openDevice =
      some (device.library.governs "UsbDevice::open" device.library.policies.call)) :
    device.openHandle.Requests world governor .openDevice
      (device.library.governs "UsbDevice::open" device.library.policies.call) := by
  unfold openHandle
  rw [requireRaw_bind owned]
  exact (invoke_requests (Bus.openDevice_coded raw) governed world).bind fun _ after =>
    after.told_note governor _ _

theorem configDescriptorWith_requests (owned : device.owner.raw = some raw) (policy : CallPolicy)
    (index : UInt8) (world : World)
    (governed : governor .getConfigDescriptor =
      some (device.library.governs "UsbDevice::config_descriptor" policy)) :
    (device.configDescriptorWith policy index).Requests world governor .getConfigDescriptor
      (device.library.governs "UsbDevice::config_descriptor" policy) := by
  unfold configDescriptorWith
  rw [requireRaw_bind owned]
  refine (invoke_requests (Bus.getConfigDescriptor_coded raw index) governed world).bind ?_
  intro reply after
  split
  · exact .refl governor after
  · exact .refl governor after

theorem descriptorWith_requests (owned : device.owner.raw = some raw) (policy : CallPolicy)
    (world : World)
    (governed : governor .getDeviceDescriptor =
      some (device.library.governs "UsbDevice::device_descriptor" policy)) :
    (device.descriptorWith policy).Requests world governor .getDeviceDescriptor
      (device.library.governs "UsbDevice::device_descriptor" policy) := by
  unfold descriptorWith
  rw [requireRaw_bind owned]
  exact (invoke_requests (Bus.getDeviceDescriptor_coded raw) governed world).bind fun _ after =>
    .refl governor after

theorem portNumbers_requests (owned : device.owner.raw = some raw) (world : World)
    (governed : governor .getPortNumbers =
      some (device.library.governs "UsbDevice::port_numbers" device.library.policies.call)) :
    device.portNumbers.Requests world governor .getPortNumbers
      (device.library.governs "UsbDevice::port_numbers" device.library.policies.call) := by
  unfold portNumbers
  rw [requireRaw_bind owned]
  exact (invoke_requests (Bus.getPortNumbers_coded raw _) governed world).bind fun _ after =>
    .refl governor after

theorem readByte_told (device : Device) {function : NativeFunction}
    (infallible : function.isFallible = false) (byte : DeviceInfo → UInt8) (world : World) :
    world.Told governor (match device.owner.raw with
      | some raw => world.ask (Bus.readByte function raw byte)
      | none => (0, world)).2 := by
  split
  · next raw _ => exact (Bus.readByte_uncoded infallible raw byte).told governor world
  · exact .refl governor world

theorem busNumber_told (device : Device) (world : World) :
    world.Told governor (device.busNumber world).2 :=
  device.readByte_told rfl DeviceInfo.bus world

theorem address_told (device : Device) (world : World) :
    world.Told governor (device.address world).2 :=
  device.readByte_told rfl DeviceInfo.address world

theorem path_requests (owned : device.owner.raw = some raw) (world : World)
    (governed : governor .getPortNumbers =
      some (device.library.governs "UsbDevice::port_numbers" device.library.policies.call)) :
    device.path.Requests world governor .getPortNumbers
      (device.library.governs "UsbDevice::port_numbers" device.library.policies.call) :=
  (portNumbers_requests owned world governed).bind fun _ after => device.busNumber_told after

end Device

namespace Handle

variable {handle : Handle} {raw : Address} {interface : UInt8}

theorem requireRaw_bind (owned : handle.owner.raw = some raw) (next : Address → Usb α) :
    handle.requireRaw >>= next = next raw := by
  unfold requireRaw
  rw [owned]
  rfl

theorem claimInterface_requests (owned : handle.owner.raw = some raw)
    (fresh : interface ∉ handle.claimed) (world : World)
    (governed : governor .claimInterface =
      some (handle.library.governs "DeviceHandle::claim_interface"
        handle.library.policies.call)) :
    (handle.claimInterface interface).Requests world governor .claimInterface
      (handle.library.governs "DeviceHandle::claim_interface" handle.library.policies.call) := by
  unfold claimInterface
  rw [if_neg (mt isClaimed_iff.mp fresh), requireRaw_bind owned]
  exact (invoke_requests (Bus.claimInterface_coded raw _) governed world).bind fun _ after =>
    after.told_note governor _ _

theorem releaseInterface_requests (owned : handle.owner.raw = some raw)
    (held : interface ∈ handle.claimed) (world : World)
    (governed : governor .releaseInterface =
      some (handle.library.governs "DeviceHandle::release_interface"
        handle.library.policies.call)) :
    (handle.releaseInterface interface).Requests world governor .releaseInterface
      (handle.library.governs "DeviceHandle::release_interface" handle.library.policies.call) := by
  unfold releaseInterface
  rw [if_neg (by simpa using isClaimed_iff.mpr held), requireRaw_bind owned]
  exact (invoke_requests (Bus.releaseInterface_coded raw _) governed world).bind fun _ after =>
    after.told_note governor _ _

theorem setConfiguration_requests (owned : handle.owner.raw = some raw) (value : Int)
    (world : World)
    (governed : governor .setConfiguration =
      some (handle.library.governs "DeviceHandle::set_configuration"
        handle.library.policies.call)) :
    (handle.setConfiguration value).Requests world governor .setConfiguration
      (handle.library.governs "DeviceHandle::set_configuration" handle.library.policies.call) := by
  unfold setConfiguration
  rw [requireRaw_bind owned]
  exact (invoke_requests (Bus.setConfiguration_coded raw value) governed world).bind
    fun _ after => .refl governor after

theorem configurationWith_requests (owned : handle.owner.raw = some raw) (policy : CallPolicy)
    (world : World)
    (governed : governor .getConfiguration =
      some (handle.library.governs "DeviceHandle::configuration" policy)) :
    (handle.configurationWith policy).Requests world governor .getConfiguration
      (handle.library.governs "DeviceHandle::configuration" policy) := by
  unfold configurationWith
  rw [requireRaw_bind owned]
  exact (invoke_requests (Bus.getConfiguration_coded raw) governed world).bind fun _ after =>
    .refl governor after

theorem setAutoDetachWith_requests (owned : handle.owner.raw = some raw) (policy : CallPolicy)
    (enable : Bool) (world : World)
    (governed : governor .setAutoDetach =
      some (handle.library.governs "DeviceHandle::set_auto_detach_kernel_driver" policy)) :
    (handle.setAutoDetachWith policy enable).Requests world governor .setAutoDetach
      (handle.library.governs "DeviceHandle::set_auto_detach_kernel_driver" policy) := by
  unfold setAutoDetachWith
  rw [requireRaw_bind owned]
  exact (invoke_requests (Bus.setAutoDetach_coded raw _) governed world).bind fun _ after =>
    .refl governor after

end Handle

/-! ## Everything else -/

theorem Device.takeReference_told (raw : Address) (world : World) :
    world.Told governor (takeReference raw world) := by
  unfold takeReference
  split
  · exact .refl governor world
  · exact (Bus.refDevice_uncoded raw).told governor world

theorem Device.drop_told (device : Device) (world : World) :
    world.Told governor (device.drop world) := by
  unfold Device.drop Owner.drop Owner.dispose
  split
  · next raw _ => exact (Bus.unrefDevice_uncoded raw).told governor world
  · exact .refl governor world

theorem Context.drop_told (context : Context) (world : World) :
    world.Told governor (context.drop world) := by
  unfold Context.drop Owner.drop Owner.dispose
  split
  · next raw _ =>
    exact ((Bus.exitLibrary_uncoded raw).told governor world).trans (World.told_note ..)
  · exact .refl governor world

theorem ConfigDescriptor.drop_told (descriptor : ConfigDescriptor) (world : World) :
    world.Told governor (descriptor.drop world) := by
  unfold ConfigDescriptor.drop Owner.drop Owner.dispose
  split
  · next pointer _ => exact (Bus.freeConfigDescriptor_uncoded pointer.ref).told governor world
  · exact .refl governor world

theorem DeviceList.drop_told (list : DeviceList) (world : World) :
    world.Told governor (list.drop world) := by
  unfold DeviceList.drop
  split
  · next array _ => exact (Bus.freeDeviceList_uncoded (.block array.block) 1).told governor world
  · exact .refl governor world

/-- Who answers for the releases of a handle that is torn down. -/
def Handle.cleanup (handle : Handle) : Governance :=
  handle.library.governs "DeviceHandle::reset" handle.library.policies.cleanup

theorem Handle.releaseClaimed_told (handle : Handle) (world : World)
    (governed : governor .releaseInterface = some handle.cleanup) :
    world.Told governor (handle.releaseClaimed world) := by
  unfold releaseClaimed
  split
  · next raw _ =>
    have released (world : World) (interface : UInt8) :
        world.Told governor (releaseOne handle.library raw world interface) := by
      obtain ⟨argument, accounts⟩ := Library.attempt_accounts
        (Bus.releaseInterface_coded raw (nativeInterface interface)) governed world
      exact accounts.told
    induction handle.claimed generalizing world with
    | nil => exact .refl governor world
    | cons interface rest ih => exact (released world interface).trans (ih _)
  · exact .refl governor world

theorem Handle.reset_told (handle : Handle) (raw : Address) (world : World)
    (governed : governor .releaseInterface = some handle.cleanup) :
    world.Told governor (handle.reset raw world).2 := by
  refine (handle.releaseClaimed_told world governed).trans ?_
  unfold reset Owner.reset Owner.dispose
  dsimp only
  split
  · next raw _ => exact ((Bus.closeHandle_uncoded raw).told governor _).trans (World.told_note ..)
  · exact .refl governor _

theorem Handle.drop_told (handle : Handle) (world : World)
    (governed : governor .releaseInterface = some handle.cleanup) :
    world.Told governor (handle.drop world) :=
  handle.reset_told 0 world governed

/-- Only the end of a handle has anything to report. -/
theorem Resource.drop_told (resource : Resource) (world : World)
    (governed : ∀ handle, resource = .handle handle →
      governor .releaseInterface = some handle.cleanup) :
    world.Told governor (resource.drop world) := by
  cases resource with
  | context value => exact value.drop_told world
  | list value => exact value.drop_told world
  | device value => exact value.drop_told world
  | handle value => exact value.drop_told world (governed value rfl)
  | descriptor value => exact value.drop_told world

end UsbHost
