import UsbHost.Proofs.Disposal

/-!
# What outlasts a native call

Devices are never forgotten, addresses are never handed out again, and no call touches a handle
other than the one that it is about: its device and its claims stay as they are.
-/

set_option autoImplicit false

namespace UsbHost

namespace Bus

variable {bus before after : Bus} {touched title : Option Title} {device raw : Address}

/-- What outlasts a change of the bus. Only a handle whose title is `touched` may change. -/
structure Outlasts (touched : Option Title) (before after : Bus) : Prop where
  devices : before.devices.map AttachedDevice.identity <+:
    after.devices.map AttachedDevice.identity
  handles : ∀ raw, some (.handle raw) ≠ touched → ∀ opened, before.handle? raw = some opened →
    ∃ later, after.handle? raw = some later ∧ later.tenure = opened.tenure
  addresses : before.nextAddress ≤ after.nextAddress

/-- What outlasts a native call, which injects no code. -/
structure Persists (touched : Option Title) (before after : Bus) : Prop
    extends Outlasts touched before after where
  failures : after.failures = before.failures
  releaseFailures : after.releaseFailures = before.releaseFailures

theorem handle?_tenure (bus : Bus) (raw : Address) : (bus.handle? raw).map OpenHandle.tenure =
    (bus.handles.map OpenHandle.tenure).find? fun tenure => tenure.1 == raw := by
  simp [handle?, List.find?_map, Function.comp_def, OpenHandle.tenure]

theorem device?_identity (bus : Bus) (device : Address) :
    (bus.device? device).map AttachedDevice.identity =
      (bus.devices.map AttachedDevice.identity).find? fun identity => identity.1 == device := by
  simp [device?, List.find?_map, Function.comp_def, AttachedDevice.identity]

/-- Calls that do not even reorder the handles. -/
theorem persists_of_tenures
    (devices : after.devices.map AttachedDevice.identity =
      before.devices.map AttachedDevice.identity)
    (tenures : after.handles.map OpenHandle.tenure = before.handles.map OpenHandle.tenure)
    (addresses : before.nextAddress ≤ after.nextAddress)
    (failures : after.failures = before.failures)
    (releaseFailures : after.releaseFailures = before.releaseFailures) :
    before.Persists touched after where
  devices := devices ▸ List.prefix_rfl
  handles := by
    intro raw _ opened found
    have same : (after.handle? raw).map OpenHandle.tenure = some opened.tenure := by
      rw [handle?_tenure, tenures, ← handle?_tenure, found]
      rfl
    exact Option.map_eq_some_iff.mp same
  addresses := addresses
  failures := failures
  releaseFailures := releaseFailures

/-- Whatever changes beside devices, handles, addresses and injected codes is of no account. -/
theorem aside_persists (bus : Bus) {nextBlock : Nat} {contexts : List Address}
    {lists : List DeviceArray} {descriptors : List Nat} {journal : List JournalEntry}
    {misuse : List Misuse} :
    bus.Persists touched
      { bus with nextBlock, contexts, lists, descriptors, journal, misuse } :=
  persists_of_tenures rfl rfl (Nat.le_refl _) rfl rfl

theorem Persists.refl (touched : Option Title) (bus : Bus) : Persists touched bus bus :=
  bus.aside_persists

theorem Persists.trans {last : Bus} (first : before.Persists touched after)
    (second : after.Persists touched last) : before.Persists touched last where
  devices := first.devices.trans second.devices
  handles := by
    intro raw other opened found
    obtain ⟨middle, foundMiddle, sameMiddle⟩ := first.handles raw other opened found
    obtain ⟨later, foundLater, sameLater⟩ := second.handles raw other middle foundMiddle
    exact ⟨later, foundLater, sameLater.trans sameMiddle⟩
  addresses := Nat.le_trans first.addresses second.addresses
  failures := second.failures.trans first.failures
  releaseFailures := second.releaseFailures.trans first.releaseFailures

theorem Outlasts.knows (outlasts : before.Outlasts touched after) (known : before.Knows device) :
    after.Knows device := by
  have ids (bus : Bus) : bus.devices.map AttachedDevice.id =
      (bus.devices.map AttachedDevice.identity).map Prod.fst := by
    simp [AttachedDevice.identity, Function.comp_def]
  rw [Knows, ids] at known ⊢
  exact (outlasts.devices.map Prod.fst).subset known

/-- The interfaces that can be claimed on a device do not change. -/
theorem Outlasts.interfaceLimit (outlasts : before.Outlasts touched after)
    (known : before.Knows device) :
    after.interfaceLimit device = before.interfaceLimit device := by
  have limit (bus : Bus) : bus.interfaceLimit device =
      ((bus.device? device).map AttachedDevice.identity).elim 255
        fun identity => identity.2.interfaces.toNat := by
    rw [Bus.interfaceLimit]
    cases bus.device? device <;> rfl
  obtain ⟨attached, found⟩ := known.device?
  obtain ⟨further, same⟩ := outlasts.devices
  have inside : (before.devices.map AttachedDevice.identity).find?
      (fun identity => identity.1 == device) = some attached.identity := by
    rw [← device?_identity, found]
    rfl
  rw [limit, limit, device?_identity, device?_identity, ← same, List.find?_append, inside]
  rfl

/-! ## Calls -/

theorem Quiet.persists (quiet : before.Quiet after) : before.Persists touched after :=
  persists_of_tenures (by rw [quiet.devices]) quiet.tenures (Nat.le_of_eq quiet.nextAddress.symm)
    quiet.failures quiet.releaseFailures

theorem Untouched.persists (untouched : before.Untouched after) : before.Persists touched after :=
  untouched.quiet.persists

theorem modifyReferences_persists (bus : Bus) (device : Address) (change : Nat → Nat) :
    bus.Persists touched (bus.modifyReferences device change) :=
  persists_of_tenures (Keyed.map_update bus.devices fun _ => rfl) rfl (Nat.le_refl _) rfl rfl

theorem giveBack_persists (bus : Bus) (function : NativeFunction) (device : Address) :
    bus.Persists touched (bus.giveBack function device) := by
  unfold giveBack
  split
  · exact Bus.aside_persists _
  · split
    · exact Bus.aside_persists _
    · exact modifyReferences_persists ..

theorem addHandle_persists (bus : Bus) (opened : OpenHandle) (later : Address)
    (addresses : bus.nextAddress ≤ later) :
    bus.Persists touched
      { bus with nextAddress := later, handles := bus.handles ++ [opened] } where
  devices := List.prefix_rfl
  handles := by
    intro raw _ old found
    refine ⟨old, ?_, rfl⟩
    rw [handle?] at found ⊢
    rw [List.find?_append, found]
    rfl
  addresses := addresses
  failures := rfl
  releaseFailures := rfl

theorem Acquires.persists (acquires : before.Acquires after title) :
    before.Persists touched after := by
  cases acquires with
  | nothing quiet => exact quiet.persists
  | context =>
    exact persists_of_tenures rfl rfl (Nat.le_of_lt before.lt_nextAddress) rfl rfl
  | array =>
    refine persists_of_tenures ?_ rfl (Nat.le_refl _) rfl rfl
    simp [enumerated, AttachedDevice.identity, Function.comp_def]
  | reference known =>
    exact (before.modifyReferences_persists _ _).trans
      (Bus.aside_persists _)
  | @handle device journal known =>
    have added : Persists touched (before.modifyReferences device (· + 1)) _ :=
      addHandle_persists _ (OpenHandle.mk before.nextAddress device [] 0) _
        (Nat.le_of_lt before.lt_nextAddress)
    exact ((before.modifyReferences_persists _ _).trans added).trans
      (Bus.aside_persists _)
  | record => exact Bus.aside_persists _

theorem attach_persists (bus : Bus) (info : DeviceInfo) :
    bus.Persists touched (bus.attach info).2 where
  devices := by
    simp only [attach, allocate, List.map_append]
    exact List.prefix_append _ _
  handles := fun _ _ opened found => ⟨opened, found, rfl⟩
  addresses := Nat.le_of_lt bus.lt_nextAddress
  failures := rfl
  releaseFailures := rfl

theorem modifyHandle_handle? (bus : Bus) (raw other : Address)
    {change : OpenHandle → OpenHandle} (same : ∀ opened, (change opened).id = opened.id) :
    (bus.modifyHandle raw change).handle? other =
      (bus.handle? other).map fun opened => if opened.id = raw then change opened else opened :=
  Keyed.find?_update bus.handles same

theorem modifyHandle_found {opened : OpenHandle} (found : bus.handle? raw = some opened)
    {change : OpenHandle → OpenHandle} (same : ∀ opened, (change opened).id = opened.id) :
    (bus.modifyHandle raw change).handle? raw = some (change opened) := by
  rw [modifyHandle_handle? bus raw raw same, found, Option.map_some, if_pos (handle?_id found)]

theorem modifyHandle_persists (bus : Bus) (raw : Address) {change : OpenHandle → OpenHandle}
    (same : ∀ opened, (change opened).id = opened.id) :
    bus.Persists (some (.handle raw)) (bus.modifyHandle raw change) where
  devices := List.prefix_rfl
  handles := by
    intro other different opened found
    have spared : opened.id ≠ raw := by
      rintro rfl
      exact different (by rw [handle?_id found])
    refine ⟨opened, ?_, rfl⟩
    rw [modifyHandle_handle? bus raw other same, found, Option.map_some, if_neg spared]
  addresses := Nat.le_refl _
  failures := rfl
  releaseFailures := rfl

theorem removeHandle_handle? (bus : Bus) {raw other : Address} (different : other ≠ raw) :
    { bus with handles := bus.handles.filter (·.id ≠ raw) }.handle? other = bus.handle? other :=
  Keyed.find?_filter_ne bus.handles different

theorem removeHandle_persists (bus : Bus) (raw : Address) :
    bus.Persists (some (.handle raw))
      { bus with handles := bus.handles.filter (·.id ≠ raw) } where
  devices := List.prefix_rfl
  handles := by
    intro other different opened found
    refine ⟨opened, ?_, rfl⟩
    rw [removeHandle_handle? bus (fun same => different (by rw [same])), found]
  addresses := Nat.le_refl _
  failures := rfl
  releaseFailures := rfl

theorem giveBackAll_persists (bus : Bus) (function : NativeFunction) (entries : List Address) :
    bus.Persists touched
      (entries.foldl (fun bus device => bus.giveBack function device) bus) := by
  induction entries generalizing bus with
  | nil => exact .refl ..
  | cons device rest ih => exact (bus.giveBack_persists function device).trans (ih _)

/-- Giving a title back touches nothing but what the title stands for. -/
theorem returnCall_persists (bus : Bus) (title : Title) :
    bus.Persists (some title) (title.returnCall.perform bus).2 := by
  cases title with
  | context raw =>
    change bus.Persists _ (bus.exitLibrary raw)
    unfold exitLibrary
    dsimp only
    split <;> exact Bus.aside_persists _
  | array array =>
    change bus.Persists _ (bus.freeDeviceList (.block array.block) 1)
    unfold freeDeviceList
    dsimp only
    split
    · exact Bus.aside_persists _
    · rw [if_neg (by decide)]
      exact (Bus.aside_persists _).trans (giveBackAll_persists ..)
  | reference device =>
    exact (Bus.aside_persists _).trans
      (giveBack_persists (bus.record .unrefDevice) ..)
  | handle raw =>
    change bus.Persists _ (bus.closeHandle raw)
    unfold closeHandle
    dsimp only
    split
    · exact Bus.aside_persists _
    · exact ((bus.removeHandle_persists raw).trans
        (Bus.aside_persists _)).trans (giveBack_persists ..)
  | record ref =>
    change bus.Persists _ (bus.freeConfigDescriptor ref)
    unfold freeConfigDescriptor
    dsimp only
    split <;> exact Bus.aside_persists _

theorem Claims.persists {opened : OpenHandle} {interface code : Int}
    (claims : before.Claims opened interface code after) :
    before.Persists (some (.handle opened.id)) after := by
  cases claims with
  | refused untouched | again untouched => exact untouched.persists
  | claimed =>
    refine (before.modifyHandle_persists opened.id ?_).trans (Bus.aside_persists _)
    exact fun _ => rfl

theorem Releases.persists {opened : OpenHandle} {interface code : Int}
    (releases : before.Releases opened interface code after) :
    before.Persists (some (.handle opened.id)) after := by
  cases releases with
  | refused untouched => exact untouched.persists
  | released =>
    refine (before.modifyHandle_persists opened.id ?_).trans (Bus.aside_persists _)
    exact fun _ => rfl

end Bus

/-! ## Operations on claims -/

theorem Handle.ClaimEnds.persists {handle value : Handle} {interface : UInt8}
    {before after : World} (ends : handle.ClaimEnds interface before value after) :
    before.bus.Persists (Resource.handle handle).title? after.bus := by
  cases ends with
  | already => exact .refl _ _
  | asked owned found _ _ claims =>
    have persists := claims.persists
    rw [Bus.handle?_id found] at persists
    rw [Resource.title?, owned]
    exact persists

theorem Handle.ReleaseEnds.persists {handle value : Handle} {interface : UInt8}
    {before after : World} (ends : handle.ReleaseEnds interface before value after) :
    before.bus.Persists (Resource.handle handle).title? after.bus := by
  cases ends with
  | already => exact .refl _ _
  | asked owned found _ _ releases =>
    have persists := releases.persists
    rw [Bus.handle?_id found] at persists
    rw [Resource.title?, owned]
    exact persists

/-! ## Dropping resources -/

variable {world : World}

theorem Handle.releaseOne_persists (library : Library) {raw : Address} {opened : OpenHandle}
    (found : world.bus.handle? raw = some opened) (interface : UInt8) :
    world.bus.Persists (some (.handle raw)) (releaseOne library raw world interface).bus := by
  obtain rfl := Bus.handle?_id found
  exact (Bus.releaseInterface_releases found (nativeInterface interface)).persists

theorem Handle.releaseAll_persists (library : Library) {raw : Address} {opened : OpenHandle}
    (found : world.bus.handle? raw = some opened) (interfaces : List UInt8) :
    world.bus.Persists (some (.handle raw))
      (interfaces.foldl (releaseOne library raw) world).bus := by
  induction interfaces generalizing world opened with
  | nil => exact .refl ..
  | cons interface rest ih =>
    obtain ⟨later, foundLater, -⟩ := (releaseOne_steady library found interface).handle? found
    exact (releaseOne_persists library found interface).trans (ih foundLater)

theorem Handle.releaseClaimed_persists {handle : Handle} (isOpen : handle.Open world.bus) :
    world.bus.Persists (Resource.handle handle).title? (handle.releaseClaimed world).bus := by
  simp only [releaseClaimed, Resource.title?]
  cases owned : handle.owner.raw with
  | none => exact .refl ..
  | some raw =>
    obtain ⟨opened, found⟩ := isOpen raw owned
    exact releaseAll_persists handle.library found handle.claimed

theorem Owner.dispose_persists {α : Type} {title : α → Title} {disposal : α → World → World}
    (owner : Owner α)
    (gives : ∀ raw, (disposal raw world).bus = ((title raw).returnCall.perform world.bus).2) :
    world.bus.Persists (owner.raw.map title) (owner.dispose disposal world).bus := by
  unfold Owner.dispose
  cases owner.raw with
  | none => exact .refl ..
  | some raw =>
    dsimp only
    rw [gives raw]
    exact world.bus.returnCall_persists (title raw)

/-- Dropping a resource touches nothing but what the resource owns. -/
theorem Resource.drop_persists (resource : Resource)
    (isOpen : ∀ handle, resource = .handle handle → handle.Open world.bus) :
    world.bus.Persists resource.title? (resource.drop world).bus := by
  cases resource with
  | context value => exact value.owner.dispose_persists fun _ => rfl
  | list value =>
    simp only [title?, drop, DeviceList.drop]
    cases value.array with
    | none => exact .refl ..
    | some array => exact world.bus.returnCall_persists (.array array)
  | device value => exact value.owner.dispose_persists fun _ => rfl
  | handle value =>
    refine (Handle.releaseClaimed_persists (isOpen value rfl)).trans ?_
    exact value.owner.dispose_persists fun _ => rfl
  | descriptor value => exact value.owner.dispose_persists fun _ => rfl

end UsbHost
