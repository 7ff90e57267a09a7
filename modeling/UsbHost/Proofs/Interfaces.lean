import UsbHost.Proofs.Bystanders
import UsbHost.Proofs.FailedClaims
import UsbHost.Proofs.QueryForms

/-!
# The interfaces of a device

The record of a configuration is built from the number of interfaces of a device and read by a
descriptor; a claim is checked against that number. What a descriptor lists, for as long as it
owns its record, is what can be claimed.
-/

set_option autoImplicit false

namespace UsbHost

variable {terms : Terms} {session : Session} {world : World} {raw : Address} {name target : String}

/-! ## Records -/

/-- The numbers of so many interfaces. -/
def interfaceNumbers (interfaces : UInt8) : List UInt8 :=
  (List.range interfaces.toNat).map UInt8.ofNat

theorem mem_interfaceNumbers {interface interfaces : UInt8} :
    interface ∈ interfaceNumbers interfaces ↔ interface < interfaces := by
  rw [interfaceNumbers, List.mem_map, UInt8.lt_iff_toNat_lt]
  constructor
  · rintro ⟨number, inside, rfl⟩
    have small := List.mem_range.mp inside
    have fits : number < UInt8.size := Nat.lt_trans small interfaces.toNat_lt_size
    rwa [UInt8.toNat_ofNat_of_lt' fits]
  · exact fun small => ⟨interface.toNat, List.mem_range.mpr small, UInt8.ofNat_toNat⟩

namespace ConfigRecord

variable (value interfaces : UInt8)

theorem build_interfaceNumbers :
    (build value interfaces).interfaceNumbers = UsbHost.interfaceNumbers interfaces := by
  unfold build interfaceNumbers
  by_cases none : interfaces = 0
  · subst none
    rfl
  · rw [if_neg none]
    have all : ((List.range interfaces.toNat).map fun n =>
        InterfaceRecord.mk (some [UInt8.ofNat n]) 1).length ≤ interfaces.toNat :=
      Nat.le_of_eq (by rw [List.length_map, List.length_range])
    have numbered : (InterfaceRecord.number? ∘ fun n =>
        InterfaceRecord.mk (some [UInt8.ofNat n]) 1) = some ∘ UInt8.ofNat := rfl
    dsimp only
    rw [List.take_of_length_le all, List.filterMap_map, numbered, List.filterMap_eq_map]
    rfl

/-- No number of interfaces makes the length of the record wrap around. -/
theorem build_totalLength :
    (build value interfaces).totalLength.toNat = 9 + 9 * interfaces.toNat := by
  have small : interfaces.toNat < 256 := interfaces.toNat_lt_size
  have product : (9 * interfaces.toUInt16).toNat = 9 * interfaces.toNat := by
    rw [UInt16.toNat_mul, UInt8.toNat_toUInt16]
    exact Nat.mod_eq_of_lt (by change 9 * _ < _; omega)
  change (9 + 9 * interfaces.toUInt16).toNat = _
  rw [UInt16.toNat_add, product]
  exact Nat.mod_eq_of_lt (by change 9 + 9 * _ < _; omega)

end ConfigRecord

/-! ## Descriptors -/

namespace ConfigDescriptor

variable {descriptor : ConfigDescriptor}

/-- What the descriptor of a configuration says of it, on a device with so many interfaces. -/
structure Describes (descriptor : ConfigDescriptor) (index interfaces : UInt8) : Prop where
  value : descriptor.configurationValue.toNat = index.toNat + 1
  count : descriptor.interfaceCount = interfaces
  numbers : descriptor.interfaceNumbers = UsbHost.interfaceNumbers interfaces
  length : descriptor.totalLength.toNat = 9 + 9 * interfaces.toNat

theorem describes_built {index interfaces configurations : UInt8} {ref : BlockRef}
    (inside : index < configurations)
    (owned : descriptor.owner.raw = some ⟨ref, .build (index + 1) interfaces⟩) :
    descriptor.Describes index interfaces := by
  have contents : descriptor.contents = .build (index + 1) interfaces := by
    rw [ConfigDescriptor.contents, record?, owned]
    rfl
  refine ⟨?_, ?_, ?_, ?_⟩
  · have below : index.toNat < configurations.toNat := UInt8.lt_iff_toNat_lt.mp inside
    have limit : configurations.toNat < 256 := configurations.toNat_lt_size
    have read : descriptor.configurationValue = index + 1 := congrArg ConfigRecord.value contents
    rw [read, UInt8.toNat_add]
    exact Nat.mod_eq_of_lt (by change _ + 1 < _; omega)
  · exact congrArg ConfigRecord.interfaceCount contents
  · exact (congrArg ConfigRecord.interfaceNumbers contents).trans
      (ConfigRecord.build_interfaceNumbers ..)
  · exact (congrArg (fun record => record.totalLength.toNat) contents).trans
      (ConfigRecord.build_totalLength ..)

/-- Every accessor reads zero, and there are no interfaces. -/
structure Blank (descriptor : ConfigDescriptor) : Prop where
  value : descriptor.configurationValue = 0
  count : descriptor.interfaceCount = 0
  attributes : descriptor.attributes = 0
  maxPower : descriptor.maxPower = 0
  length : descriptor.totalLength = 0
  numbers : descriptor.interfaceNumbers = []

theorem blank (empty : descriptor.owner.raw = none) : descriptor.Blank := by
  have contents : descriptor.contents = {} := by
    rw [ConfigDescriptor.contents, record?, empty]
    rfl
  exact
    { value := congrArg ConfigRecord.value contents
      count := congrArg ConfigRecord.interfaceCount contents
      attributes := congrArg ConfigRecord.attributes contents
      maxPower := congrArg ConfigRecord.maxPower contents
      length := congrArg ConfigRecord.totalLength contents
      numbers := congrArg ConfigRecord.interfaceNumbers contents }

end ConfigDescriptor

/-! ## Queries -/

namespace Device

variable {device : Device} {attached : AttachedDevice} {index : UInt8}

theorem configDescriptor_concludes (owned : device.owner.raw = some raw) (index : UInt8)
    (world : World) :
    (device.configDescriptor index).Concludes world
      (device.library.governs "UsbDevice::config_descriptor" device.library.policies.call)
      (world.bus.getConfigDescriptor raw index).1.code
      (if (world.bus.getConfigDescriptor raw index).1.code < 0 then .empty device.library
        else .ofRaw device.library (world.bus.getConfigDescriptor raw index).1.out)
      (world.bus.getConfigDescriptor raw index).2 := by
  unfold configDescriptor configDescriptorWith
  rw [requireRaw_bind owned]
  refine (Usb.invoke_concludes ..).bind fun after => ?_
  change (if (world.bus.getConfigDescriptor raw index).1.code < 0 then
    (pure (.empty device.library) : Usb ConfigDescriptor) else _).Ends after _ _
  split
  · exact ⟨rfl, rfl⟩
  · exact ⟨rfl, rfl⟩

/-- A configuration that the device has is read into a new block. -/
theorem configDescriptor_found (owned : device.owner.raw = some raw)
    (found : world.bus.device? raw = some attached)
    (regular : world.bus.injected .getConfigDescriptor = none)
    (inside : index < attached.info.configurations) :
    ∃ after, device.configDescriptor index world =
      .ok (.ofRaw device.library (some ⟨.block world.bus.nextBlock,
        .build (index + 1) attached.info.interfaces⟩)) after := by
  have concludes := configDescriptor_concludes owned index world
  rw [Bus.getConfigDescriptor_eq found, Bus.configCode, Bus.configRecord?, regular,
    Option.getD_none, if_pos inside, if_pos ⟨rfl, inside⟩] at concludes
  obtain ⟨after, reached, -⟩ := concludes.answers_of_nonneg (Int.le_refl 0)
  exact ⟨after, reached⟩

theorem configDescriptor_missing (owned : device.owner.raw = some raw)
    (found : world.bus.device? raw = some attached)
    (regular : world.bus.injected .getConfigDescriptor = none)
    (raises : device.library.policies.call.raise)
    (outside : attached.info.configurations ≤ index) :
    ∃ error after, device.configDescriptor index world = .error error after ∧
      error.kind = .notFound := by
  have concludes := configDescriptor_concludes owned index world
  have code : (world.bus.getConfigDescriptor raw index).1.code = ErrorKind.notFound.code := by
    rw [Bus.getConfigDescriptor_eq found, Bus.configCode, regular, Option.getD_none,
      if_neg (UInt8.not_lt.mpr outside)]
  rw [code] at concludes
  obtain ⟨after, refused⟩ := concludes.refuses (by decide) raises
  exact ⟨_, after, refused, rfl⟩

theorem descriptor_counts (owned : device.owner.raw = some raw)
    (found : world.bus.device? raw = some attached)
    (regular : world.bus.injected .getDeviceDescriptor = none) :
    ∃ descriptor after, device.descriptor world = .ok descriptor after ∧
      descriptor.configurations = attached.info.configurations := by
  have concludes : device.descriptor.Concludes world
      (device.library.governs "UsbDevice::device_descriptor" device.library.policies.call)
      (world.bus.getDeviceDescriptor raw).1.code
      (.ofRecord ((world.bus.getDeviceDescriptor raw).1.out.getD {}))
      (world.bus.getDeviceDescriptor raw).2 := by
    unfold descriptor descriptorWith
    rw [requireRaw_bind owned]
    exact (Usb.invoke_concludes ..).bind fun _ => ⟨rfl, rfl⟩
  rw [Bus.getDeviceDescriptor_eq found, Bus.readingCode, Bus.readings, regular] at concludes
  obtain ⟨after, reached, -⟩ := concludes.answers_of_nonneg (Int.le_refl 0)
  exact ⟨_, after, reached, rfl⟩

end Device

/-! ## Claims -/

theorem Bus.claimInterface_code {bus : Bus} {opened : OpenHandle} {attached : AttachedDevice}
    (found : bus.handle? raw = some opened) (known : bus.device? opened.device = some attached)
    (regular : bus.injected .claimInterface = none) (interface : UInt8) :
    (bus.claimInterface raw (Handle.nativeInterface interface)).1.code =
      if interface < attached.info.interfaces then 0 else ErrorKind.notFound.code := by
  have limit : bus.interfaceLimit opened.device = attached.info.interfaces.toNat := by
    rw [interfaceLimit, known]
    rfl
  unfold claimInterface checked
  rw [regular, withHandle_found found, limit, Handle.nativeInterface]
  by_cases inside : interface < attached.info.interfaces
  · have below := UInt8.lt_iff_toNat_lt.mp inside
    rw [if_pos inside, if_neg (by omega)]
    split <;> rfl
  · have above := mt UInt8.lt_iff_toNat_lt.mpr inside
    rw [if_neg inside, if_pos (by omega)]
    rfl

/-- What can be claimed through a handle is what was claimed already and what the device has. -/
theorem Handle.claimInterface_ok_iff {handle : Handle} {opened : OpenHandle}
    {attached : AttachedDevice} (owned : handle.owner.raw = some raw)
    (found : world.bus.handle? raw = some opened)
    (known : world.bus.device? opened.device = some attached)
    (regular : world.bus.injected .claimInterface = none)
    (raises : handle.library.policies.call.raise) (interface : UInt8) :
    (∃ value after, handle.claimInterface interface world = .ok value after) ↔
      interface ∈ handle.claimed ∨ interface ∈ interfaceNumbers attached.info.interfaces := by
  rw [mem_interfaceNumbers]
  by_cases claimed : interface ∈ handle.claimed
  · refine iff_of_true ⟨handle, world, ?_⟩ (.inl claimed)
    unfold claimInterface
    rw [if_pos (isClaimed_iff.mpr claimed)]
    rfl
  · have due : (ClaimCall.claim interface).Due handle.claimed := claimed
    have concludes := ClaimCall.operation_concludes owned due world
    have code := Bus.claimInterface_code found known regular interface
    change (handle.claimInterface interface).Concludes _ _
      (world.bus.claimInterface raw (nativeInterface interface)).1.code _ _ at concludes
    rw [code] at concludes
    by_cases inside : interface < attached.info.interfaces
    · rw [if_pos inside] at concludes
      obtain ⟨after, reached, -⟩ := concludes.answers_of_nonneg (Int.le_refl 0)
      exact iff_of_true ⟨_, after, reached⟩ (.inr inside)
    · rw [if_neg inside] at concludes
      obtain ⟨after, refused⟩ := concludes.refuses (by decide) raises
      refine iff_of_false ?_ (not_or.mpr ⟨claimed, inside⟩)
      rintro ⟨value, last, reached⟩
      rw [refused] at reached
      contradiction

/-! ## Descriptors under a name -/

/-- The descriptor under the name describes a configuration, and the record that it reads was not
freed. -/
def Session.Describes (session : Session) (target : String) (index interfaces : UInt8) : Prop :=
  ∃ descriptor pointer serial, session.resources.descriptor? target = some descriptor ∧
    descriptor.owner.raw = some pointer ∧ pointer.ref = .block serial ∧
    serial ∈ session.world.bus.descriptors ∧ descriptor.Describes index interfaces

/-- The descriptor under the name is blank. -/
def Session.IsBlank (session : Session) (target : String) : Prop :=
  ∃ descriptor, session.resources.descriptor? target = some descriptor ∧ descriptor.Blank

/-- A step after which the descriptor under the name owns nothing. -/
inductive Step.Empties (target : String) : Step → Prop where
  | clear : Empties target (.descriptor (.clear target))
  | release (held : String) : Empties target (.descriptor (.release target held))

namespace Client

variable {client : Client} {descriptor : ConfigDescriptor} {device : Device} {index : UInt8}

/-- What stands under a name stays there until it is replaced. -/
theorem run_descriptor? {acts : List Act}
    (found : client.session.resources.descriptor? target = some descriptor)
    (apart : ∀ act ∈ acts, act.replaces .descriptor target = false) :
    (client.run acts).session.resources.descriptor? target = some descriptor :=
  Resources.descriptor?_of_find?
    ((run_bypasses apart client).trans (Resources.descriptor?_eq_some found))

theorem act_config {after : World}
    (found : client.session.resources.device? name = some device)
    (reached : device.configDescriptor index client.session.world = .ok descriptor after) :
    (client.session.step (.device (.config name index target none))).1 = .answer .done ∧
      (client.act (.step (.device (.config name index target none)))).session.resources.descriptor?
        target = some descriptor := by
  have step : client.session.step (.device (.config name index target none)) =
      Session.storing target (.descriptor descriptor) { client.session with world := after } := by
    simp only [Session.step, DeviceStep.perform, found, Session.withSlot, Session.perform, reached]
  constructor
  · rw [step]
    rfl
  · change (client.session.step _).2.resources.descriptor? target = _
    rw [step]
    simp [Session.storing, Session.answer]

/-- A descriptor that is alive owns a record that was not freed. -/
theorem Kept.describes {interfaces : UInt8} {pointer : ConfigPointer} (kept : client.Kept terms)
    (found : client.session.resources.descriptor? target = some descriptor)
    (owned : descriptor.owner.raw = some pointer)
    (describes : descriptor.Describes index interfaces) :
    client.session.Describes target index interfaces := by
  have alive := Resources.mem_of_find? (Resources.descriptor?_eq_some found)
  have title : .record pointer.ref ∈ client.custody.titles :=
    Custody.mem_titles alive (by simp [Resource.title?, owned])
  obtain ⟨serial, inside, same⟩ := kept.sound.backs.record_mem title
  exact ⟨descriptor, pointer, serial, found, owned, same, inside, describes⟩

theorem act_empties {step : Step} (empties : step.Empties target)
    (found : client.session.resources.descriptor? target = some descriptor) :
    (client.act (.step step)).session.resources.descriptor? target =
      some { descriptor with owner := .empty } := by
  cases empties with
  | clear =>
    simp [act, Session.step, DescriptorStep.perform, found, Session.withSlot, Session.update,
      Session.answer, ConfigDescriptor.clear, Owner.clear]
  | release held =>
    simp only [act, Session.step, DescriptorStep.perform, found, Session.withSlot, Session.update,
      Session.answer, ConfigDescriptor.release, Owner.release]
    split <;> exact Resources.descriptor?_put

end Client

/-! ## Agreement -/

/-- What a device value, the descriptors that are read from it and the handles on the device say of
the interfaces, where no code is injected. -/
structure Device.Coheres (device : Device) (name : String) (attached : AttachedDevice)
    (client : Client) : Prop where
  /-- Every configuration that the device has can be read. -/
  found : client.session.world.bus.injected .getConfigDescriptor = none →
    ∀ index < attached.info.configurations, ∃ descriptor after,
      device.configDescriptor index client.session.world = .ok descriptor after ∧
        descriptor.Describes index attached.info.interfaces
  missing : client.session.world.bus.injected .getConfigDescriptor = none →
    ∀ index, attached.info.configurations ≤ index → ∃ error after,
      device.configDescriptor index client.session.world = .error error after ∧
        error.kind = .notFound
  /-- Whatever happens later, the descriptor says the same until it is emptied, and is blank from
  then on, as long as nothing takes its place. -/
  lasts : client.session.world.bus.injected .getConfigDescriptor = none →
    ∀ index < attached.info.configurations, ∀ target,
      let read : Step := .device (.config name index target none)
      (client.session.step read).1 = .answer .done ∧
        ∀ later, (client.act (.step read)).Permitted .free later →
          (∀ act ∈ later, act.replaces .descriptor target = false) →
            let last := (client.act (.step read)).run later
            last.session.Describes target index attached.info.interfaces ∧
              ∀ step, step.Empties target → ∀ further,
                (∀ act ∈ further, act.replaces .descriptor target = false) →
                  ((last.act (.step step)).run further).session.IsBlank target
  counts : client.session.world.bus.injected .getDeviceDescriptor = none → ∃ descriptor after,
    device.descriptor client.session.world = .ok descriptor after ∧
      descriptor.configurations = attached.info.configurations
  /-- What can be claimed is what was claimed already and what the descriptors list. -/
  claims : client.session.world.bus.injected .claimInterface = none →
    ∀ handle, .handle handle ∈ client.session.owners → handle.library.policies.call.raise →
      ∀ raw opened, handle.owner.raw = some raw →
        client.session.world.bus.handle? raw = some opened → opened.device = attached.id →
          ∀ interface,
            (∃ value after, handle.claimInterface interface client.session.world =
              .ok value after) ↔
            interface ∈ handle.claimed ∨ interface ∈ interfaceNumbers attached.info.interfaces

namespace Client

variable {client : Client} {device : Device} {attached : AttachedDevice} {index : UInt8}

/-- What is read from a device stays as it was read. -/
theorem Kept.lasts (kept : client.Kept .free)
    (found : client.session.resources.device? name = some device)
    (owned : device.owner.raw = some raw)
    (known : client.session.world.bus.device? raw = some attached)
    (regular : client.session.world.bus.injected .getConfigDescriptor = none)
    (inside : index < attached.info.configurations) (target : String) :
    let read : Step := .device (.config name index target none)
    (client.session.step read).1 = .answer .done ∧
      ∀ later, (client.act (.step read)).Permitted .free later →
        (∀ act ∈ later, act.replaces .descriptor target = false) →
          let last := (client.act (.step read)).run later
          last.session.Describes target index attached.info.interfaces ∧
            ∀ step, step.Empties target → ∀ further,
              (∀ act ∈ further, act.replaces .descriptor target = false) →
                ((last.act (.step step)).run further).session.IsBlank target := by
  intro read
  obtain ⟨after, reached⟩ := Device.configDescriptor_found owned known regular inside
  obtain ⟨answered, stored⟩ := act_config found reached
  refine ⟨answered, fun later permitted apart => ?_⟩
  intro last
  have standing : last.session.resources.descriptor? target = some _ :=
    run_descriptor? stored apart
  have permits : client.PermitsStep .free read :=
    .of_plain rfl (by simp [read, Step.namedDevice?]) rfl rfl rfl
  have keptRead := (act_leads kept (.step _) permits).2
  have keptLast : last.Kept .free := (run_leads keptRead later permitted).2
  refine ⟨keptLast.describes standing rfl (ConfigDescriptor.describes_built inside rfl), ?_⟩
  intro step empties further apart
  exact ⟨_, run_descriptor? (act_empties empties standing) apart, ConfigDescriptor.blank rfl⟩

/-- In every reachable state the descriptors of a device and the claims on it agree on its
interfaces. -/
theorem run_interfaces_agree (acts : List Act) (permitted : fresh.Permitted .free acts)
    (name : String) (device : Device)
    (found : (fresh.run acts).session.resources.device? name = some device)
    (raises : device.library.policies.call.raise) (raw : Address)
    (owned : device.owner.raw = some raw) :
    ∃ attached, (fresh.run acts).session.world.bus.device? raw = some attached ∧
      device.Coheres name attached (fresh.run acts) := by
  obtain ⟨-, kept⟩ := run_leads (fresh_kept rfl) acts permitted
  generalize fresh.run acts = client at found kept
  obtain ⟨attached, known⟩ := (kept.attached (Resources.device?_eq_some found) raw owned).device?
  refine ⟨attached, known, ?_⟩
  exact
    { found := by
        intro regular index inside
        obtain ⟨after, reached⟩ := Device.configDescriptor_found owned known regular inside
        exact ⟨_, after, reached, ConfigDescriptor.describes_built inside rfl⟩
      missing := fun regular index outside =>
        Device.configDescriptor_missing owned known regular raises outside
      lasts := fun regular index inside target =>
        kept.lasts found owned known regular inside target
      counts := Device.descriptor_counts owned known
      claims := by
        intro regular handle alive raises raw opened owned isOpen on
        have same := (kept.sound.backs.orderly.device?_eq_some_iff.mp known).2
        rw [← same, ← on] at known
        exact Handle.claimInterface_ok_iff owned isOpen known regular raises }

/-- A device with as many interfaces and configurations as there can be, and a handle on it. -/
def fullDeviceRun : List Act :=
  [.step (.control (.attach { interfaces := 255, configurations := 255 })),
    .step (.device (.adopt "device" 4096 none)), .step (.device (.openHandle "device" "handle")),
    .step (.handle (.claim "handle" 254))]

/-- Nobody holds the device any more. -/
def goneDeviceRun : List Act :=
  [.step (.drop .handle "handle"), .step (.drop .device "device"), .returnReference 4096]

theorem run_interfaces_agree_full :
    let client := fresh.run fullDeviceRun
    let device : Device := { library := {}, owner := ⟨some 4096⟩ }
    let read : Step := .device (.config "device" 254 "config" none)
    let gone := (client.act (.step read)).run goneDeviceRun
    fresh.Permitted .free fullDeviceRun ∧ (client.act (.step read)).Permitted .free goneDeviceRun ∧
      client.session.resources.device? "device" = some device ∧
      gone.session.world.bus.references 4096 = 0 ∧
      gone.session.Describes "config" 254 255 ∧
      ∃ attached, client.session.world.bus.device? 4096 = some attached ∧
        attached.info.interfaces = 255 ∧ device.Coheres "device" attached client := by
  intro client device read gone
  have permitted : fresh.Permitted .free fullDeviceRun := by decide
  have permittedLater : (client.act (.step read)).Permitted .free goneDeviceRun := by decide
  have found : client.session.resources.device? "device" = some device := rfl
  obtain ⟨attached, known, coheres⟩ :=
    run_interfaces_agree fullDeviceRun permitted "device" device found rfl 4096 rfl
  have plugged : client.session.world.bus.device? 4096 =
      some ⟨4096, { address := 1, interfaces := 255, configurations := 255 }, 3⟩ := rfl
  obtain rfl := Option.some.inj (known.symm.trans plugged)
  obtain ⟨-, lasts⟩ := coheres.lasts rfl 254 (by decide) "config"
  exact ⟨permitted, permittedLater, found, by decide,
    (lasts goneDeviceRun permittedLater (by decide)).1, _, known, rfl, coheres⟩

end Client

end UsbHost
