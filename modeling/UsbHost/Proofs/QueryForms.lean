import UsbHost.Proofs.Codes
import UsbHost.Proofs.Indifference
import UsbHost.Proofs.Refusal

/-!
# The forms of a query

A query has a form under the policy for calls, one under an explicit policy, and one that answers a
default where the query fails. All forms of a query make the same native call. Once an error is
read as the default they agree on the value as well, and what they log of a failure differs in the
level only.
-/

set_option autoImplicit false

namespace UsbHost

variable {α β : Type} {world : World} {raw : Address}

/-! ## Errors read as a default -/

/-- The value of an operation, or a default if it raises. -/
def Usb.readOr (default : α) (operation : Usb α) (world : World) : α × World :=
  match operation world with
  | .ok value after => (value, after)
  | .error _ after => (default, after)

/-- The world after a call was made and its failure, if it failed, was logged. -/
def World.noted (world : World) (governance : Governance) (function : NativeFunction) (code : Int)
    (bus : Bus) : World where
  bus
  log := world.log ++ governance.lines function code

/-- A query that makes of a failed reply what an error is read as does not depend on whether the
failure is raised. -/
theorem Usb.readOr_invoke {library : Library} {policy : CallPolicy} {site : String}
    {function : NativeFunction} {native : Bus → Reply α × Bus} {next : Reply α → β} {default : β}
    (failed : (native world.bus).1.code < 0 → next (native world.bus).1 = default) :
    readOr default (library.invoke policy site function native >>= fun reply => pure (next reply))
        world =
      (next (native world.bus).1,
        world.noted (library.governs site policy) function (native world.bus).1.code
          (native world.bus).2) := by
  simp only [readOr, bind, EStateM.bind, Usb.invoke_eq]
  by_cases raised : (native world.bus).1.code < 0 ∧ policy.raise
  · rw [if_pos raised, failed raised.1]
    rfl
  · rw [if_neg raised]
    rfl

inductive QueryForm where
  | plain
  | explicit (policy : CallPolicy)
  | orDefault

/-- The policy that the query is made under. -/
def QueryForm.policy (policies : Policies) : QueryForm → CallPolicy
  | plain => policies.call
  | explicit policy => policy
  | orDefault => policies.query.quiet

/-! ## The three queries -/

/-- The configuration of a handle in any form. -/
def Handle.configurationBy (handle : Handle) : QueryForm → World → Int × World
  | .plain => handle.configuration.readOr 0
  | .explicit policy => (handle.configurationWith policy).readOr 0
  | .orDefault => handle.configurationOrDefault

/-- The descriptor of a device in any form. -/
def Device.descriptorBy (device : Device) : QueryForm → World → DeviceDescriptor × World
  | .plain => device.descriptor.readOr {}
  | .explicit policy => (device.descriptorWith policy).readOr {}
  | .orDefault => device.descriptorOrDefault

/-- The descriptor of a configuration, under an explicit policy if there is one. -/
def Device.configDescriptorBy (device : Device) (index : UInt8) :
    Option CallPolicy → World → ConfigDescriptor × World
  | none => (device.configDescriptor index).readOr (.empty device.library)
  | some policy => (device.configDescriptorWith policy index).readOr (.empty device.library)

theorem Handle.configurationBy_eq (handle : Handle) (form : QueryForm) (world : World) :
    handle.configurationBy form world =
      (handle.configurationWith (form.policy handle.library.policies)).readOr 0 world := by
  cases form with
  | plain | explicit policy => rfl
  | orDefault =>
    change handle.configurationOrDefault world = _
    unfold configurationOrDefault Usb.readOr QueryForm.policy
    cases handle.configurationWith handle.library.policies.query.quiet world <;> rfl

theorem Device.descriptorBy_eq (device : Device) (form : QueryForm) (world : World) :
    device.descriptorBy form world =
      (device.descriptorWith (form.policy device.library.policies)).readOr {} world := by
  cases form with
  | plain | explicit policy => rfl
  | orDefault =>
    change device.descriptorOrDefault world = _
    unfold descriptorOrDefault Usb.readOr QueryForm.policy
    cases device.descriptorWith device.library.policies.query.quiet world <;> rfl

theorem Device.configDescriptorBy_eq (device : Device) (index : UInt8)
    (policy : Option CallPolicy) (world : World) :
    device.configDescriptorBy index policy world =
      (device.configDescriptorWith (policy.getD device.library.policies.call) index).readOr
        (.empty device.library) world := by
  cases policy <;> rfl

/-! ## What the bus answers -/

namespace Bus

variable {bus : Bus} {function : NativeFunction} {attached : AttachedDevice} {opened : OpenHandle}

/-- What a query reads that fails only where a code is injected. -/
def readings (bus : Bus) (function : NativeFunction) (value default : α) : α :=
  (bus.injected function).elim value fun _ => default

/-- What the call of such a query answers. -/
def readingCode (bus : Bus) (function : NativeFunction) : Int :=
  (bus.injected function).getD 0

theorem checked_wrote (bus : Bus) (function : NativeFunction) (argument : Option Int) (out : α) :
    bus.checked function argument (.wrote out, bus) =
      ({ code := bus.readingCode function
         out := bus.readings function (some out) none },
        bus.record function argument (some (bus.readingCode function))) := by
  unfold checked answering readingCode readings
  cases bus.injected function <;> rfl

theorem getConfiguration_eq (found : bus.handle? raw = some opened) :
    bus.getConfiguration raw =
      ({ code := bus.readingCode .getConfiguration
         out := bus.readings .getConfiguration (some opened.configuration) none },
        bus.record .getConfiguration none (some (bus.readingCode .getConfiguration))) := by
  unfold getConfiguration
  rw [withHandle_found found]
  exact bus.checked_wrote ..

end Bus

/-- What becomes of a query that fails only where a code is injected. -/
def World.queried (world : World) (governance : Governance) (function : NativeFunction)
    (value default : α) : α × World :=
  let code := world.bus.readingCode function
  (world.bus.readings function value default,
    world.noted governance function code (world.bus.record function none (some code)))

/-- The record that the bus answers for a device. -/
def AttachedDevice.record (attached : AttachedDevice) : DeviceRecord where
  length := 18
  descriptorType := 1
  usbVersion := 0x0200
  maxPacketSize := 64
  vendor := attached.info.vendor
  product := attached.info.product
  configurations := attached.info.configurations

theorem Bus.getDeviceDescriptor_eq {bus : Bus} {attached : AttachedDevice}
    (found : bus.device? raw = some attached) :
    bus.getDeviceDescriptor raw =
      ({ code := bus.readingCode .getDeviceDescriptor
         out := bus.readings .getDeviceDescriptor (some attached.record) none },
        bus.record .getDeviceDescriptor none (some (bus.readingCode .getDeviceDescriptor))) := by
  unfold getDeviceDescriptor
  rw [withDevice_found found]
  exact bus.checked_wrote ..

namespace Bus

variable {bus : Bus} {attached : AttachedDevice}

/-- The record of a configuration; there is none where the query for it fails. -/
def configRecord? (bus : Bus) (attached : AttachedDevice) (index : UInt8) : Option ConfigRecord :=
  if bus.injected .getConfigDescriptor = none ∧ index < attached.info.configurations then
    some (.build (index + 1) attached.info.interfaces)
  else none

/-- What the call of a query for a configuration answers. -/
def configCode (bus : Bus) (attached : AttachedDevice) (index : UInt8) : Int :=
  (bus.injected .getConfigDescriptor).getD
    (if index < attached.info.configurations then 0 else ErrorKind.notFound.code)

theorem configRecord?_failed {index : UInt8} (negative : bus.configCode attached index < 0) :
    bus.configRecord? attached index = none := by
  apply if_neg
  rintro ⟨regular, there⟩
  rw [configCode, regular, Option.getD_none, if_pos there] at negative
  contradiction

/-- The bus after a record was handed out in a new block, or after none was. -/
def handingOut (bus : Bus) : Option ConfigRecord → Bus
  | some _ =>
    { bus with descriptors := bus.descriptors ++ [bus.nextBlock], nextBlock := bus.nextBlock + 1 }
  | none => bus

theorem getConfigDescriptor_eq (found : bus.device? raw = some attached) (index : UInt8) :
    bus.getConfigDescriptor raw index =
      ({ code := bus.configCode attached index
         out := (bus.configRecord? attached index).map fun record =>
          { ref := .block bus.nextBlock, record } },
        (bus.handingOut (bus.configRecord? attached index)).record .getConfigDescriptor
          (some index.toNat) (some (bus.configCode attached index))) := by
  unfold getConfigDescriptor configCode configRecord? checked answering
  rw [withDevice_found found]
  cases bus.injected .getConfigDescriptor with
  | some code => rfl
  | none =>
    by_cases there : index < attached.info.configurations
    · simp [there, UInt8.not_le.mpr there, Reply.wrote, handingOut]
    · simp [there, UInt8.not_lt.mp there, Reply.failed, handingOut]

end Bus

/-! ## Queries that make their call -/

theorem Handle.configurationBy_asked {handle : Handle} {opened : OpenHandle}
    (owned : handle.owner.raw = some raw) (found : world.bus.handle? raw = some opened)
    (form : QueryForm) :
    handle.configurationBy form world =
      world.queried
        (handle.library.governs "DeviceHandle::configuration" (form.policy handle.library.policies))
        .getConfiguration opened.configuration 0 := by
  have reply := Bus.getConfiguration_eq found
  rw [configurationBy_eq, configurationWith, requireRaw_bind owned]
  refine (Usb.readOr_invoke ?_).trans ?_
  · exact fun negative => if_pos negative
  · simp only [NativeApi.getConfiguration, reply, World.queried, Bus.readings, Bus.readingCode]
    cases world.bus.injected .getConfiguration with
    | none => rfl
    | some code => exact congrArg (·, _) (ite_self _)

theorem Device.descriptorBy_asked {device : Device} {attached : AttachedDevice}
    (owned : device.owner.raw = some raw) (found : world.bus.device? raw = some attached)
    (form : QueryForm) :
    device.descriptorBy form world =
      world.queried
        (device.library.governs "UsbDevice::device_descriptor"
          (form.policy device.library.policies))
        .getDeviceDescriptor (.ofRecord attached.record) {} := by
  have reply := Bus.getDeviceDescriptor_eq found
  rw [descriptorBy_eq, descriptorWith, requireRaw_bind owned]
  refine (Usb.readOr_invoke ?_).trans ?_
  · simp only [NativeApi.getDeviceDescriptor, reply, Bus.readings, Bus.readingCode]
    cases world.bus.injected .getDeviceDescriptor with
    | none => exact fun negative => absurd negative (by decide)
    | some code => exact fun _ => rfl
  · simp only [NativeApi.getDeviceDescriptor, reply, World.queried, Bus.readings, Bus.readingCode]
    cases world.bus.injected .getDeviceDescriptor <;> rfl

/-- What becomes of a query for a configuration. -/
def Device.configDescriptorAsked (device : Device) (attached : AttachedDevice) (index : UInt8)
    (policy : Option CallPolicy) (world : World) : ConfigDescriptor × World :=
  let record := world.bus.configRecord? attached index
  let code := world.bus.configCode attached index
  ({ library := device.library
     owner := ⟨record.map fun record => { ref := .block world.bus.nextBlock, record }⟩ },
    world.noted
      (device.library.governs "UsbDevice::config_descriptor"
        (policy.getD device.library.policies.call))
      .getConfigDescriptor code
      ((world.bus.handingOut record).record .getConfigDescriptor (some index.toNat) (some code)))

theorem Device.configDescriptorBy_asked {device : Device} {attached : AttachedDevice}
    (owned : device.owner.raw = some raw) (found : world.bus.device? raw = some attached)
    (index : UInt8) (policy : Option CallPolicy) :
    device.configDescriptorBy index policy world =
      device.configDescriptorAsked attached index policy world := by
  have reply := Bus.getConfigDescriptor_eq found index
  rw [configDescriptorBy_eq, configDescriptorWith, requireRaw_bind owned]
  simp only [← apply_ite]
  refine (Usb.readOr_invoke ?_).trans ?_
  · exact fun negative => if_pos negative
  · simp only [NativeApi.getConfigDescriptor, reply]
    refine Prod.ext ?_ rfl
    by_cases negative : world.bus.configCode attached index < 0
    · rw [if_pos negative, configDescriptorAsked, Bus.configRecord?_failed negative]
      rfl
    · rw [if_neg negative]
      rfl

/-! ## Agreement -/

/-- The same value, and worlds that differ in the levels of failures only. -/
def World.Agree (left right : α × World) : Prop :=
  left.1 = right.1 ∧ left.2.bus = right.2.bus ∧
    left.2.log.map Event.unlevelled = right.2.log.map Event.unlevelled

namespace World

variable {Form : Type} {forms : Form → α × World} {value : α}

/-- Forms that make no call agree. -/
theorem agree_of_vacant {answered : α × World} (vacant : ∀ form, forms form = answered)
    (form other : Form) : Agree (forms form) (forms other) := by
  rw [vacant form, vacant other]
  exact ⟨rfl, rfl, rfl⟩

/-- Forms that make the same call agree, whatever the policies that they make it under. -/
theorem agree_of_asked {library : Library} {site : String} {policy : Form → CallPolicy}
    {function : NativeFunction} {code : Int} {bus : Bus}
    (asked : ∀ form, forms form =
      (value, world.noted (library.governs site (policy form)) function code bus))
    (form other : Form) : Agree (forms form) (forms other) := by
  rw [asked form, asked other]
  refine ⟨rfl, rfl, ?_⟩
  simp only [noted, List.map_append]
  congr 1
  unfold Governance.lines
  split <;> rfl

end World

/-- All forms of the query for the configuration do the same. -/
structure Handle.QueriesAgree (handle : Handle) (world : World) : Prop where
  vacant : handle.owner.raw = none → ∀ form, handle.configurationBy form world = (0, world)
  asked : ∀ raw, handle.owner.raw = some raw → ∃ opened, world.bus.handle? raw = some opened ∧
    ∀ form, handle.configurationBy form world =
      world.queried
        (handle.library.governs "DeviceHandle::configuration" (form.policy handle.library.policies))
        .getConfiguration opened.configuration 0
  agree : ∀ form other,
    World.Agree (handle.configurationBy form world) (handle.configurationBy other world)

theorem Handle.queriesAgree {handle : Handle} (isOpen : handle.Open world.bus) :
    handle.QueriesAgree world := by
  have vacant (empty : handle.owner.raw = none) (form : QueryForm) :
      handle.configurationBy form world = (0, world) := by
    rw [configurationBy_eq, Usb.readOr, configurationWith,
      bind_vacant world (by simp [Resource.title?, empty])]
  refine ⟨vacant, ?_, ?_⟩
  · intro raw owned
    obtain ⟨opened, found⟩ := isOpen raw owned
    exact ⟨opened, found, configurationBy_asked owned found⟩
  · cases owned : handle.owner.raw with
    | none => exact World.agree_of_vacant (vacant owned)
    | some raw =>
      obtain ⟨opened, found⟩ := isOpen raw owned
      exact World.agree_of_asked (configurationBy_asked owned found)

/-- All forms of the queries for descriptors do the same. -/
structure Device.QueriesAgree (device : Device) (world : World) : Prop where
  vacant : device.owner.raw = none → ∀ form, device.descriptorBy form world = ({}, world)
  vacantConfig : device.owner.raw = none → ∀ index policy,
    device.configDescriptorBy index policy world = (.empty device.library, world)
  asked : ∀ raw, device.owner.raw = some raw → ∃ attached, world.bus.device? raw = some attached ∧
    (∀ form, device.descriptorBy form world =
      world.queried
        (device.library.governs "UsbDevice::device_descriptor"
          (form.policy device.library.policies))
        .getDeviceDescriptor (.ofRecord attached.record) {}) ∧
    ∀ index policy, device.configDescriptorBy index policy world =
      device.configDescriptorAsked attached index policy world
  agree : ∀ form other,
    World.Agree (device.descriptorBy form world) (device.descriptorBy other world)
  agreeConfig : ∀ index policy other,
    World.Agree (device.configDescriptorBy index policy world)
      (device.configDescriptorBy index other world)

theorem Device.queriesAgree {device : Device} (known : device.Attached world.bus) :
    device.QueriesAgree world := by
  have vacant (empty : device.owner.raw = none) (form : QueryForm) :
      device.descriptorBy form world = ({}, world) := by
    rw [descriptorBy_eq, Usb.readOr, descriptorWith,
      bind_vacant world (by simp [Resource.title?, empty])]
  have vacantConfig (empty : device.owner.raw = none) (index : UInt8)
      (policy : Option CallPolicy) :
      device.configDescriptorBy index policy world = (.empty device.library, world) := by
    rw [configDescriptorBy_eq, Usb.readOr, configDescriptorWith,
      bind_vacant world (by simp [Resource.title?, empty])]
  refine ⟨vacant, vacantConfig, ?_, ?_, ?_⟩
  · intro raw owned
    obtain ⟨attached, found⟩ := (known raw owned).device?
    exact ⟨attached, found, descriptorBy_asked owned found, configDescriptorBy_asked owned found⟩
  · cases owned : device.owner.raw with
    | none => exact World.agree_of_vacant (vacant owned)
    | some raw =>
      obtain ⟨attached, found⟩ := (known raw owned).device?
      exact World.agree_of_asked (descriptorBy_asked owned found)
  · intro index
    cases owned : device.owner.raw with
    | none => exact World.agree_of_vacant (vacantConfig owned index)
    | some raw =>
      obtain ⟨attached, found⟩ := (known raw owned).device?
      exact World.agree_of_asked (configDescriptorBy_asked owned found index)

/-! ## Runs -/

namespace Client

/-- A record that a query handed out is alive, and the descriptor made of it is the only one to own
it. -/
def OwnsOnce (client : Client) (made : ConfigDescriptor × World) : Prop :=
  ∀ pointer, made.1.owner.raw = some pointer →
    ∃ serial, pointer.ref = .block serial ∧ made.2.bus.descriptors.count serial = 1 ∧
      (Custody.mk made.2 (.descriptor made.1 :: client.session.owners)
        client.ledger).titles.count (.record pointer.ref) = 1

theorem configDescriptorBy_ownsOnce {client : Client} {terms : Terms} {device : Device}
    (kept : client.Kept terms) (known : device.Attached client.session.world.bus) (index : UInt8)
    (policy : Option CallPolicy) :
    client.OwnsOnce (device.configDescriptorBy index policy client.session.world) := by
  intro pointer taken
  have backs := kept.sound.backs
  have unused : client.session.world.bus.nextBlock ∉ client.session.world.bus.descriptors :=
    fun member => Nat.lt_irrefl _ (backs.orderly.descriptors.below _ member)
  have unowned : .record (.block client.session.world.bus.nextBlock) ∉ client.custody.titles := by
    intro member
    obtain ⟨serial, inside, same⟩ := backs.record_mem member
    exact unused (BlockRef.block.inj same ▸ inside)
  cases owned : device.owner.raw with
  | none =>
    rw [(Device.queriesAgree known).vacantConfig owned index policy] at taken
    contradiction
  | some raw =>
    obtain ⟨attached, found⟩ := (known raw owned).device?
    rw [Device.configDescriptorBy_asked owned found, Device.configDescriptorAsked] at taken ⊢
    obtain ⟨record, read, rfl⟩ := Option.map_eq_some_iff.mp taken
    rw [read]
    refine ⟨_, rfl, ?_, ?_⟩
    · change (client.session.world.bus.descriptors ++ [_]).count _ = 1
      rw [List.count_append, List.count_eq_zero.mpr unused, List.count_singleton_self]
    · have others (world : World) : (Custody.mk world client.session.owners
          client.ledger).titles.count (.record (.block client.session.world.bus.nextBlock)) = 0 :=
        List.count_eq_zero.mpr unowned
      rw [Custody.titles_cons, List.count_append, others]
      exact List.count_singleton_self

/-- In every reachable state the forms of a query agree, and a descriptor that is handed out is
owned once. -/
theorem run_queries_agree (acts : List Act) (permitted : fresh.Permitted .free acts) :
    let client := fresh.run acts
    (∀ handle, .handle handle ∈ client.session.owners → handle.QueriesAgree client.session.world) ∧
      ∀ device, .device device ∈ client.session.owners →
        device.QueriesAgree client.session.world ∧
          ∀ index policy,
            client.OwnsOnce (device.configDescriptorBy index policy client.session.world) := by
  intro client
  obtain ⟨-, kept⟩ := run_leads (fresh_kept rfl) acts permitted
  constructor
  · exact fun handle alive => Handle.queriesAgree (kept.isOpen_of_alive alive)
  · intro device alive
    have known := kept.attached_of_alive alive
    exact ⟨Device.queriesAgree known, configDescriptorBy_ownsOnce kept known⟩

/-- A device, a handle on it, and a query that is answered something else than it asks for. -/
def queriedRun : List Act :=
  [.step (.control (.attach { configurations := 1 })),
    .step (.control (.fail "libusb_get_configuration" 3)),
    .step (.device (.adopt "device" 4096 none)),
    .step (.device (.openHandle "device" "handle"))]

theorem run_queries_agree_queried :
    let client := fresh.run queriedRun
    let device : Device := { library := {}, owner := ⟨some 4096⟩ }
    let handle : Handle := { library := {}, owner := ⟨some 4112⟩ }
    fresh.Permitted .free queriedRun ∧ .handle handle ∈ client.session.owners ∧
      .device device ∈ client.session.owners ∧ handle.QueriesAgree client.session.world ∧
      device.QueriesAgree client.session.world ∧
      (device.configDescriptorBy 0 none client.session.world).1.owner.raw.isSome ∧
      client.OwnsOnce (device.configDescriptorBy 0 none client.session.world) := by
  intro client device handle
  have permitted : fresh.Permitted .free queriedRun := by decide
  have handleAlive : .handle handle ∈ client.session.owners :=
    @Resources.mem_of_find? _ .handle "handle" _ rfl
  have deviceAlive : .device device ∈ client.session.owners :=
    @Resources.mem_of_find? _ .device "device" _ rfl
  obtain ⟨handles, devices⟩ := run_queries_agree queriedRun permitted
  obtain ⟨agree, once⟩ := devices device deviceAlive
  exact ⟨permitted, handleAlive, deviceAlive, handles handle handleAlive, agree, by decide,
    once 0 none⟩

end Client

end UsbHost
