import Mathlib.Data.List.Find
import UsbHost.Proofs.Bystanders
import UsbHost.Proofs.Codes
import UsbHost.Proofs.HandleRuns
import UsbHost.Proofs.Refusal
import UsbHost.Proofs.Switching

/-!
# The devices of open handles

A handle is on one device for as long as it is open, and the reference that it was opened with
keeps that device. So the handle answers its device whenever it is asked, and the device can be
opened again, even where the handle is the last that has a reference to it.
-/

set_option autoImplicit false

namespace UsbHost

variable {terms : Terms} {session : Session} {world : World} {raw : Address}

/-! ## What a handle is bound to -/

namespace Bus

variable {bus before after : Bus} {reach : Reach} {device : Address} {aim : Option Address}
  {ended : Reply Address × Bus}

/-- The handle is on the device for as long as it is open. Its address was handed out before, so
that no later handle is taken for it. -/
structure Bound (bus : Bus) (raw device : Address) : Prop where
  below : raw < bus.nextAddress
  device : ∀ opened, bus.handle? raw = some opened → opened.device = device

theorem Bound.heeds (bound : before.Bound raw device) (heeds : before.Heeds reach after) :
    after.Bound raw device where
  below := Nat.lt_of_lt_of_le bound.below heeds.addresses
  device := by
    intro later found
    cases heeds.origin raw later found with
    | older foundBefore same => exact same.trans (bound.device _ foundBefore)
    | newer fresh => exact absurd bound.below (Nat.not_lt.mpr fresh)

theorem Coherent.addHandle_bound (coherent : bus.Coherent) (device : Address) :
    (bus.addHandle device).2.Bound bus.nextAddress device where
  below := bus.lt_nextAddress
  device := by
    intro opened found
    obtain rfl := Option.some.inj (found.symm.trans (coherent.addHandle_handle? device))
    rfl

/-- A call that answers a handle has bound it to the device that it was aimed at. -/
def Binds (aim : Option Address) (ended : Reply Address × Bus) : Prop :=
  ∀ raw, ended.1.out = some raw → ∃ device, aim = some device ∧ ended.2.Bound raw device

theorem binds_nothing (nothing : ended.1.out = none) : Binds aim ended :=
  fun _ out => absurd (out.symm.trans nothing) nofun

theorem answering_binds {function : NativeFunction} {argument injected : Option Int}
    (otherwise : Binds aim ended) : Binds aim (bus.answering function argument injected ended) := by
  rcases bus.answering_cases function argument injected ended with ⟨code, -, same⟩ | ⟨-, same⟩
  · rw [same]
    exact binds_nothing rfl
  · rw [same]
    intro raw out
    obtain ⟨device, aimed, bound⟩ := otherwise raw out
    have recorded : ended.2.Heeds .any (ended.2.record function argument (some ended.1.code)) :=
      Bus.aside_heeds _
    exact ⟨device, aimed, bound.heeds recorded⟩

theorem Coherent.addHandle_binds (coherent : bus.Coherent) (device : Address) :
    Binds (some device) (bus.addHandle device) := by
  rintro _ ⟨⟩
  exact ⟨device, rfl, coherent.addHandle_bound device⟩

theorem Coherent.openDevice_binds (coherent : bus.Coherent) (device : Address) :
    Binds (some device) (bus.openDevice device) := by
  refine answering_binds ?_
  unfold withDevice
  split
  · dsimp only
    split
    · exact binds_nothing rfl
    · exact coherent.addHandle_binds device
  · exact binds_nothing rfl

/-- The first of the devices to which somebody holds a reference. -/
def firstHeld (bus : Bus) (devices : List Address) : Option Address :=
  devices.find? fun device => 0 < bus.references device

theorem Populated.firstHeld_eq {ids : List Address} (populated : bus.Populated ids) :
    bus.firstHeld ids =
      (bus.devices.find? fun attached => 0 < attached.references).map AttachedDevice.id := by
  rw [firstHeld, ← populated.table, List.find?_map]
  refine congrArg _ (List.find?_congr fun attached member => ?_)
  have found := populated.coherent.device?_eq_some_iff.mpr ⟨member, rfl⟩
  rw [Function.comp_apply, references, found]
  rfl

theorem Populated.wrapSystemDevice_binds {ids : List Address} (populated : bus.Populated ids)
    (systemHandle : Int) :
    Binds (bus.firstHeld ids) (bus.wrapSystemDevice systemHandle) := by
  rw [populated.firstHeld_eq]
  refine answering_binds ?_
  split
  · next attached found =>
    rw [found]
    exact populated.coherent.addHandle_binds attached.id
  · exact binds_nothing rfl

/-- A device that an open handle and somebody else hold has two references. -/
theorem Backs.shared {returned : List Address} {titles : List Title} {title : Title}
    {opened : OpenHandle} (backs : bus.Backs returned titles) (member : opened ∈ bus.handles)
    (held : title ∈ titles) (holds : title.holds opened.device) :
    2 ≤ bus.references opened.device := by
  rw [backs.references_eq (backs.bound opened member)]
  have titled : 0 < titles.countP (Title.holds opened.device) :=
    List.countP_pos_iff.mpr ⟨title, held, holds⟩
  have seated : 0 < bus.handlesOn opened.device :=
    List.countP_pos_iff.mpr ⟨opened, member, beq_self_eq_true _⟩
  omega

end Bus

/-! ## Opening -/

theorem Device.openHandle_concludes {device : Device} (owned : device.owner.raw = some raw)
    (world : World) :
    device.openHandle.Concludes world
      (device.library.governs "UsbDevice::open" device.library.policies.call)
      (world.bus.openDevice raw).1.code
      (.ofRaw device.library (world.bus.openDevice raw).1.out) (world.bus.openDevice raw).2 := by
  unfold openHandle
  rw [requireRaw_bind owned]
  exact (Usb.invoke_concludes ..).bind fun _ => ⟨rfl, rfl⟩

theorem Handle.wrapSystemDevice_concludes (context : Context) (systemHandle : Int)
    (world : World) :
    (wrapSystemDevice context systemHandle).Concludes world
      (context.library.governs "DeviceHandle::wrap_sys_device" context.library.policies.call)
      (world.bus.wrapSystemDevice systemHandle).1.code
      (.ofRaw context.library (world.bus.wrapSystemDevice systemHandle).1.out)
      (world.bus.wrapSystemDevice systemHandle).2 :=
  (Usb.invoke_concludes ..).bind fun _ => ⟨rfl, rfl⟩

/-- Unless a code is injected, the device can be opened, and there is a handle then. -/
def Device.Opens (device : Device) (world : World) : Prop :=
  world.bus.injected .openDevice = none →
    ∃ handle after, device.openHandle world = .ok handle after ∧ handle.isEmpty = false

theorem Device.opens {device : Device} (owned : device.owner.raw = some raw)
    (held : 0 < world.bus.references raw) : device.Opens world := by
  intro regular
  unfold Bus.references at held
  cases found : world.bus.device? raw with
  | none =>
    rw [found] at held
    contradiction
  | some attached =>
    rw [found] at held
    have referenced : attached.references ≠ 0 := Nat.ne_of_gt held
    have answered : (world.bus.openDevice raw).1 = .wrote world.bus.nextAddress := by
      unfold Bus.openDevice Bus.checked
      rw [regular, Bus.withDevice_found found, if_neg referenced]
      rfl
    have concludes := openHandle_concludes owned world
    rw [answered] at concludes
    obtain ⟨after, reached, -⟩ := concludes.answers_of_nonneg (Int.le_refl 0)
    exact ⟨_, after, reached, rfl⟩

/-! ## What an open handle has of its device -/

/-- A handle answers the device that it is on, with a reference taken for the answer. -/
theorem Handle.device_answers {handle : Handle} {opened : OpenHandle}
    (owned : handle.owner.raw = some raw) (found : world.bus.handle? raw = some opened)
    (known : world.bus.Knows opened.device) (nonNull : opened.device ≠ 0) :
    handle.device.Ends world
      (fun value after => value.owner.raw = some opened.device ∧
        after.bus.references opened.device = world.bus.references opened.device + 1)
      (fun _ _ => False) := by
  unfold device
  rw [requireRaw_bind owned]
  simp only [Usb.ends_bind, Usb.ends_lift, World.ask, NativeApi.getDevice,
    Bus.getDevice_found found, if_neg nonNull, Device.ofRaw, Device.referenced_eq,
    Device.takeReference, Address.owned?]
  have recorded : (world.bus.record .getDevice).Knows opened.device := known
  refine ⟨rfl, (Bus.refDevice_references recorded opened.device).trans ?_⟩
  rw [if_pos rfl]
  rfl

/-- What a handle that is on the device has of it. -/
structure Handle.Keeps (handle : Handle) (device : Address) (session : Session) : Prop where
  /-- The device has a reference, whoever else gave theirs back. -/
  referenced : 1 ≤ session.world.bus.references device
  /-- The handle answers the device, which then has two references and can be opened. -/
  answers : ∃ value after, handle.device session.world = .ok value after ∧
    value.owner.raw = some device ∧ 2 ≤ after.bus.references device ∧ value.Opens after
  /-- The same holds for as long as such an answer lives. -/
  shared : ∀ value, .device value ∈ session.owners → value.owner.raw = some device →
    2 ≤ session.world.bus.references device ∧ value.Opens session.world

theorem Client.Kept.keeps {client : Client} {handle : Handle} {device : Address}
    (kept : client.Kept terms) (alive : .handle handle ∈ client.session.owners)
    (owned : handle.owner.raw = some raw) (bound : client.session.world.bus.Bound raw device) :
    handle.Keeps device client.session := by
  have backs : client.session.world.bus.Backs client.ledger.returned client.titles :=
    kept.sound.backs
  obtain ⟨opened, found⟩ := kept.isOpen_of_alive alive raw owned
  obtain rfl := bound.device opened found
  have member := (backs.orderly.handle?_eq_some_iff.mp found).1
  have known := backs.bound opened member
  have referenced := backs.secure.seated opened member
  refine ⟨referenced, ?_, ?_⟩
  · obtain ⟨value, after, answered, names, more⟩ :=
      (Handle.device_answers owned found known (backs.orderly.nonNull _ known)).succeeds
    refine ⟨value, after, answered, names, ?_, Device.opens names ?_⟩
    · rw [more]
      exact Nat.succ_le_succ referenced
    · rw [more]
      exact Nat.succ_pos _
  · intro value aliveValue names
    have title : .reference opened.device ∈ client.custody.titles :=
      Custody.mem_titles aliveValue (by simp [Resource.title?, names])
    exact ⟨backs.shared member title (by simp [Title.holds]), Device.opens names referenced⟩

/-! ## Steps -/

/-- There is a handle under the name, and it owns the native handle. -/
def Session.Has (session : Session) (name : String) (raw : Address) : Prop :=
  ∃ handle, session.resources.handle? name = some handle ∧ handle.owner.raw = some raw

/-- A step that is to open a handle under the name. -/
inductive Step.Opens (target : String) : Step → Prop where
  | device (source : String) : Opens target (.device (.openHandle source target))
  | wrapped (context : String) (systemHandle : Int) :
    Opens target (.handle (.wrap target context systemHandle))

/-- The device that a step is to open: that of the device value that it is performed on, or else
the first attached one to which somebody holds a reference. -/
def Session.aim? (session : Session) (attached : List Address) : Step → Option Address
  | .device (.openHandle source _) =>
    (session.resources.device? source).bind fun device => device.owner.raw
  | .handle (.wrap ..) => session.world.bus.firstHeld attached
  | _ => none

/-- A step that opens a handle asks nothing of the client. -/
theorem Client.permits_opens {client : Client} {step : Step} {target : String}
    (opens : step.Opens target) : client.PermitsStep terms step := by
  cases opens with
  | device | wrapped => exact .of_plain rfl (by simp [Step.namedDevice?]) rfl rfl rfl

namespace Session

/-- Where an operation that opens a handle ends with what it stores: the handle is bound to the
device that the native call was aimed at. -/
theorem perform_bound {operation : Usb Handle} {library : Library} {governance : Governance}
    {answered : Reply Address × Bus} {aim : Option Address} {target : String} {ended : Ended}
    (performs : (session.perform operation fun handle => storing target (.handle handle)) = ended)
    (concludes : operation.Concludes session.world governance answered.1.code
      (.ofRaw library answered.1.out) answered.2)
    (binds : Bus.Binds aim answered) (ok : ended.1.result.isOk) (has : ended.2.Has target raw) :
    ∃ device, aim = some device ∧ ended.2.world.bus.Bound raw device := by
  unfold perform at performs
  cases reached : operation session.world with
  | error error after =>
    rw [reached] at performs
    subst performs
    contradiction
  | ok value after =>
    rw [reached] at performs
    subst performs
    have concluded := Usb.Ends.of_ok concludes reached
    obtain ⟨rfl, same, -⟩ := concluded
    obtain ⟨handle, found, owned⟩ := has
    have stored : (storing target (.handle (.ofRaw library answered.1.out))
        { session with world := after }).2.resources.handle? target =
          some (.ofRaw library answered.1.out) := by
      simp [storing, answer]
    obtain rfl := Option.some.inj (found.symm.trans stored)
    obtain ⟨device, aimed, bound⟩ := binds raw owned
    -- What stood under the name before is dropped, which binds no handle to another device.
    have displaced : Called .any { session with world := after } (storing target
        (.handle (.ofRaw library answered.1.out)) { session with world := after }) :=
      storing_called _ target fun _ _ => trivial
    rw [← same] at bound
    exact ⟨device, aimed, bound.heeds displaced.heeds⟩

theorem step_bound {ids : List Address} (populated : session.world.bus.Populated ids) {step : Step}
    {target : String} (opens : step.Opens target) (ok : (session.step step).1.result.isOk)
    (has : (session.step step).2.Has target raw) :
    ∃ device, session.aim? ids step = some device ∧
      (session.step step).2.world.bus.Bound raw device := by
  cases opens with
  | device source =>
    unfold Session.step DeviceStep.perform withSlot at ok has ⊢
    unfold aim?
    dsimp only at ok has ⊢
    cases found : session.resources.device? source with
    | none =>
      rw [found] at ok
      contradiction
    | some device =>
      rw [found] at ok has
      cases names : device.owner.raw with
      | none =>
        have refused : device.openHandle session.world =
            .error (.ofKind .invalidParam) session.world :=
          Device.bind_vacant session.world (by simp [Resource.title?, names])
        dsimp only at ok
        rw [(perform_vacant refused).result] at ok
        contradiction
      | some aimed =>
        rw [Option.bind_some, names]
        exact perform_bound rfl (Device.openHandle_concludes names session.world)
          (populated.coherent.openDevice_binds aimed) ok has
  | wrapped source systemHandle =>
    unfold Session.step HandleStep.perform withSlot at ok has ⊢
    dsimp only at ok has ⊢
    cases found : session.resources.context? source with
    | none =>
      rw [found] at ok
      contradiction
    | some context =>
      rw [found] at ok has
      exact perform_bound rfl
        (Handle.wrapSystemDevice_concludes context systemHandle session.world)
        (populated.wrapSystemDevice_binds systemHandle) ok has

end Session

/-! ## Handles that are not ended -/

/-- Whether a step may end the handle under a name: it is closed, reset, released or dropped, or
taken elsewhere, or another one takes its place. -/
def Step.ends (name : String) : Step → Bool
  | .handle (.claim ..) | .handle (.unclaim ..) => false
  | step => step.replaces .handle name

def Act.ends (name : String) : Act → Bool
  | .step made => made.ends name
  | .giveBack _ | .returnReference _ | .choose _ => false

namespace Session

variable {ledger : Ledger} {name target : String}

theorem Has.bypasses {after : Session} (has : session.Has name raw)
    (same : after.resources.find? .handle name = session.resources.find? .handle name) :
    after.Has name raw := by
  obtain ⟨handle, found, owned⟩ := has
  have standing := same.trans (Resources.handle?_eq_some found)
  exact ⟨handle, Resources.handle?_of_find? standing, owned⟩

/-- A call on the claims of a handle leaves it its native handle. -/
theorem Has.onClaims {operation : Handle → Usb Handle} (has : session.Has name raw)
    (ends : ∀ handle, session.resources.handle? target = some handle →
      (operation handle).Ends session.world (fun value _ => value.owner = handle.owner)
        fun _ _ => True) :
    (session.withSlot (session.resources.handle? target) fun handle =>
      HandleStep.onClaims session target handle (operation handle)).2.Has name raw := by
  unfold withSlot HandleStep.onClaims
  cases found : session.resources.handle? target with
  | none => exact has
  | some handle =>
    dsimp only
    cases reached : operation handle session.world with
    | error error after => exact has
    | ok value after =>
      by_cases same : name = target
      · subst same
        obtain ⟨former, standing, owned⟩ := has
        obtain rfl := Option.some.inj (found.symm.trans standing)
        have owner : value.owner = handle.owner := (ends handle found).of_ok reached
        exact ⟨value, Resources.handle?_put, owner ▸ owned⟩
      · have apart : (ResourceKind.handle, name) ≠ (.handle, target) :=
          fun both => same (Prod.mk.inj both).2
        exact has.bypasses (update_bypasses apart)

theorem Has.step {step : Step} (kept : Kept terms session ledger) (has : session.Has name raw)
    (lasts : step.ends name = false) : (session.step step).2.Has name raw := by
  have spared (same : step.ends name = step.replaces .handle name) :
      (session.step step).2.Has name raw :=
    has.bypasses (session.step_bypasses (same.symm.trans lasts))
  cases step with
  | handle step =>
    cases step with
    | claim target interface =>
      refine has.onClaims fun handle found => ?_
      have isOpen := kept.isOpen (Resources.handle?_eq_some found)
      refine (Handle.claimInterface_ends isOpen interface).imp ?_ fun _ _ _ => trivial
      intro value after ends
      cases ends <;> rfl
    | unclaim target interface =>
      refine has.onClaims fun handle found => ?_
      have isOpen := kept.isOpen (Resources.handle?_eq_some found)
      refine (Handle.releaseInterface_ends isOpen interface).imp ?_ fun _ _ _ => trivial
      intro value after ends
      cases ends <;> rfl
    | empty | adopt | wrap | look | isClaimed | setConfiguration | configuration
    | configurationOrDefault | autoDetach | device | reset | close | release => exact spared rfl
  | control | context | list | device | descriptor | native | drop | move | inspect =>
    exact spared rfl

end Session

/-! ## Runs -/

namespace Client

theorem run_has {client : Client} {name : String} (kept : client.Kept terms)
    (has : client.session.Has name raw) (acts : List Act) (permitted : client.Permitted terms acts)
    (lasts : ∀ act ∈ acts, act.ends name = false) : (client.run acts).session.Has name raw := by
  induction acts generalizing client with
  | nil => exact has
  | cons act rest ih =>
    obtain ⟨first, others⟩ := List.forall_mem_cons.mp lasts
    refine ih (act_leads kept act permitted.1).2 ?_ permitted.2 others
    cases act with
    | step step => exact Session.Has.step kept has first
    | giveBack title | returnReference device | choose library => exact has

/-- A handle that a step opened keeps its device: the one that the device value names, or for a
wrapped handle the first attached one to which somebody holds a reference. Whatever happens later,
the handle is there until it is ended, and whoever has it then has the device. -/
theorem run_keeps_device (earlier : List Act) (permitted : fresh.Permitted .free earlier)
    (step : Step) (target : String) (opens : step.Opens target)
    (ok : ((fresh.run earlier).session.step step).1.result.isOk) (raw : Address)
    (has : ((fresh.run earlier).act (.step step)).session.Has target raw) :
    let opened := (fresh.run earlier).act (.step step)
    ∃ device, (fresh.run earlier).session.aim? (fresh.attached earlier) step = some device ∧
      ∀ later, opened.Permitted .free later →
        ((∀ act ∈ later, act.ends target = false) → (opened.run later).session.Has target raw) ∧
        ∀ handle, .handle handle ∈ (opened.run later).session.owners →
          handle.owner.raw = some raw → handle.Keeps device (opened.run later).session := by
  intro opened
  have kept := (run_leads (fresh_kept rfl) earlier permitted).2
  have keptOpened := (act_leads kept (.step step) (permits_opens opens)).2
  have populated := run_populated fresh_populated earlier
  rw [List.nil_append] at populated
  obtain ⟨device, aimed, bound⟩ := Session.step_bound populated opens ok has
  refine ⟨device, aimed, fun later permittedLater => ⟨?_, ?_⟩⟩
  · exact run_has keptOpened has later permittedLater
  · intro handle alive owned
    have keptLater := (run_leads keptOpened later permittedLater).2
    exact keptLater.keeps alive owned (bound.heeds (opened.run_heeds later))

/-- Two devices, to the first of which nobody holds a reference any more. -/
def wrappingRun : List Act :=
  [.step (.control (.attach {})), .step (.control (.attach {})),
    .step (.context (.start "context" .session)), .returnReference 4096]

def wrappedClient : Client :=
  (fresh.run wrappingRun).act (.step (.handle (.wrap "handle" "context" 7)))

/-- Everybody but the handle gives the second device up. -/
def lastOwnerRun : List Act :=
  [.step (.handle (.device "handle" "device")), .returnReference 4112,
    .step (.drop .context "context"), .step (.handle (.claim "handle" 0)),
    .step (.drop .device "device")]

theorem run_keeps_device_alone :
    let client := wrappedClient.run lastOwnerRun
    let handle : Handle := { library := {}, owner := ⟨some 4144⟩, claimed := [0] }
    fresh.Permitted .free wrappingRun ∧ wrappedClient.Permitted .free lastOwnerRun ∧
      wrappedClient.session.Has "handle" 4144 ∧ client.session.Has "handle" 4144 ∧
      .handle handle ∈ client.session.owners ∧ client.session.world.bus.references 4112 = 1 ∧
      handle.Keeps 4112 client.session := by
  intro client handle
  have permitted : fresh.Permitted .free wrappingRun := by decide
  have permittedLater : wrappedClient.Permitted .free lastOwnerRun := by decide
  have has : wrappedClient.session.Has "handle" 4144 :=
    ⟨{ library := {}, owner := ⟨some 4144⟩ }, rfl, rfl⟩
  have alive : .handle handle ∈ client.session.owners :=
    @Resources.mem_of_find? _ .handle "handle" _ rfl
  obtain ⟨device, aimed, keeps⟩ := run_keeps_device wrappingRun permitted
    (.handle (.wrap "handle" "context" 7)) "handle" (.wrapped "context" 7) rfl 4144 has
  have second : (fresh.run wrappingRun).session.aim? (fresh.attached wrappingRun)
      (.handle (.wrap "handle" "context" 7)) = some 4112 := by decide
  obtain rfl := Option.some.inj (aimed.symm.trans second)
  obtain ⟨lasting, kept⟩ := keeps lastOwnerRun permittedLater
  exact ⟨permitted, permittedLater, has, lasting (by decide), alive, by decide,
    kept handle alive rfl⟩

end Client

end UsbHost
