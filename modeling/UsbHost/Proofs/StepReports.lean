import UsbHost.Proofs.Reporting

/-!
# Reports of single steps

Every step of a session ends in one of the few ways of `Session.Reported`, on any session whatever.
-/

set_option autoImplicit false

namespace UsbHost

open Session (Reported Calm calm_ok calm_unchanged withSlot_calm withSlot_reported
  perform_reported governor_requested governor_tornDown not_lacks not_strays)

variable {α : Type} {session : Session} {governor : Governor} {name : String}

/-! ## Storing and ending resources -/

/-- What stood under the name is dropped; if that is a handle, somebody answers for its releases. -/
theorem Session.store_told (world : World) (name : String) (resource : Resource)
    (torn : resource.kind = .handle → ∀ handle, session.resources.handle? name = some handle →
      governor .releaseInterface = some handle.cleanup) :
    world.Told governor ({ session with world }.store name resource).world := by
  unfold store
  dsimp only
  split
  · next old found =>
    refine old.drop_told world fun handle same => ?_
    have kind : resource.kind = .handle := by
      rw [← Resources.find?_kind found, same]
      rfl
    rw [kind, same] at found
    exact torn kind handle (Resources.handle?_of_find? found)
  · exact .refl governor world

theorem Session.storing_told (world : World) (name : String) (resource : Resource)
    (kind : resource.kind ≠ .handle) :
    world.Told governor (storing name resource { session with world }).2.world :=
  session.store_told world name resource fun same => absurd same kind

theorem Device.ofRaw_told (library : Library) (raw : Address) (world : World) :
    world.Told governor (Device.ofRaw library raw world).2 :=
  takeReference_told raw world

theorem Device.clone_told (device : Device) (world : World) :
    world.Told governor (device.clone world).2 :=
  takeReference_told device.raw world

theorem Device.reset_told (device : Device) (raw : Address) (world : World) :
    world.Told governor (device.reset raw world).2 :=
  (takeReference_told raw world).trans (device.drop_told _)

/-! ## Steps from outside -/

theorem World.told_bus (governor : Governor) (world : World) {bus : Bus}
    (journal : bus.journal = world.bus.journal) :
    world.Told governor { world with bus } :=
  ⟨[],
    { journal := by simp [journal]
      answered := by simp
      log := ⟨[], by simp, rfl⟩ }⟩

theorem Bus.attachMany_journal (bus : Bus) (info : DeviceInfo) (count : Nat) :
    (bus.attachMany info count).2.journal = bus.journal := by
  induction count generalizing bus with
  | zero => rfl
  | succ count ih =>
    cases count with
    | zero => rfl
    | succ count => exact ih (bus.attach info).2

theorem ControlStep.reported (step : ControlStep) :
    session.Reported (.control step) (step.perform session) := by
  refine Calm.reported ?_ rfl
  cases step with
  | attach info | failReleaseOf interface code | clearFailures =>
    exact calm_ok rfl (World.told_bus _ _ rfl)
  | attachMany count info =>
    exact calm_ok rfl (World.told_bus _ _ (Bus.attachMany_journal _ info count.toNat))
  | fail function code =>
    unfold perform
    dsimp only
    split
    · exact calm_ok rfl (World.told_bus _ _ rfl)
    · exact calm_ok rfl (.refl ..)
  | references device | claims handle | countCalls function | callArguments function
  | misuseCount | logCount level | logMessages level => exact calm_ok rfl (.refl ..)

/-! ## Steps on contexts and lists -/

theorem ContextStep.startInto_reported (target : String) (source : ContextSource) :
    session.Reported (.context (.start target source)) (startInto session target source) := by
  have stored (world : World) (context : Context) :
      (Session.storing target (.context context) { session with world }).1.result.isOk ∧
        world.Told (session.governor (.context (.start target source)))
          (Session.storing target (.context context) { session with world }).2.world :=
    ⟨rfl, Session.storing_told world target (.context context) (by simp [Resource.kind])⟩
  cases source with
  | defaults | policies policies | session =>
    exact perform_reported rfl rfl
      (Context.start_requests _ _ (governor_requested rfl)) (not_lacks rfl)
      fun context after => stored after context
  | settings settings =>
    unfold startInto Session.run Context.startWithSettings
    dsimp only
    cases read : Policies.ofSettings settings with
    | error invalid =>
      have noRequest : session.request? (.context (.start target (.settings settings))) = none := by
        simp [Session.request?, Session.startsWith?, read, Except.toOption]
      exact .idle (.refl ..) (fun error => by simp) (fun _ => .inl noRequest) (not_lacks rfl)
        (not_strays rfl)
    | ok policies =>
      have request : session.request? (.context (.start target (.settings settings))) =
          some (.initLibrary, ({ describe := session.library.describe, policies } : Library).governs
            "UsbContext::new" policies.call) := by
        simp [Session.request?, Session.startsWith?, read, Except.toOption]
      refine Session.requests_reported rfl request
        (Context.start_requests _ session.world (governor_requested request)) (not_lacks rfl)
        (fun context after reached => ?_) fun error after reached => ?_
      · dsimp only
        rw [reached]
        exact stored after context
      · dsimp only
        rw [reached]
        exact ⟨rfl, fun other => by simp⟩

theorem ContextStep.reported (step : ContextStep) :
    session.Reported (.context step) (step.perform session) := by
  cases step with
  | start target source => exact startInto_reported target source
  | empty target =>
    refine Calm.reported (calm_ok rfl ?_) rfl
    exact Session.storing_told session.world target (.context _) (by simp [Resource.kind])
  | adopt target raw =>
    refine Calm.reported (calm_ok rfl ?_) rfl
    exact Session.storing_told session.world target (.context _) (by simp [Resource.kind])
  | look name =>
    exact Calm.reported (withSlot_calm fun _ _ => calm_ok rfl (.refl ..)) rfl
  | reset name raw =>
    refine Calm.reported (withSlot_calm fun context _ => calm_ok rfl ?_) rfl
    exact context.drop_told session.world
  | release name =>
    exact Calm.reported (withSlot_calm fun _ _ => calm_ok rfl (.refl ..)) rfl

theorem Device.path_told (device : Device) (world : World)
    (governed : governor .getPortNumbers =
      some (device.library.governs "UsbDevice::port_numbers" device.library.policies.call)) :
    device.path.Ends world (fun _ after => world.Told governor after)
      fun _ after => world.Told governor after := by
  cases owned : device.owner.raw with
  | some raw => exact (path_requests owned world governed).told
  | none =>
    rw [Usb.Ends, path_vacant world (by simp [Resource.title?, owned])]
    exact .refl governor world

namespace DeviceList

theorem device?_told (list : DeviceList) (index : Nat) (world : World) :
    world.Told governor (list.device? index world).2 := by
  unfold device?
  split
  · next raw _ => exact Device.ofRaw_told list.library raw world
  · exact .refl governor world

theorem devicesOf_told (library : Library) (entries : List Address) (world : World) :
    world.Told governor (devicesOf library entries world).2 := by
  induction entries generalizing world with
  | nil => exact .refl governor world
  | cons raw rest ih => exact (Device.ofRaw_told library raw world).trans (ih _)

theorem findAmong_told (library : Library) (path : String) (entries : List Address) (world : World)
    (governed : governor .getPortNumbers =
      some (library.governs "UsbDevice::port_numbers" library.policies.call)) :
    world.Told governor (findAmong library path entries world).2 := by
  induction entries generalizing world with
  | nil => exact .refl governor world
  | cons raw rest ih =>
    have made : world.Told governor (Device.ofRaw library raw world).2 :=
      Device.ofRaw_told library raw world
    have ends := (Device.ofRaw library raw world).1.path_told (Device.ofRaw library raw world).2
      governed
    unfold findAmong
    dsimp only
    split
    · next candidate after reached =>
      have read := made.trans (ends.of_ok reached)
      split
      · exact read
      · exact (read.trans (Device.drop_told _ after)).trans (ih _)
    · next error after reached =>
      exact ((made.trans (ends.of_error reached)).trans (Device.drop_told _ after)).trans (ih _)

end DeviceList

theorem ListStep.storeNumbered_told (stem : String) (devices : List Device) (session : Session) :
    session.world.Told governor (storeNumbered stem session devices).world := by
  unfold storeNumbered
  induction devices.zipIdx generalizing session with
  | nil => exact .refl ..
  | cons entry rest ih =>
    have stored : session.world.Told governor
        (session.store (stem ++ toString entry.2) (.device entry.1)).world :=
      session.store_told session.world _ _ (by simp [Resource.kind])
    exact stored.trans (ih _)

theorem ListStep.reported (step : ListStep) :
    session.Reported (.list step) (step.perform session) := by
  cases step with
  | enumerate target context =>
    refine withSlot_reported (fun missing => ?_) (fun _ => not_strays rfl) fun value found => ?_
    · simp [Session.request?, Session.receiver?, missing]
    · have request : session.request? (.list (.enumerate target context)) =
          some (.getDeviceList,
            value.library.governs "DeviceList::new" value.library.policies.call) := by
        simp [Session.request?, found]
      refine perform_reported rfl request
        (DeviceList.enumerate_requests value _ (governor_requested request)) (not_lacks rfl)
        fun list after => ?_
      exact ⟨rfl, session.storing_told after target (.list list) (by simp [Resource.kind])⟩
  | look list | get list index =>
    exact Calm.reported (withSlot_calm fun _ _ => calm_ok rfl (.refl ..)) rfl
  | entryAt list index =>
    refine Calm.reported (withSlot_calm fun value _ => ?_) rfl
    split
    · exact calm_ok rfl (.refl ..)
    · exact calm_unchanged fun error => by simp
  | index list index =>
    refine Calm.reported (withSlot_calm fun value _ => ?_) rfl
    split
    · exact calm_ok rfl (.refl ..)
    · exact calm_unchanged fun error => by simp
  | device list index target =>
    refine Calm.reported (withSlot_calm fun value _ => ?_) rfl
    have made : session.world.Told (session.governor (.list (.device list index target)))
        (value.device? index session.world).2 := value.device?_told index session.world
    unfold Session.run
    dsimp only
    split
    · next device _ =>
      refine calm_ok rfl (made.trans ?_)
      exact session.storing_told _ target (.device device) (by simp [Resource.kind])
    · exact calm_ok rfl made
  | devices list stem backwards =>
    refine Calm.reported (withSlot_calm fun value _ => calm_ok rfl ?_) rfl
    have made : session.world.Told (session.governor (.list (.devices list stem backwards)))
        (value.devices backwards session.world).2 := DeviceList.devicesOf_told ..
    exact made.trans (storeNumbered_told stem _ { session with world := _ })
  | find list path target =>
    refine Calm.reported (withSlot_calm fun value found => ?_) rfl
    have request : session.request? (.list (.find list path target)) =
        some (.getPortNumbers,
          value.library.governs "UsbDevice::port_numbers" value.library.policies.call) := by
      simp [Session.request?, found]
    have searched := DeviceList.findAmong_told value.library path value.entries session.world
      (governor_requested request)
    unfold Session.run DeviceList.findByPath
    dsimp only
    split
    · next device _ =>
      refine calm_ok rfl (searched.trans ?_)
      exact session.storing_told _ target (.device device) (by simp [Resource.kind])
    · exact calm_ok rfl searched

/-! ## Steps on devices -/

theorem Device.descriptorOrDefault_told (device : Device) (world : World)
    (governed : governor .getDeviceDescriptor =
      some (device.library.governs "UsbDevice::device_descriptor"
        device.library.policies.query.quiet)) :
    world.Told governor (device.descriptorOrDefault world).2 := by
  unfold descriptorOrDefault
  cases owned : device.owner.raw with
  | none =>
    have refused : device.descriptorWith device.library.policies.query.quiet world =
        .error (.ofKind .invalidParam) world :=
      bind_vacant world (by simp [Resource.title?, owned])
    rw [refused]
    exact .refl governor world
  | some raw =>
    have ends := (descriptorWith_requests owned device.library.policies.query.quiet world
      governed).told
    split
    · next descriptor after reached => exact ends.of_ok reached
    · next error after reached => exact ends.of_error reached

/-- A step on a device that makes one call with the raw device. -/
theorem DeviceStep.receiver_reported {step : DeviceStep} {operation : Device → Usb α}
    {next : α → Session → Session.Ended} {function : NativeFunction}
    {governance : Device → Governance} (result : (Step.device step).returnsResult)
    (request : session.request? (.device step) =
      (session.resources.device? name).map fun device => (function, governance device))
    (receiver : session.receiver? (.device step) =
      (session.resources.device? name).map .device)
    (vacant : ∀ device, (Resource.device device).title? = none →
      operation device session.world = .error (.ofKind .invalidParam) session.world)
    (requests : ∀ device raw, device.owner.raw = some raw →
      session.governor (.device step) function = some (governance device) →
      (operation device).Requests session.world (session.governor (.device step)) function
        (governance device))
    (answers : ∀ value after, (next value { session with world := after }).1.result.isOk ∧
      after.Told (session.governor (.device step))
        (next value { session with world := after }).2.world) :
    session.Reported (.device step)
      (session.withSlot (session.resources.device? name) fun device =>
        session.perform (operation device) next) := by
  refine Session.receiver_reported result rfl (fun _ => rfl) request receiver vacant
    (fun device title owned governed => ?_) answers
  obtain ⟨raw, held, -⟩ := Option.map_eq_some_iff.mp owned
  exact requests device raw held governed

theorem DeviceStep.reported (step : DeviceStep) :
    session.Reported (.device step) (step.perform session) := by
  cases step with
  | empty target =>
    refine Calm.reported (calm_ok rfl ?_) rfl
    exact session.storing_told session.world target (.device _) (by simp [Resource.kind])
  | adopt target raw context =>
    have stored (library : Library) : session.world.Told
        (session.governor (.device (.adopt target raw context)))
        (session.run (Device.ofRaw library raw) fun device =>
          Session.storing target (.device device)).2.world :=
      (Device.ofRaw_told library raw session.world).trans
        (session.storing_told _ target (.device _) (by simp [Resource.kind]))
    cases context with
    | none => exact Calm.reported (calm_ok rfl (stored session.library)) rfl
    | some context =>
      exact Calm.reported (withSlot_calm fun value _ => calm_ok rfl (stored value.library)) rfl
  | look device | release device =>
    exact Calm.reported (withSlot_calm fun _ _ => calm_ok rfl (.refl ..)) rfl
  | clone device target =>
    refine Calm.reported (withSlot_calm fun value _ => calm_ok rfl ?_) rfl
    exact (value.clone_told session.world).trans
      (session.storing_told _ target (.device _) (by simp [Resource.kind]))
  | reset device raw =>
    refine Calm.reported (withSlot_calm fun value _ => calm_ok rfl ?_) rfl
    exact value.reset_told raw session.world
  | openHandle device target =>
    refine receiver_reported rfl rfl rfl (fun _ empty => Device.bind_vacant _ empty)
      (fun _ _ owned => Device.openHandle_requests owned _) fun handle after => ⟨rfl, ?_⟩
    exact session.store_told after target (.handle handle) fun _ old found =>
      governor_tornDown found
  | config device index target policy =>
    cases policy with
    | none | some policy =>
      refine receiver_reported rfl rfl rfl (fun _ empty => Device.bind_vacant _ empty)
        (fun _ _ owned => Device.configDescriptorWith_requests owned _ index _)
        fun descriptor after => ⟨rfl, ?_⟩
      exact session.storing_told after target (.descriptor descriptor) (by simp [Resource.kind])
  | descriptor device policy =>
    cases policy with
    | none | some policy =>
      exact receiver_reported rfl rfl rfl (fun _ empty => Device.bind_vacant _ empty)
        (fun _ _ owned => Device.descriptorWith_requests owned _ _)
        fun descriptor after => ⟨rfl, .refl ..⟩
  | descriptorOrDefault device =>
    refine Calm.reported (withSlot_calm fun value found => calm_ok rfl ?_) rfl
    refine value.descriptorOrDefault_told session.world (governor_requested ?_)
    simp [Session.request?, found]
  | busNumber device =>
    refine Calm.reported (withSlot_calm fun value _ => calm_ok rfl ?_) rfl
    exact value.busNumber_told session.world
  | address device =>
    refine Calm.reported (withSlot_calm fun value _ => calm_ok rfl ?_) rfl
    exact value.address_told session.world
  | ports device =>
    exact receiver_reported rfl rfl rfl (fun _ empty => Device.bind_vacant _ empty)
      (fun _ _ owned => Device.portNumbers_requests owned _) fun ports after => ⟨rfl, .refl ..⟩
  | path device =>
    exact receiver_reported rfl rfl rfl (fun _ empty => Device.path_vacant _ empty)
      (fun _ _ owned => Device.path_requests owned _) fun path after => ⟨rfl, .refl ..⟩

/-! ## Steps on handles -/

theorem Handle.configurationOrDefault_told (handle : Handle) (world : World)
    (governed : governor .getConfiguration =
      some (handle.library.governs "DeviceHandle::configuration"
        handle.library.policies.query.quiet)) :
    world.Told governor (handle.configurationOrDefault world).2 := by
  unfold configurationOrDefault
  cases owned : handle.owner.raw with
  | none =>
    have refused : handle.configurationWith handle.library.policies.query.quiet world =
        .error (.ofKind .invalidParam) world :=
      bind_vacant world (by simp [Resource.title?, owned])
    rw [refused]
    exact .refl governor world
  | some raw =>
    have ends := (configurationWith_requests owned handle.library.policies.query.quiet world
      governed).told
    split
    · next value after reached => exact ends.of_ok reached
    · next error after reached => exact ends.of_error reached

/-- A step on a handle that makes one call with the native handle. -/
theorem HandleStep.receiver_reported {step : HandleStep} {operation : Handle → Usb α}
    {next : α → Session → Session.Ended} {function : NativeFunction}
    {governance : Handle → Governance} (result : (Step.handle step).returnsResult)
    (straight : (Step.handle step).asksDevice = false)
    (needs : ∀ handle, (Step.handle step).needsRaw (.handle handle))
    (request : session.request? (.handle step) =
      (session.resources.handle? name).map fun handle => (function, governance handle))
    (receiver : session.receiver? (.handle step) =
      (session.resources.handle? name).map .handle)
    (vacant : ∀ handle, (Resource.handle handle).title? = none →
      operation handle session.world = .error (.ofKind .invalidParam) session.world)
    (requests : ∀ handle raw, handle.owner.raw = some raw →
      session.governor (.handle step) function = some (governance handle) →
      (operation handle).Requests session.world (session.governor (.handle step)) function
        (governance handle))
    (answers : ∀ value after, (next value { session with world := after }).1.result.isOk ∧
      after.Told (session.governor (.handle step))
        (next value { session with world := after }).2.world) :
    session.Reported (.handle step)
      (session.withSlot (session.resources.handle? name) fun handle =>
        session.perform (operation handle) next) := by
  refine Session.receiver_reported result straight needs request receiver vacant
    (fun handle title owned governed => ?_) answers
  obtain ⟨raw, held, -⟩ := Option.map_eq_some_iff.mp owned
  exact requests handle raw held governed

/-- A step on the claims of a handle: either there is nothing to do, or the bus is asked. -/
theorem HandleStep.onClaims_reported {step : HandleStep} {operation : Handle → Usb Handle}
    {function : NativeFunction} {governance : Handle → Governance}
    (idle : Handle → Prop) (result : (Step.handle step).returnsResult)
    (straight : (Step.handle step).asksDevice = false)
    (needs : ∀ handle, (Step.handle step).needsRaw (.handle handle) ↔ ¬ idle handle)
    (request : session.request? (.handle step) =
      (session.resources.handle? name).map fun handle => (function, governance handle))
    (receiver : session.receiver? (.handle step) =
      (session.resources.handle? name).map .handle)
    (rests : ∀ handle, idle handle → operation handle session.world = .ok handle session.world)
    (vacant : ∀ handle, ¬ idle handle → (Resource.handle handle).title? = none →
      operation handle session.world = .error (.ofKind .invalidParam) session.world)
    (requests : ∀ handle raw, ¬ idle handle → handle.owner.raw = some raw →
      session.governor (.handle step) function = some (governance handle) →
      (operation handle).Requests session.world (session.governor (.handle step)) function
        (governance handle)) :
    session.Reported (.handle step)
      (session.withSlot (session.resources.handle? name) fun handle =>
        onClaims session name handle (operation handle)) := by
  have elsewhere : ¬ session.Strays (.handle step) := not_strays straight
  refine withSlot_reported (fun missing => ?_) (fun _ => elsewhere) fun handle found => ?_
  · rw [request, receiver, missing]
    exact ⟨rfl, rfl⟩
  · rw [found] at request receiver
    unfold onClaims
    by_cases rest : idle handle
    · have lacks : ¬ session.Lacks (.handle step) := by
        rintro ⟨resource, received, -, needed⟩
        obtain rfl := Option.some.inj (receiver.symm.trans received)
        exact (needs handle).mp needed rest
      rw [rests handle rest]
      exact .idle (.refl ..) (Outcome.not_raises rfl) (fun _ => .inr rfl) lacks elsewhere
    · cases owned : handle.owner.raw with
      | none =>
        have empty : (Resource.handle handle).title? = none := by simp [Resource.title?, owned]
        rw [vacant handle rest empty]
        exact .lacking ⟨_, receiver, empty, (needs handle).mpr rest⟩ ⟨rfl, rfl⟩
      | some raw =>
        have title : (Resource.handle handle).title? = some (.handle raw) := by
          simp [Resource.title?, owned]
        refine Session.requests_reported result request
          (requests handle raw rest owned (governor_requested request))
          (Session.not_lacks_of_title receiver title) (fun value after reached => ?_)
          fun error after reached => ?_
        · rw [reached]
          exact ⟨rfl, .refl ..⟩
        · rw [reached]
          exact ⟨rfl, fun other => by simp [Outcome.Raises]⟩

theorem Handle.device_told (governor : Governor) {handle : Handle} {raw : Address}
    (owned : handle.owner.raw = some raw) (world : World) :
    handle.device.Ends world
      (fun _ after => (world.bus.getDevice raw).1 ≠ 0 ∧ world.Told governor after)
      (fun error after => (world.bus.getDevice raw).1 = 0 ∧ world.Told governor after ∧
        error = .ofKind .noDevice) := by
  have asked := (Bus.getDevice_uncoded raw).told governor world
  unfold device
  rw [requireRaw_bind owned]
  simp only [Usb.ends_bind, Usb.ends_lift, World.ask, NativeApi.getDevice]
  by_cases null : (world.bus.getDevice raw).1 = 0
  · rw [if_pos null]
    exact ⟨null, asked, rfl⟩
  · rw [if_neg null]
    exact ⟨null, asked.trans (Device.ofRaw_told handle.library _ _)⟩

theorem HandleStep.device_reported (handle : Handle) (target : String)
    (found : session.resources.handle? name = some handle) :
    session.Reported (.handle (.device name target))
      (session.perform handle.device fun device => Session.storing target (.device device)) := by
  have receiver : session.receiver? (.handle (.device name target)) = some (.handle handle) := by
    simp [Session.receiver?, found]
  cases owned : handle.owner.raw with
  | none =>
    have empty : (Resource.handle handle).title? = none := by simp [Resource.title?, owned]
    exact .lacking ⟨_, receiver, empty, rfl⟩ (Session.perform_vacant (Handle.bind_vacant _ empty))
  | some raw =>
    have ends := Handle.device_told (session.governor (.handle (.device name target))) owned
      session.world
    unfold Session.perform
    cases reached : handle.device session.world with
    | ok device after =>
      obtain ⟨nonNull, told⟩ := ends.of_ok reached
      have stored := told.trans
        (session.storing_told after target (.device device) (by simp [Resource.kind]))
      have calm : session.Calm (.handle (.device name target)) _ := calm_ok rfl stored
      have title : (Resource.handle handle).title? = some (.handle raw) := by
        simp [Resource.title?, owned]
      refine .idle calm.told calm.raises (fun _ => .inl rfl)
        (Session.not_lacks_of_title receiver title) ?_
      · rintro ⟨_, _, other, _, same, foundOther, ownedOther, null⟩
        obtain ⟨rfl, rfl⟩ := HandleStep.device.inj (Step.handle.inj same)
        obtain rfl := Option.some.inj (found.symm.trans foundOther)
        obtain rfl := Option.some.inj (owned.symm.trans ownedOther)
        exact nonNull null
    | error error after =>
      obtain ⟨null, told, rfl⟩ := ends.of_error reached
      exact .straying ⟨name, target, handle, raw, rfl, found, owned, null⟩ told rfl

theorem HandleStep.reported (step : HandleStep) :
    session.Reported (.handle step) (step.perform session) := by
  cases step with
  | empty target =>
    refine Calm.reported (calm_ok rfl ?_) rfl
    exact session.store_told session.world target (.handle _) fun _ old found =>
      governor_tornDown found
  | adopt target raw =>
    refine Calm.reported (calm_ok rfl ?_) rfl
    exact session.store_told session.world target (.handle _) fun _ old found =>
      governor_tornDown found
  | wrap target context systemHandle =>
    refine withSlot_reported (fun missing => ?_) (fun _ => not_strays rfl) fun value found => ?_
    · simp [Session.request?, Session.receiver?, missing]
    · have request : session.request? (.handle (.wrap target context systemHandle)) =
          some (.wrapSystemDevice,
            value.library.governs "DeviceHandle::wrap_sys_device" value.library.policies.call) := by
        simp [Session.request?, found]
      refine perform_reported rfl request
        (Handle.wrapSystemDevice_requests value systemHandle _ (governor_requested request))
        (not_lacks rfl)
        fun handle after => ⟨rfl, ?_⟩
      exact session.store_told after target (.handle handle) fun _ old found =>
        governor_tornDown found
  | look handle | isClaimed handle interface | release handle =>
    exact Calm.reported (withSlot_calm fun _ _ => calm_ok rfl (.refl ..)) rfl
  | claim handle interface =>
    refine onClaims_reported (fun handle => interface ∈ handle.claimed) rfl rfl
      (fun _ => decide_eq_true_iff) rfl rfl (fun value held => ?_)
      (fun value fresh empty => ?_) fun value raw fresh owned => ?_
    · rw [Handle.claimInterface, if_pos (Handle.isClaimed_iff.mpr held)]
      rfl
    · rw [Handle.claimInterface, if_neg (mt Handle.isClaimed_iff.mp fresh)]
      exact Handle.bind_vacant _ empty
    · exact Handle.claimInterface_requests owned fresh _
  | unclaim handle interface =>
    refine onClaims_reported (fun handle => interface ∉ handle.claimed) rfl rfl
      (fun _ => decide_eq_true_iff.trans not_not.symm) rfl rfl (fun value released => ?_)
      (fun value held empty => ?_) fun value raw held owned => ?_
    · have idle : !value.isClaimed interface := by simpa using mt Handle.isClaimed_iff.mp released
      rw [Handle.releaseInterface, if_pos idle]
      rfl
    · have asked : ¬ !value.isClaimed interface := by
        simpa using Handle.isClaimed_iff.mpr (not_not.mp held)
      rw [Handle.releaseInterface, if_neg asked]
      exact Handle.bind_vacant _ empty
    · exact Handle.releaseInterface_requests owned (not_not.mp held) _
  | setConfiguration handle value =>
    exact receiver_reported rfl rfl (fun _ => rfl) rfl rfl
      (fun _ empty => Handle.bind_vacant _ empty)
      (fun _ _ owned => Handle.setConfiguration_requests owned value _)
      fun done after => ⟨rfl, .refl ..⟩
  | configuration handle policy =>
    cases policy with
    | none | some policy =>
      exact receiver_reported rfl rfl (fun _ => rfl) rfl rfl
        (fun _ empty => Handle.bind_vacant _ empty)
        (fun _ _ owned => Handle.configurationWith_requests owned _ _)
        fun value after => ⟨rfl, .refl ..⟩
  | configurationOrDefault handle =>
    refine Calm.reported (withSlot_calm fun value found => calm_ok rfl ?_) rfl
    refine value.configurationOrDefault_told session.world (governor_requested ?_)
    simp [Session.request?, found]
  | autoDetach handle enable policy =>
    cases policy with
    | none | some policy =>
      exact receiver_reported rfl rfl (fun _ => rfl) rfl rfl
        (fun _ empty => Handle.bind_vacant _ empty)
        (fun _ _ owned => Handle.setAutoDetachWith_requests owned _ enable _)
        fun done after => ⟨rfl, .refl ..⟩
  | device handle target =>
    refine withSlot_reported (fun missing => ?_) (fun missing => ?_) fun value found => ?_
    · simp [Session.request?, Session.receiver?, missing]
    · rintro ⟨_, _, other, _, same, found, -⟩
      obtain ⟨rfl, rfl⟩ := HandleStep.device.inj (Step.handle.inj same)
      rw [missing] at found
      contradiction
    · exact device_reported value target found
  | reset handle raw =>
    refine Calm.reported (withSlot_calm fun value found => calm_ok rfl ?_) rfl
    exact value.reset_told raw session.world (governor_tornDown found)
  | close handle =>
    refine Calm.reported (withSlot_calm fun value found => calm_ok rfl ?_) rfl
    exact value.reset_told 0 session.world (governor_tornDown found)

/-! ## All steps -/

theorem DescriptorStep.reported (step : DescriptorStep) :
    session.Reported (.descriptor step) (step.perform session) := by
  have stored (target : String) (descriptor : ConfigDescriptor) (governor : Governor) :
      session.world.Told governor (session.store target (.descriptor descriptor)).world :=
    session.store_told session.world target _ (by simp [Resource.kind])
  refine Calm.reported ?_ rfl
  cases step with
  | empty target => exact calm_ok rfl (stored target _ _)
  | look descriptor => exact withSlot_calm fun _ _ => calm_ok rfl (.refl ..)
  | clear descriptor =>
    refine withSlot_calm fun value _ => calm_ok rfl ?_
    exact value.drop_told session.world
  | release descriptor held =>
    refine withSlot_calm fun value _ => ?_
    dsimp only
    split
    · exact calm_ok rfl (.refl ..)
    · exact calm_ok rfl (.refl ..)
  | adopt target held =>
    cases held with
    | none => exact calm_ok rfl (stored target _ _)
    | some held =>
      refine withSlot_calm fun pointer _ => calm_ok rfl ?_
      exact ({ session with heldRecords := session.heldRecords.remove held } : Session).store_told
        session.world target (.descriptor _) (by simp [Resource.kind])

theorem Session.drop_reported (kind : ResourceKind) (name : String) :
    session.Reported (.drop kind name) (session.step (.drop kind name)) := by
  refine Calm.reported (withSlot_calm fun resource found => calm_ok rfl ?_) rfl
  refine resource.drop_told session.world fun handle same => ?_
  have isHandle : kind = .handle := by
    rw [← Resources.find?_kind found, same]
    rfl
  rw [isHandle, same] at found
  subst isHandle
  exact governor_tornDown (Resources.handle?_of_find? found)

theorem Session.move_reported (kind : ResourceKind) (name target : String) :
    session.Reported (.move kind name target) (session.step (.move kind name target)) := by
  refine Calm.reported (withSlot_calm fun resource found => calm_ok rfl ?_) rfl
  refine ({ session with resources := session.resources.remove kind name } : Session).store_told
    session.world target resource fun isHandle handle displaced => ?_
  obtain rfl : kind = .handle := (Resources.find?_kind found).symm.trans isHandle
  exact governor_tornDown displaced

/-- Every step that a client takes through the resources reports what it calls. -/
theorem Session.step_reported (session : Session) {step : Step} (wrapped : step.isNative = false) :
    session.Reported step (session.step step) := by
  cases step with
  | control step => exact step.reported
  | context step => exact step.reported
  | list step => exact step.reported
  | device step => exact step.reported
  | handle step => exact step.reported
  | descriptor step => exact step.reported
  | native step =>
    cases step with
    | describe code => exact Calm.reported (calm_ok rfl (.refl ..)) rfl
    | call call | enumerate context held | readConfig device index held | freeHeldArray held unref
    | freeHeldRecord held => exact absurd wrapped (by simp [Step.isNative])
  | drop kind name => exact drop_reported kind name
  | move kind name target => exact move_reported kind name target
  | inspect kind name pretty =>
    exact Calm.reported (withSlot_calm fun _ _ => calm_ok rfl (.refl ..)) rfl

end UsbHost
