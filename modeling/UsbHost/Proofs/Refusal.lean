import UsbHost.Proofs.ClientMoves

/-!
# Refusals

A step that is refused leaves everything as it was: the resources, what the client holds, and the
bus but for at most one journal entry; at most one failure is logged. A step on a device or handle
that owns nothing, and settings that cannot be read, are refused before any native call.
-/

set_option autoImplicit false

namespace UsbHost

open Session (Kept Ended)

variable {α : Type} {terms : Terms} {session : Session} {ledger : Ledger} {name : String}

namespace Session

/-- What the end of a step leaves alone if the step was refused. -/
structure Spares (session : Session) (ended : Ended) : Prop where
  refused : ∀ refusal, ended.1.result = .error refusal →
    ended.2 = { session with world := ended.2.world } ∧ session.world.Refused ended.2.world
  unread : ∀ invalid, ended.1.result = .error (.setup (.settings invalid)) → ended.2 = session

theorem spares_ok {ended : Ended} (ok : ended.1.result.isOk) : session.Spares ended where
  refused := by
    intro refusal refused
    rw [refused] at ok
    contradiction
  unread := by
    intro invalid refused
    rw [refused] at ok
    contradiction

theorem spares_unchanged {outcome : Outcome} : session.Spares (outcome, session) where
  refused := fun _ _ => ⟨rfl, .refl _⟩
  unread := fun _ _ => rfl

theorem withSlot_spares {slot : Option α} {next : α → Ended}
    (present : ∀ value, slot = some value → session.Spares (next value)) :
    session.Spares (session.withSlot slot next) := by
  unfold withSlot
  cases found : slot with
  | some value => exact present value found
  | none => exact spares_unchanged

theorem perform_spares {operation : Usb α} {next : α → Session → Ended} {ok : α → World → Prop}
    (ends : operation.Ends session.world ok (fun _ after => session.world.Refused after))
    (answers : ∀ value later, (next value later).1.result.isOk) :
    session.Spares (session.perform operation next) := by
  unfold perform
  cases reached : operation session.world with
  | ok value after => exact spares_ok (answers value _)
  | error error after =>
    exact
      { refused := fun _ _ => ⟨rfl, ends.of_error reached⟩
        unread := fun _ refused => by simp [Outcome.refused] at refused }

end Session

/-! ## Steps -/

open Session (spares_ok spares_unchanged withSlot_spares perform_spares)

theorem ControlStep.spares (step : ControlStep) : session.Spares (step.perform session) := by
  cases step with
  | fail function code =>
    unfold perform
    dsimp only
    split
    · exact spares_ok rfl
    · exact spares_ok rfl
  | attach info | attachMany count info | failReleaseOf interface code | clearFailures
  | references device | claims handle | countCalls function | callArguments function
  | misuseCount | logCount level | logMessages level => exact spares_ok rfl

theorem ContextStep.startInto_spares (target : String) (source : ContextSource) :
    session.Spares (startInto session target source) := by
  cases source with
  | defaults | policies policies | session =>
    exact perform_spares (Context.start_ends _ _) fun _ _ => rfl
  | settings settings =>
    unfold startInto Session.run Context.startWithSettings
    dsimp only
    cases read : Policies.ofSettings settings with
    | error invalid => exact spares_unchanged
    | ok policies =>
      have ends := Context.start_ends { describe := session.library.describe, policies }
        session.world
      dsimp only
      cases reached : Context.start { describe := session.library.describe, policies }
          session.world with
      | ok context after => exact spares_ok rfl
      | error error after =>
        exact
          { refused := fun _ _ => ⟨rfl, ends.of_error reached⟩
            unread := nofun }

theorem ContextStep.spares (step : ContextStep) : session.Spares (step.perform session) := by
  cases step with
  | start target source => exact startInto_spares target source
  | empty target | adopt target raw => exact spares_ok rfl
  | look context | reset context raw | release context =>
    exact withSlot_spares fun _ _ => spares_ok rfl

theorem ListStep.spares (step : ListStep) : session.Spares (step.perform session) := by
  cases step with
  | enumerate target context =>
    refine withSlot_spares fun value _ => ?_
    exact perform_spares (DeviceList.enumerate_ends value _) fun _ _ => rfl
  | look list | get list index | devices list stem backwards =>
    exact withSlot_spares fun _ _ => spares_ok rfl
  | entryAt list index =>
    refine withSlot_spares fun value _ => ?_
    split
    · exact spares_ok rfl
    · exact spares_unchanged
  | index list index =>
    refine withSlot_spares fun value _ => ?_
    split
    · exact spares_ok rfl
    · exact spares_unchanged
  | device list index target =>
    refine withSlot_spares fun value _ => ?_
    unfold Session.run
    dsimp only
    split
    · exact spares_ok rfl
    · exact spares_ok rfl
  | find list path target =>
    refine withSlot_spares fun value _ => ?_
    unfold Session.run
    dsimp only
    split
    · exact spares_ok rfl
    · exact spares_ok rfl

theorem DeviceStep.spares (kept : Kept terms session ledger) (step : DeviceStep) :
    session.Spares (step.perform session) := by
  cases step with
  | empty target => exact spares_ok rfl
  | adopt target raw context =>
    cases context with
    | none => exact spares_ok rfl
    | some context => exact withSlot_spares fun _ _ => spares_ok rfl
  | look device | clone device target | reset device raw | release device
  | descriptorOrDefault device | busNumber device | address device =>
    exact withSlot_spares fun _ _ => spares_ok rfl
  | openHandle device target =>
    refine withSlot_spares fun value found => ?_
    have attached := kept.attached (Resources.device?_eq_some found)
    exact perform_spares (Device.openHandle_ends attached) fun _ _ => rfl
  | config device index target policy =>
    refine withSlot_spares fun value found => ?_
    have attached := kept.attached (Resources.device?_eq_some found)
    cases policy with
    | none | some policy =>
      exact perform_spares (Device.configDescriptorWith_ends attached _ index) fun _ _ => rfl
  | descriptor device policy =>
    refine withSlot_spares fun value found => ?_
    have attached := kept.attached (Resources.device?_eq_some found)
    cases policy with
    | none | some policy =>
      exact perform_spares (Device.descriptorWith_ends attached _) fun _ _ => rfl
  | ports device =>
    refine withSlot_spares fun value found => ?_
    have attached := kept.attached (Resources.device?_eq_some found)
    exact perform_spares (Device.portNumbers_ends attached) fun _ _ => rfl
  | path device =>
    refine withSlot_spares fun value found => ?_
    have attached := kept.attached (Resources.device?_eq_some found)
    exact perform_spares (Device.path_ends attached) fun _ _ => rfl

theorem HandleStep.onClaims_spares {handle : Handle} {operation : Usb Handle}
    {ok : Handle → World → Prop}
    (ends : operation.Ends session.world ok fun _ after => session.world.Refused after) :
    session.Spares (onClaims session name handle operation) := by
  unfold onClaims
  cases reached : operation session.world with
  | ok value after => exact spares_ok rfl
  | error error after =>
    exact
      { refused := fun _ _ => ⟨rfl, ends.of_error reached⟩
        unread := nofun }

theorem HandleStep.spares (kept : Kept terms session ledger) (step : HandleStep) :
    session.Spares (step.perform session) := by
  cases step with
  | empty target | adopt target raw => exact spares_ok rfl
  | wrap target context systemHandle =>
    refine withSlot_spares fun value _ => ?_
    exact perform_spares (Handle.wrapSystemDevice_ends value systemHandle _) fun _ _ => rfl
  | look handle | isClaimed handle interface | configurationOrDefault handle | reset handle raw
  | close handle | release handle => exact withSlot_spares fun _ _ => spares_ok rfl
  | claim handle interface =>
    refine withSlot_spares fun value found => ?_
    have isOpen := kept.isOpen (Resources.handle?_eq_some found)
    exact onClaims_spares (Handle.claimInterface_ends isOpen interface)
  | unclaim handle interface =>
    refine withSlot_spares fun value found => ?_
    have isOpen := kept.isOpen (Resources.handle?_eq_some found)
    exact onClaims_spares (Handle.releaseInterface_ends isOpen interface)
  | setConfiguration handle value =>
    refine withSlot_spares fun owner found => ?_
    have isOpen := kept.isOpen (Resources.handle?_eq_some found)
    exact perform_spares (Handle.setConfiguration_ends isOpen value) fun _ _ => rfl
  | configuration handle policy =>
    refine withSlot_spares fun value found => ?_
    have isOpen := kept.isOpen (Resources.handle?_eq_some found)
    cases policy with
    | none | some policy =>
      exact perform_spares (Handle.configurationWith_ends isOpen _) fun _ _ => rfl
  | autoDetach handle enable policy =>
    refine withSlot_spares fun value found => ?_
    have isOpen := kept.isOpen (Resources.handle?_eq_some found)
    cases policy with
    | none | some policy =>
      exact perform_spares (Handle.setAutoDetachWith_ends isOpen _ enable) fun _ _ => rfl
  | device handle target =>
    refine withSlot_spares fun value found => ?_
    have seated := kept.seated (Resources.handle?_eq_some found)
    exact perform_spares (Handle.device_ends seated) fun _ _ => rfl

theorem DescriptorStep.spares (step : DescriptorStep) : session.Spares (step.perform session) := by
  cases step with
  | empty target => exact spares_ok rfl
  | look descriptor | clear descriptor => exact withSlot_spares fun _ _ => spares_ok rfl
  | release descriptor held =>
    refine withSlot_spares fun value _ => ?_
    dsimp only
    split
    · exact spares_ok rfl
    · exact spares_ok rfl
  | adopt target held =>
    cases held with
    | none => exact spares_ok rfl
    | some held => exact withSlot_spares fun _ _ => spares_ok rfl

theorem NativeStep.spares (step : NativeStep) : session.Spares (step.perform session) := by
  cases step with
  | describe code | call call | enumerate context held | readConfig device index held =>
    exact spares_ok rfl
  | freeHeldArray held unref | freeHeldRecord held =>
    exact withSlot_spares fun _ _ => spares_ok rfl

theorem Session.step_spares (kept : Kept terms session ledger) (step : Step) :
    session.Spares (session.step step) := by
  cases step with
  | control step => exact step.spares
  | context step => exact step.spares
  | list step => exact step.spares
  | device step => exact step.spares kept
  | handle step => exact step.spares kept
  | descriptor step => exact step.spares
  | native step => exact step.spares
  | drop kind name | move kind name target | inspect kind name pretty =>
    exact withSlot_spares fun _ _ => spares_ok rfl

/-! ## Empty receivers -/

/-- The device or handle that a fallible step is performed on. -/
def Session.receiver? (session : Session) : Step → Option Resource
  | .device (.openHandle name _) | .device (.config name ..) | .device (.descriptor name _)
  | .device (.ports name) | .device (.path name) =>
    (session.resources.device? name).map .device
  | .handle (.claim name _) | .handle (.unclaim name _) | .handle (.setConfiguration name _)
  | .handle (.configuration name _) | .handle (.autoDetach name ..) | .handle (.device name _) =>
    (session.resources.handle? name).map .handle
  | _ => none

/-- A step was refused for want of a raw device or handle, before anything happened. -/
structure Session.Vacant (session : Session) (ended : Ended) : Prop where
  result : ended.1.result = .error (.usb (.ofKind .invalidParam))
  unchanged : ended.2 = session

theorem Session.perform_vacant {operation : Usb α} {next : α → Session → Ended}
    (vacant : operation session.world = .error (.ofKind .invalidParam) session.world) :
    session.Vacant (session.perform operation next) := by
  rw [perform, vacant]
  exact ⟨rfl, rfl⟩

theorem Device.bind_vacant {device : Device} {next : Address → Usb α} (world : World)
    (empty : (Resource.device device).title? = none) :
    (device.requireRaw >>= next) world = .error (.ofKind .invalidParam) world := by
  unfold requireRaw
  rw [Option.map_eq_none_iff.mp empty]
  rfl

theorem Device.path_vacant {device : Device} (world : World)
    (empty : (Resource.device device).title? = none) :
    device.path world = .error (.ofKind .invalidParam) world := by
  have ports : device.portNumbers world = .error (.ofKind .invalidParam) world :=
    bind_vacant world empty
  simp only [path, bind, EStateM.bind, ports]

theorem Handle.bind_vacant {handle : Handle} {next : Address → Usb α} (world : World)
    (empty : (Resource.handle handle).title? = none) :
    (handle.requireRaw >>= next) world = .error (.ofKind .invalidParam) world := by
  unfold requireRaw
  rw [Option.map_eq_none_iff.mp empty]
  rfl

theorem DeviceStep.vacant {step : DeviceStep} {resource : Resource}
    (receiver : session.receiver? (.device step) = some resource)
    (empty : resource.title? = none) : session.Vacant (step.perform session) := by
  cases step with
  | empty target | adopt target raw context | look device | clone device target
  | reset device raw | release device | descriptorOrDefault device | busNumber device
  | address device => contradiction
  | openHandle device target =>
    obtain ⟨value, found, rfl⟩ := Option.map_eq_some_iff.mp receiver
    rw [perform, found]
    exact Session.perform_vacant (Device.bind_vacant _ empty)
  | config device index target policy =>
    obtain ⟨value, found, rfl⟩ := Option.map_eq_some_iff.mp receiver
    rw [perform, found]
    cases policy with
    | none | some policy => exact Session.perform_vacant (Device.bind_vacant _ empty)
  | descriptor device policy =>
    obtain ⟨value, found, rfl⟩ := Option.map_eq_some_iff.mp receiver
    rw [perform, found]
    cases policy with
    | none | some policy => exact Session.perform_vacant (Device.bind_vacant _ empty)
  | ports device =>
    obtain ⟨value, found, rfl⟩ := Option.map_eq_some_iff.mp receiver
    rw [perform, found]
    exact Session.perform_vacant (Device.bind_vacant _ empty)
  | path device =>
    obtain ⟨value, found, rfl⟩ := Option.map_eq_some_iff.mp receiver
    rw [perform, found]
    exact Session.perform_vacant (Device.path_vacant _ empty)

/-- An empty handle has nothing claimed, so a release through it is not refused. -/
theorem HandleStep.vacant {step : HandleStep} {resource : Resource} {refusal : Refusal}
    (receiver : session.receiver? (.handle step) = some resource)
    (empty : resource.title? = none) (unclaimed : resource.claimed = [])
    (refused : (step.perform session).1.result = .error refusal) :
    session.Vacant (step.perform session) := by
  cases step with
  | empty target | adopt target raw | wrap target context systemHandle | look handle
  | isClaimed handle interface | configurationOrDefault handle | reset handle raw | close handle
  | release handle => contradiction
  | claim handle interface =>
    obtain ⟨value, found, rfl⟩ := Option.map_eq_some_iff.mp receiver
    have nothing : value.claimed = [] := unclaimed
    have vacant : value.claimInterface interface session.world =
        .error (.ofKind .invalidParam) session.world := by
      rw [Handle.claimInterface, Handle.isClaimed, nothing]
      exact Handle.bind_vacant _ empty
    rw [perform, found]
    dsimp only [Session.withSlot, onClaims]
    rw [vacant]
    exact ⟨rfl, rfl⟩
  | unclaim handle interface =>
    obtain ⟨value, found, rfl⟩ := Option.map_eq_some_iff.mp receiver
    have nothing : value.claimed = [] := unclaimed
    have idle : value.releaseInterface interface session.world = .ok value session.world := by
      rw [Handle.releaseInterface, Handle.isClaimed, nothing]
      rfl
    rw [perform, found] at refused
    dsimp only [Session.withSlot, onClaims] at refused
    rw [idle] at refused
    contradiction
  | setConfiguration handle value =>
    obtain ⟨owner, found, rfl⟩ := Option.map_eq_some_iff.mp receiver
    rw [perform, found]
    exact Session.perform_vacant (Handle.bind_vacant _ empty)
  | configuration handle policy =>
    obtain ⟨value, found, rfl⟩ := Option.map_eq_some_iff.mp receiver
    rw [perform, found]
    cases policy with
    | none | some policy => exact Session.perform_vacant (Handle.bind_vacant _ empty)
  | autoDetach handle enable policy =>
    obtain ⟨value, found, rfl⟩ := Option.map_eq_some_iff.mp receiver
    rw [perform, found]
    cases policy with
    | none | some policy => exact Session.perform_vacant (Handle.bind_vacant _ empty)
  | device handle target =>
    obtain ⟨value, found, rfl⟩ := Option.map_eq_some_iff.mp receiver
    rw [perform, found]
    exact Session.perform_vacant (Handle.bind_vacant _ empty)

theorem Session.receiver?_member {step : Step} {resource : Resource}
    (receiver : session.receiver? step = some resource) : resource ∈ session.owners := by
  unfold receiver? at receiver
  split at receiver
  all_goals
    first
    | contradiction
    | obtain ⟨value, found, rfl⟩ := Option.map_eq_some_iff.mp receiver
      first
      | exact Resources.mem_of_find? (Resources.device?_eq_some found)
      | exact Resources.mem_of_find? (Resources.handle?_eq_some found)

theorem Session.step_vacant (kept : Kept terms session ledger) {step : Step} {resource : Resource}
    {refusal : Refusal} (receiver : session.receiver? step = some resource)
    (empty : resource.title? = none) (refused : (session.step step).1.result = .error refusal) :
    session.Vacant (session.step step) := by
  have unclaimed : resource.claimed = [] :=
    kept.sound.unclaimed resource (receiver?_member receiver) empty
  cases step with
  | device step => exact DeviceStep.vacant receiver empty
  | handle step => exact HandleStep.vacant receiver empty unclaimed refused
  | control step | context step | list step | descriptor step | native step | drop kind name
  | move kind name target | inspect kind name pretty => contradiction

/-! ## Runs -/

/-- What a refused step leaves alone: everything but the journal and the log, which are longer by
one native call at most. Without a raw device or handle, and with settings that cannot be read,
no call was made. -/
structure Session.Unharmed (before : Session) (step : Step) (refusal : Refusal) (after : Session) :
    Prop where
  session : after = { before with world := after.world }
  world : before.world.Refused after.world
  receiver : ∀ resource, before.receiver? step = some resource → resource.title? = none →
    refusal = .usb (.ofKind .invalidParam) ∧ after = before
  settings : ∀ invalid, refusal = .setup (.settings invalid) → after = before

namespace Client

theorem Kept.unharmed {client : Client} (kept : client.Kept terms) {step : Step}
    {refusal : Refusal} (refused : (client.session.step step).1.result = .error refusal) :
    client.session.Unharmed step refusal (client.session.step step).2 := by
  have spares := Session.step_spares kept step
  obtain ⟨same, world⟩ := spares.refused refusal refused
  exact
    { session := same
      world
      receiver := by
        intro resource receiver empty
        have vacant := Session.step_vacant kept receiver empty refused
        rw [vacant.result] at refused
        exact ⟨(Except.error.inj refused).symm, vacant.unchanged⟩
      settings := by
        rintro invalid rfl
        exact spares.unread invalid refused }

/-- After any run that keeps to the rules, a step that is refused changes nothing. -/
theorem run_refused (acts : List Act) (permitted : fresh.Permitted .free acts) (step : Step)
    (refusal : Refusal)
    (refused : ((fresh.run acts).session.step step).1.result = .error refusal) :
    (fresh.run acts).session.Unharmed step refusal ((fresh.run acts).session.step step).2 :=
  (run_leads (fresh_kept rfl) acts permitted).2.unharmed refused

/-- A device that cannot be opened. -/
def failingRun : List Act :=
  [.step (.control (.attach {})), .step (.device (.adopt "device" 4096 none)),
    .step (.control (.fail "libusb_open" (-3)))]

theorem run_refused_failing :
    let session := (fresh.run failingRun).session
    let step : Step := .device (.openHandle "device" "handle")
    fresh.Permitted .free failingRun ∧
      ∃ refusal, (session.step step).1.result = .error refusal ∧
        session.Unharmed step refusal (session.step step).2 := by
  intro session step
  have permitted : fresh.Permitted .free failingRun := by decide
  exact ⟨permitted, _, rfl, run_refused failingRun permitted step _ rfl⟩

end Client

end UsbHost
