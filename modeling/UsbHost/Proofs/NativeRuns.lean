import Mathlib.Logic.Relation
import UsbHost.Proofs.CallRecords
import UsbHost.Proofs.Endings
import UsbHost.Proofs.Naming
import UsbHost.Session.Run

/-!
# What a session does to the bus

A session reaches the bus by native calls only. What every native call leaves alone is therefore
left alone by every operation and by every step, unless the step comes from outside and plugs a
device in or arranges a failure. The calls are followed together with the handles that they are
about, since an operation on a handle has no business with any other.
-/

set_option autoImplicit false

namespace UsbHost

/-- Which native handles may be closed or have their claims changed, and which may be
configured. -/
structure Bus.Reach where
  touched : Address → Prop
  configured : Address → Prop

/-- Any handle. -/
def Bus.Reach.any : Bus.Reach where
  touched _ := True
  configured _ := True

variable {α β : Type} {world after : World} {session : Session} {reach : Bus.Reach}

/-! ## Runs of native calls -/

/-- A call changes no handle but those that it may change. -/
def NativeCall.Within (reach : Bus.Reach) : NativeCall → Prop
  | closeHandle raw | claimInterface raw _ | releaseInterface raw _ => reach.touched raw
  | setConfiguration raw _ => reach.configured raw
  | _ => True

/-- Nothing happened to the bus but native calls within the reach, one after the other. -/
abbrev Bus.Called (reach : Bus.Reach) : Bus → Bus → Prop :=
  Relation.ReflTransGen fun before after =>
    ∃ call : NativeCall, call.Within reach ∧ after = call.after before

theorem Bus.called (call : NativeCall) (bus : Bus) (within : call.Within reach) :
    bus.Called reach (call.after bus) :=
  .single ⟨call, within, rfl⟩

namespace Usb

def Calls (reach : Bus.Reach) (operation : Usb α) : Prop :=
  ∀ world, operation.Ends world (fun _ after => world.bus.Called reach after.bus)
    fun _ after => world.bus.Called reach after.bus

theorem calls_pure (value : α) : Calls reach (pure value) := fun _ => .refl

theorem calls_throw (error : UsbError) : Calls reach (throw error : Usb α) := fun _ => .refl

theorem calls_debug (notice : Notice) : Calls reach (debug notice) := fun _ => .refl

theorem calls_lift {operation : World → α × World}
    (called : ∀ world : World, world.bus.Called reach (operation world).2.bus) :
    Calls reach (lift operation) :=
  called

theorem Calls.bind {first : Usb α} {next : α → Usb β} (calls : first.Calls reach)
    (further : ∀ value, (next value).Calls reach) : Calls reach (first >>= next) := by
  intro world
  rw [ends_bind]
  refine (calls world).imp (fun value after called => ?_) fun _ _ called => called
  exact (further value after).imp (fun _ _ more => called.trans more)
    fun _ _ more => called.trans more

theorem calls_invoke (library : Library) (policy : CallPolicy) (site : String)
    (function : NativeFunction) {native : Bus → Reply α × Bus} (call : NativeCall)
    (same : ∀ bus, (native bus).2 = call.after bus)
    (within : call.Within reach) :
    (library.invoke policy site function native).Calls reach := by
  intro world
  have called : world.bus.Called reach (native world.bus).2 :=
    same world.bus ▸ Bus.called call world.bus within
  rw [Library.invoke_ends]
  split
  · exact called
  · exact called

theorem Calls.ok {operation : Usb α} (calls : operation.Calls reach) {value : α}
    (reached : operation world = .ok value after) : world.bus.Called reach after.bus :=
  (calls world).of_ok reached

theorem Calls.error {operation : Usb α} (calls : operation.Calls reach) {error : UsbError}
    (reached : operation world = .error error after) : world.bus.Called reach after.bus :=
  (calls world).of_error reached

end Usb

open Usb (calls_pure calls_throw calls_debug calls_lift calls_invoke)

/-! ## Operations -/

theorem Context.start_calls (library : Library) : (start library).Calls reach :=
  (calls_invoke _ _ _ _ .initLibrary (fun _ => rfl) trivial).bind fun _ =>
    (calls_debug _).bind fun _ => calls_pure _

theorem DeviceList.enumerate_calls (context : Context) : (enumerate context).Calls reach :=
  (calls_invoke _ _ _ _ (.getDeviceList context.raw) (fun _ => rfl) trivial).bind fun _ =>
    (calls_debug _).bind fun _ => calls_pure _

namespace Device

variable (device : Device)

theorem requireRaw_calls : device.requireRaw.Calls reach := by
  unfold requireRaw
  split
  · exact calls_pure _
  · exact calls_throw _

theorem openHandle_calls : device.openHandle.Calls reach :=
  device.requireRaw_calls.bind fun raw =>
    (calls_invoke _ _ _ _ (.openDevice raw) (fun _ => rfl) trivial).bind fun _ =>
      (calls_debug _).bind fun _ => calls_pure _

theorem configDescriptorWith_calls (policy : CallPolicy) (index : UInt8) :
    (device.configDescriptorWith policy index).Calls reach := by
  refine device.requireRaw_calls.bind fun raw =>
    (calls_invoke _ _ _ _ (.getConfigDescriptor raw index) (fun _ => rfl) trivial).bind
      fun reply => ?_
  split
  · exact calls_pure _
  · exact calls_pure _

theorem descriptorWith_calls (policy : CallPolicy) : (device.descriptorWith policy).Calls reach :=
  device.requireRaw_calls.bind fun raw =>
    (calls_invoke _ _ _ _ (.getDeviceDescriptor raw) (fun _ => rfl) trivial).bind fun _ =>
      calls_pure _

theorem portNumbers_calls : device.portNumbers.Calls reach :=
  device.requireRaw_calls.bind fun raw =>
    (calls_invoke _ _ _ _ (.getPortNumbers raw maxPortNumbers) (fun _ => rfl) trivial).bind fun _ =>
      calls_pure _

theorem busNumber_called (world : World) :
    world.bus.Called reach (device.busNumber world).2.bus := by
  unfold busNumber
  split
  · next raw _ => exact Bus.called (.getBusNumber raw) world.bus trivial
  · exact .refl

theorem address_called (world : World) : world.bus.Called reach (device.address world).2.bus := by
  unfold address
  split
  · next raw _ => exact Bus.called (.getDeviceAddress raw) world.bus trivial
  · exact .refl

theorem path_calls : device.path.Calls reach :=
  device.portNumbers_calls.bind fun _ =>
    (calls_lift device.busNumber_called).bind fun _ => calls_pure _

theorem takeReference_called (raw : Address) (world : World) :
    world.bus.Called reach (takeReference raw world).bus := by
  unfold takeReference
  split
  · exact .refl
  · exact Bus.called (.refDevice raw) world.bus trivial

end Device

/-- Disposing of what is owned is one call, or none. -/
theorem Owner.dispose_called {disposal : α → World → World} (call : α → NativeCall)
    (same : ∀ raw world, (disposal raw world).bus = (call raw).after world.bus)
    (owner : Owner α) (within : ∀ raw, owner.raw = some raw → (call raw).Within reach)
    (world : World) : world.bus.Called reach (owner.dispose disposal world).bus := by
  unfold dispose
  split
  · next raw owned => exact same raw world ▸ Bus.called (call raw) world.bus (within raw owned)
  · exact .refl

theorem Device.dispose_called (owner : Owner Address) (world : World) :
    world.bus.Called reach (owner.dispose Device.disposal world).bus :=
  owner.dispose_called .unrefDevice (fun _ _ => rfl) (fun _ _ => trivial) world

theorem Context.dispose_called (owner : Owner Address) (world : World) :
    world.bus.Called reach (owner.dispose Context.disposal world).bus :=
  owner.dispose_called .exitLibrary (fun _ _ => rfl) (fun _ _ => trivial) world

theorem ConfigDescriptor.dispose_called (owner : Owner ConfigPointer) (world : World) :
    world.bus.Called reach (owner.dispose ConfigDescriptor.disposal world).bus :=
  owner.dispose_called (fun pointer => .freeConfigDescriptor pointer.ref) (fun _ _ => rfl)
    (fun _ _ => trivial) world

namespace Handle

variable (handle : Handle)

/-- What needs a native handle is refused without one, and otherwise goes on with it. -/
theorem calls_requireRaw {next : Address → Usb α}
    (further : ∀ raw, handle.owner.raw = some raw → (next raw).Calls reach) :
    (handle.requireRaw >>= next).Calls reach := by
  intro world
  rw [Usb.ends_bind]
  unfold requireRaw
  split
  · next raw owned => exact further raw owned world
  · exact .refl

theorem wrapSystemDevice_calls (context : Context) (systemHandle : Int) :
    (wrapSystemDevice context systemHandle).Calls reach :=
  (calls_invoke _ _ _ _ (.wrapSystemDevice context.raw systemHandle) (fun _ => rfl) trivial).bind
    fun _ => (calls_debug _).bind fun _ => calls_pure _

theorem configurationWith_calls (policy : CallPolicy) :
    (handle.configurationWith policy).Calls reach :=
  handle.calls_requireRaw fun raw _ =>
    (calls_invoke _ _ _ _ (.getConfiguration raw) (fun _ => rfl) trivial).bind fun _ => calls_pure _

theorem setAutoDetachWith_calls (policy : CallPolicy) (enable : Bool) :
    (handle.setAutoDetachWith policy enable).Calls reach :=
  handle.calls_requireRaw fun raw _ =>
    (calls_invoke _ _ _ _ (.setAutoDetach raw _) (fun _ => rfl) trivial).bind fun _ => calls_pure _

theorem device_calls : handle.device.Calls reach := by
  refine handle.calls_requireRaw fun raw _ =>
    (calls_lift fun world => Bus.called (.getDevice raw) world.bus trivial).bind fun device => ?_
  split
  · exact (calls_throw _).bind fun _ => calls_lift (Device.takeReference_called device)
  · exact calls_lift (Device.takeReference_called device)

theorem setConfiguration_calls (own : ∀ raw, handle.owner.raw = some raw → reach.configured raw)
    (value : Int) : (handle.setConfiguration value).Calls reach :=
  handle.calls_requireRaw fun raw owned =>
    (calls_invoke _ _ _ _ (.setConfiguration raw value) (fun _ => rfl) (own raw owned)).bind
      fun _ => calls_pure _

variable (own : ∀ raw, handle.owner.raw = some raw → reach.touched raw)
include own

theorem dispose_called (world : World) :
    world.bus.Called reach (handle.owner.dispose disposal world).bus :=
  handle.owner.dispose_called .closeHandle (fun _ _ => rfl) own world

theorem claimInterface_calls (interface : UInt8) :
    (handle.claimInterface interface).Calls reach := by
  unfold claimInterface
  split
  · exact calls_pure _
  · exact handle.calls_requireRaw fun raw owned =>
      (calls_invoke _ _ _ _ (.claimInterface raw _) (fun _ => rfl) (own raw owned)).bind fun _ =>
        (calls_debug _).bind fun _ => calls_pure _

theorem releaseInterface_calls (interface : UInt8) :
    (handle.releaseInterface interface).Calls reach := by
  unfold releaseInterface
  split
  · exact calls_pure _
  · exact handle.calls_requireRaw fun raw owned =>
      (calls_invoke _ _ _ _ (.releaseInterface raw _) (fun _ => rfl) (own raw owned)).bind fun _ =>
        (calls_debug _).bind fun _ => calls_pure _

omit own in
theorem releaseAll_called (library : Library) {raw : Address} (own : reach.touched raw)
    (interfaces : List UInt8) (world : World) :
    world.bus.Called reach (interfaces.foldl (releaseOne library raw) world).bus := by
  induction interfaces generalizing world with
  | nil => exact .refl
  | cons interface rest ih =>
    have first : world.bus.Called reach (releaseOne library raw world interface).bus :=
      Bus.called (.releaseInterface raw (nativeInterface interface)) world.bus own
    exact first.trans (ih _)

theorem releaseClaimed_called (world : World) :
    world.bus.Called reach (handle.releaseClaimed world).bus := by
  unfold releaseClaimed
  split
  · next raw owned => exact releaseAll_called handle.library (own raw owned) handle.claimed world
  · exact .refl

theorem reset_called (raw : Address) (world : World) :
    world.bus.Called reach (handle.reset raw world).2.bus :=
  (handle.releaseClaimed_called own world).trans (handle.dispose_called own _)

theorem drop_called (world : World) : world.bus.Called reach (handle.drop world).bus :=
  -- The closed handle owns nothing, so that dropping it makes no further call.
  handle.reset_called own 0 world

end Handle

theorem Device.reset_called (device : Device) (raw : Address) (world : World) :
    world.bus.Called reach (device.reset raw world).2.bus :=
  (takeReference_called raw world).trans (dispose_called ..)

namespace DeviceList

theorem drop_called (list : DeviceList) (world : World) :
    world.bus.Called reach (list.drop world).bus := by
  unfold drop
  split
  · next array _ => exact Bus.called (.freeDeviceList (.block array.block) 1) world.bus trivial
  · exact .refl

theorem device?_called (list : DeviceList) (index : Nat) (world : World) :
    world.bus.Called reach (list.device? index world).2.bus := by
  unfold device?
  split
  · exact Device.takeReference_called ..
  · exact .refl

theorem devicesOf_called (library : Library) (entries : List Address) (world : World) :
    world.bus.Called reach (devicesOf library entries world).2.bus := by
  induction entries generalizing world with
  | nil => exact .refl
  | cons raw rest ih => exact (Device.takeReference_called raw world).trans (ih _)

theorem findAmong_called (library : Library) (path : String) (entries : List Address)
    (world : World) : world.bus.Called reach (findAmong library path entries world).2.bus := by
  induction entries generalizing world with
  | nil => exact .refl
  | cons raw rest ih =>
    have taken : world.bus.Called reach (Device.takeReference raw world).bus :=
      Device.takeReference_called raw world
    unfold findAmong
    dsimp only
    split
    · next candidate left read =>
      have asked := taken.trans ((Device.path_calls _).ok read)
      split
      · exact asked
      · exact (asked.trans (Device.dispose_called ..)).trans (ih _)
    · next error left failed =>
      have asked := taken.trans ((Device.path_calls _).error failed)
      exact (asked.trans (Device.dispose_called ..)).trans (ih _)

end DeviceList

theorem Resource.drop_called (resource : Resource)
    (own : ∀ raw, resource.title? = some (.handle raw) → reach.touched raw) (world : World) :
    world.bus.Called reach (resource.drop world).bus := by
  cases resource with
  | context value => exact Context.dispose_called ..
  | list value => exact value.drop_called world
  | device value => exact Device.dispose_called ..
  | handle value =>
    exact value.drop_called (fun raw owned => own raw (by simp [title?, owned])) world
  | descriptor value => exact ConfigDescriptor.dispose_called ..

/-! ## Steps -/

namespace Session

/-- Nothing happened to the bus from the session on but native calls within the reach. -/
def Called (reach : Bus.Reach) (session : Session) (ended : Ended) : Prop :=
  session.world.bus.Called reach ended.2.world.bus

theorem answer_called (session : Session) (answer : Answer) :
    session.Called reach (session.answer answer) :=
  .refl

theorem withSlot_called {slot : Option α} {next : α → Ended}
    (present : ∀ value, slot = some value → session.Called reach (next value)) :
    session.Called reach (session.withSlot slot next) := by
  unfold withSlot
  split
  · exact present _ rfl
  · exact .refl

theorem perform_called {operation : Usb α} {next : α → Session → Ended}
    (calls : operation.Calls reach)
    (further : ∀ value world, Called reach { session with world }
      (next value { session with world })) :
    session.Called reach (session.perform operation next) := by
  unfold perform
  split
  · next value after reached => exact (calls.ok reached).trans (further value after)
  · next error after reached => exact calls.error reached

theorem run_called {operation : World → α × World} {next : α → Session → Ended}
    (called : session.world.bus.Called reach (operation session.world).2.bus)
    (further : ∀ value world, Called reach { session with world }
      (next value { session with world })) :
    session.Called reach (session.run operation next) :=
  called.trans (further _ _)

/-- Storing a resource drops one of the same kind, or none. -/
theorem store_called (session : Session) (name : String) {resource : Resource}
    (displaces : resource.kind = .handle → ∀ raw, reach.touched raw) :
    session.world.bus.Called reach (session.store name resource).world.bus := by
  unfold store
  dsimp only
  split
  · next old found =>
    refine old.drop_called (fun raw owned => displaces ?_ raw) session.world
    rw [← Resources.find?_kind found]
    cases old with
    | handle value => rfl
    | context value | list value | device value | descriptor value =>
      simp [Resource.title?] at owned
  · exact .refl

theorem storing_called (session : Session) (name : String) {resource : Resource}
    (displaces : resource.kind = .handle → ∀ raw, reach.touched raw) :
    session.Called reach (session.storing name resource) :=
  session.store_called name displaces

end Session

open Session (answer_called withSlot_called perform_called run_called storing_called)

/-! ### Contexts and lists -/

theorem ContextStep.startInto_called (target : String) (source : ContextSource) :
    session.Called reach (startInto session target source) := by
  cases source with
  | defaults | policies policies | session =>
    exact perform_called (Context.start_calls _) fun _ _ => storing_called _ _ nofun
  | settings settings =>
    refine run_called ?_ fun result world => ?_
    · unfold Context.startWithSettings
      split
      · exact .refl
      · next policies _ =>
        have calls : (Context.start ⟨session.library.describe, policies⟩).Calls reach :=
          Context.start_calls _
        split
        · next reached => exact calls.ok reached
        · next reached => exact calls.error reached
    · cases result with
      | ok context => exact storing_called _ _ nofun
      | error error => exact .refl

theorem ContextStep.called (step : ContextStep) : session.Called reach (step.perform session) := by
  cases step with
  | start target source => exact startInto_called target source
  | empty target | adopt target raw => exact storing_called _ _ nofun
  | look name => exact withSlot_called fun _ _ => answer_called ..
  | reset name raw => exact withSlot_called fun _ _ => Context.dispose_called ..
  | release name => exact withSlot_called fun _ _ => .refl

theorem ListStep.storeNumbered_called (stem : String) (session : Session) (devices : List Device) :
    session.world.bus.Called reach (storeNumbered stem session devices).world.bus := by
  unfold storeNumbered
  induction devices.zipIdx generalizing session with
  | nil => exact .refl
  | cons entry rest ih =>
    have first : session.world.bus.Called reach
        (session.store (stem ++ toString entry.2) (.device entry.1)).world.bus :=
      session.store_called _ nofun
    exact first.trans (ih _)

theorem ListStep.called (step : ListStep) : session.Called reach (step.perform session) := by
  cases step with
  | enumerate target context =>
    exact withSlot_called fun context _ =>
      perform_called (DeviceList.enumerate_calls context) fun _ _ => storing_called _ _ nofun
  | look name | get name index => exact withSlot_called fun _ _ => answer_called ..
  | entryAt name index | index name index =>
    refine withSlot_called fun list _ => ?_
    split
    · exact answer_called ..
    · exact .refl
  | device name index target =>
    refine withSlot_called fun list _ => run_called (list.device?_called index _) ?_
    intro found world
    cases found with
    | some device => exact Session.store_called _ _ nofun
    | none => exact .refl
  | devices name stem backwards =>
    exact withSlot_called fun list _ => run_called (DeviceList.devicesOf_called ..) fun _ _ =>
      storeNumbered_called ..
  | find name path target =>
    refine withSlot_called fun list _ => run_called (DeviceList.findAmong_called ..) ?_
    intro found world
    cases found with
    | some device => exact Session.store_called _ _ nofun
    | none => exact .refl

/-! ### Devices -/

theorem Device.descriptorOrDefault_called (device : Device) (world : World) :
    world.bus.Called reach (device.descriptorOrDefault world).2.bus := by
  have calls : (device.descriptorWith device.library.policies.query.quiet).Calls reach :=
    device.descriptorWith_calls _
  unfold descriptorOrDefault
  split
  · next reached => exact calls.ok reached
  · next reached => exact calls.error reached

theorem DeviceStep.called (anything : ∀ raw, reach.touched raw) (step : DeviceStep) :
    session.Called reach (step.perform session) := by
  cases step with
  | empty target => exact storing_called _ _ nofun
  | adopt target raw context =>
    cases context with
    | none =>
      exact run_called (Device.takeReference_called ..) fun _ _ => storing_called _ _ nofun
    | some context =>
      exact withSlot_called fun _ _ =>
        run_called (Device.takeReference_called ..) fun _ _ => storing_called _ _ nofun
  | look name => exact withSlot_called fun _ _ => answer_called ..
  | clone name target =>
    exact withSlot_called fun _ _ =>
      run_called (Device.takeReference_called ..) fun _ _ => storing_called _ _ nofun
  | reset name raw => exact withSlot_called fun device _ => device.reset_called raw session.world
  | release name => exact withSlot_called fun _ _ => .refl
  | openHandle name target =>
    exact withSlot_called fun device _ =>
      perform_called device.openHandle_calls fun _ _ => storing_called _ _ fun _ => anything
  | config name index target policy =>
    refine withSlot_called fun device _ => perform_called ?_ fun _ _ => storing_called _ _ nofun
    cases policy with
    | none | some policy => exact device.configDescriptorWith_calls _ index
  | descriptor name policy =>
    refine withSlot_called fun device _ => perform_called ?_ fun _ _ => answer_called ..
    cases policy with
    | none | some policy => exact device.descriptorWith_calls _
  | descriptorOrDefault name =>
    exact withSlot_called fun device _ =>
      run_called (device.descriptorOrDefault_called _) fun _ _ => answer_called ..
  | busNumber name =>
    exact withSlot_called fun device _ =>
      run_called (device.busNumber_called _) fun _ _ => answer_called ..
  | address name =>
    exact withSlot_called fun device _ =>
      run_called (device.address_called _) fun _ _ => answer_called ..
  | ports name =>
    exact withSlot_called fun device _ =>
      perform_called device.portNumbers_calls fun _ _ => answer_called ..
  | path name =>
    exact withSlot_called fun device _ =>
      perform_called device.path_calls fun _ _ => answer_called ..

/-! ### Handles -/

theorem Handle.configurationOrDefault_called (handle : Handle) (world : World) :
    world.bus.Called reach (handle.configurationOrDefault world).2.bus := by
  have calls : (handle.configurationWith handle.library.policies.query.quiet).Calls reach :=
    handle.configurationWith_calls _
  unfold configurationOrDefault
  split
  · next reached => exact calls.ok reached
  · next reached => exact calls.error reached

theorem HandleStep.onClaims_called (name : String) (handle : Handle) {operation : Usb Handle}
    (calls : operation.Calls reach) :
    session.Called reach (onClaims session name handle operation) := by
  unfold onClaims
  split
  · next reached => exact calls.ok reached
  · next reached => exact calls.error reached

/-- The name of the handle that a step is performed on. -/
def HandleStep.subject? : HandleStep → Option String
  | empty _ | adopt .. | wrap .. => none
  | look name | isClaimed name _ | claim name _ | unclaim name _ | setConfiguration name _
  | configuration name _ | configurationOrDefault name | autoDetach name .. | device name _
  | reset name _ | close name | release name => some name

def HandleStep.configures : HandleStep → Bool
  | setConfiguration .. => true
  | _ => false

/-- A step on a handle changes that handle only. A step that makes a handle may displace any
other. -/
theorem HandleStep.called (step : HandleStep)
    (displaces : step.subject? = none → ∀ raw, reach.touched raw)
    (own : ∀ name ∈ step.subject?, ∀ handle, session.resources.handle? name = some handle →
      ∀ raw, handle.owner.raw = some raw →
        reach.touched raw ∧ (step.configures → reach.configured raw)) :
    session.Called reach (step.perform session) := by
  cases step with
  | empty target | adopt target raw => exact storing_called _ _ fun _ => displaces rfl
  | wrap target context systemHandle =>
    exact withSlot_called fun context _ =>
      perform_called (Handle.wrapSystemDevice_calls context systemHandle) fun _ _ =>
        storing_called _ _ fun _ => displaces rfl
  | look name | isClaimed name interface => exact withSlot_called fun _ _ => answer_called ..
  | claim name interface =>
    exact withSlot_called fun handle found => onClaims_called name handle
      (handle.claimInterface_calls (fun raw owned => (own name rfl handle found raw owned).1)
        interface)
  | unclaim name interface =>
    exact withSlot_called fun handle found => onClaims_called name handle
      (handle.releaseInterface_calls (fun raw owned => (own name rfl handle found raw owned).1)
        interface)
  | setConfiguration name value =>
    exact withSlot_called fun handle found => perform_called
      (handle.setConfiguration_calls
        (fun raw owned => (own name rfl handle found raw owned).2 rfl) value)
      fun _ _ => answer_called ..
  | configuration name policy =>
    refine withSlot_called fun handle _ => perform_called ?_ fun _ _ => answer_called ..
    cases policy with
    | none | some policy => exact handle.configurationWith_calls _
  | configurationOrDefault name =>
    exact withSlot_called fun handle _ =>
      run_called (handle.configurationOrDefault_called _) fun _ _ => answer_called ..
  | autoDetach name enable policy =>
    refine withSlot_called fun handle _ => perform_called ?_ fun _ _ => answer_called ..
    cases policy with
    | none | some policy => exact handle.setAutoDetachWith_calls _ enable
  | device name target =>
    exact withSlot_called fun handle _ =>
      perform_called handle.device_calls fun _ _ => storing_called _ _ nofun
  | reset name raw =>
    exact withSlot_called fun handle found =>
      handle.reset_called (fun raw owned => (own name rfl handle found raw owned).1) raw
        session.world
  | close name =>
    exact withSlot_called fun handle found =>
      handle.reset_called (fun raw owned => (own name rfl handle found raw owned).1) 0
        session.world
  | release name => exact withSlot_called fun _ _ => .refl

/-! ### The other steps -/

theorem DescriptorStep.called (step : DescriptorStep) :
    session.Called reach (step.perform session) := by
  cases step with
  | empty target => exact storing_called _ _ nofun
  | look name => exact withSlot_called fun _ _ => answer_called ..
  | clear name => exact withSlot_called fun _ _ => ConfigDescriptor.dispose_called ..
  | release name held =>
    refine withSlot_called fun descriptor _ => ?_
    dsimp only
    split
    · exact .refl
    · exact .refl
  | adopt target held =>
    cases held with
    | none => exact storing_called _ _ nofun
    | some held =>
      exact withSlot_called fun _ _ =>
        ({ session with heldRecords := session.heldRecords.remove held } : Session).store_called _
          nofun

theorem NativeCall.within_all (anything : ∀ raw, reach.touched raw ∧ reach.configured raw)
    (call : NativeCall) : call.Within reach := by
  cases call with
  | closeHandle raw | claimInterface raw interface | releaseInterface raw interface =>
    exact (anything raw).1
  | setConfiguration raw value => exact (anything raw).2
  | _ => trivial

theorem NativeStep.called (anything : ∀ raw, reach.touched raw ∧ reach.configured raw)
    (step : NativeStep) : session.Called reach (step.perform session) := by
  cases step with
  | describe code => exact answer_called ..
  | call call => exact run_called (Bus.called call _ (call.within_all anything)) fun _ _ => .refl
  | enumerate context held =>
    exact run_called (Bus.called (.getDeviceList context) _ trivial) fun _ _ => .refl
  | readConfig device index held =>
    exact run_called (Bus.called (.getConfigDescriptor device index) _ trivial) fun _ _ => .refl
  | freeHeldArray held unref =>
    exact withSlot_called fun array _ =>
      Bus.called (.freeDeviceList (.block array.block) unref) session.world.bus trivial
  | freeHeldRecord held =>
    exact withSlot_called fun pointer _ =>
      Bus.called (.freeConfigDescriptor pointer.ref) session.world.bus trivial

/-- Whether a step does something to the bus or looks at it from outside. -/
def Step.isOutside : Step → Bool
  | .control _ => true
  | _ => false

/-- Whether a step may configure a handle. -/
def Step.configures : Step → Bool
  | .handle step => step.configures
  | step => step.isNative

/-- Every other step makes native calls, and nothing else happens to the bus. -/
theorem Session.step_called (session : Session) {step : Step} (inside : step.isOutside = false)
    (anything : ∀ raw, reach.touched raw)
    (configured : step.configures → ∀ raw, reach.configured raw) :
    session.Called reach (session.step step) := by
  cases step with
  | control step => contradiction
  | context step => exact step.called
  | list step => exact step.called
  | device step => exact step.called anything
  | handle step =>
    exact step.called (fun _ => anything) fun _ _ _ _ raw _ =>
      ⟨anything raw, fun configures => configured configures raw⟩
  | descriptor step => exact step.called
  | native step =>
    cases step with
    | describe code => exact answer_called ..
    | call | enumerate | readConfig | freeHeldArray | freeHeldRecord =>
      exact NativeStep.called (fun raw => ⟨anything raw, configured rfl raw⟩) _
  | drop kind name =>
    exact withSlot_called fun resource _ =>
      resource.drop_called (fun raw _ => anything raw) session.world
  | move kind name target =>
    exact withSlot_called fun _ _ =>
      ({ session with resources := session.resources.remove kind name } : Session).store_called _
        fun _ => anything
  | inspect kind name pretty => exact withSlot_called fun _ _ => answer_called ..

end UsbHost
