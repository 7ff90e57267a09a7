import UsbHost.Proofs.SessionMoves

/-!
# Inheritance of policies

A resource that is made from another one carries the texts and policies of that one. So whatever
holds of the libraries that are brought into a session holds of every resource of the session,
through any chain of steps, whether or not the client keeps to the rules.
-/

set_option autoImplicit false

namespace UsbHost

variable {α β : Type} {session : Session} {allowed : Library → Prop} {library : Library}

/-! ## What operations make -/

/-- Whatever the operation answers has the property. -/
def Usb.Yields (operation : Usb α) (property : α → Prop) : Prop :=
  ∀ world value after, operation world = .ok value after → property value

namespace Usb

variable {property : α → Prop}

theorem Yields.pure {value : α} (holds : property value) :
    Yields (Pure.pure value : Usb α) property := by
  intro world answered after reached
  obtain ⟨rfl, -⟩ := EStateM.Result.ok.inj reached
  exact holds

theorem Yields.lift {operation : World → α × World}
    (holds : ∀ world, property (operation world).1) : Yields (Usb.lift operation) property := by
  intro world answered after reached
  obtain ⟨rfl, -⟩ := EStateM.Result.ok.inj reached
  exact holds world

/-- Only the last part of an operation answers. -/
theorem Yields.bind {first : Usb β} {next : β → Usb α}
    (later : ∀ value, (next value).Yields property) : Yields (first >>= next) property := by
  intro world answered after reached
  simp only [Bind.bind, EStateM.bind] at reached
  split at reached
  · next value middle _ => exact later value middle answered after reached
  · contradiction

end Usb

open Usb (Yields)

theorem Context.start_yields (library : Library) :
    (Context.start library).Yields fun context => context.library = library :=
  .bind fun _ => .bind fun _ => .pure rfl

theorem DeviceList.enumerate_yields (context : Context) :
    (DeviceList.enumerate context).Yields fun list => list.library = context.library :=
  .bind fun _ => .bind fun _ => .pure rfl

theorem Device.openHandle_yields (device : Device) :
    device.openHandle.Yields fun handle => handle.library = device.library :=
  .bind fun _ => .bind fun _ => .bind fun _ => .pure rfl

theorem Device.configDescriptorWith_yields (device : Device) (policy : CallPolicy)
    (index : UInt8) :
    (device.configDescriptorWith policy index).Yields fun descriptor =>
      descriptor.library = device.library := by
  refine .bind fun _ => .bind fun reply => ?_
  split
  · exact .pure rfl
  · exact .pure rfl

theorem Handle.wrapSystemDevice_yields (context : Context) (systemHandle : Int) :
    (Handle.wrapSystemDevice context systemHandle).Yields fun handle =>
      handle.library = context.library :=
  .bind fun _ => .bind fun _ => .pure rfl

theorem Handle.device_yields (handle : Handle) :
    handle.device.Yields fun device => device.library = handle.library := by
  refine .bind fun _ => .bind fun raw => ?_
  split
  · exact .bind fun _ => .lift fun _ => rfl
  · exact .lift fun _ => rfl

theorem Handle.claimInterface_yields (handle : Handle) (interface : UInt8) :
    (handle.claimInterface interface).Yields fun value => value.library = handle.library := by
  unfold claimInterface
  split
  · exact .pure rfl
  · exact .bind fun _ => .bind fun _ => .bind fun _ => .pure rfl

theorem Handle.releaseInterface_yields (handle : Handle) (interface : UInt8) :
    (handle.releaseInterface interface).Yields fun value => value.library = handle.library := by
  unfold releaseInterface
  split
  · exact .pure rfl
  · exact .bind fun _ => .bind fun _ => .bind fun _ => .pure rfl

theorem DeviceList.device?_library {list : DeviceList} {index : Nat} {world : World}
    {device : Device} (found : (list.device? index world).1 = some device) :
    device.library = list.library := by
  unfold device? at found
  split at found
  · obtain rfl := Option.some.inj found
    rfl
  · contradiction

theorem DeviceList.devicesOf_library (library : Library) (raws : List Address) (world : World) :
    ∀ device ∈ (devicesOf library raws world).1, device.library = library := by
  induction raws generalizing world with
  | nil => exact List.forall_mem_nil _
  | cons raw rest ih => exact List.forall_mem_cons.mpr ⟨rfl, ih _⟩

theorem DeviceList.findAmong_library {path : String} {raws : List Address} {world : World}
    {device : Device} (found : (findAmong library path raws world).1 = some device) :
    device.library = library := by
  induction raws generalizing world with
  | nil => contradiction
  | cons raw rest ih =>
    simp only [findAmong] at found
    split at found
    · split at found
      · obtain rfl := Option.some.inj found
        rfl
      · exact ih found
    · exact ih found

/-! ## What a session carries -/

namespace Session

/-- The texts and policies that a step brings into the session, where they are not those of a
resource that it makes its own from. -/
def introduces? (session : Session) : Step → Option Library
  | .context (.start target source) => session.startsWith? (.context (.start target source))
  | .context (.empty _) | .context (.adopt ..) | .device (.empty _) | .device (.adopt _ _ none)
  | .handle (.empty _) | .handle (.adopt ..) | .descriptor (.empty _) | .descriptor (.adopt ..) =>
    some session.library
  | _ => none

/-- Every resource of the session carries texts and policies that are allowed. -/
def Carries (session : Session) (allowed : Library → Prop) : Prop :=
  ∀ resource ∈ session.owners, allowed resource.library

variable {kind : ResourceKind} {name : String} {resource : Resource}

theorem Carries.found (carries : session.Carries allowed)
    (found : session.resources.find? kind name = some resource) : allowed resource.library :=
  carries resource (Resources.mem_of_find? found)

theorem Carries.remove (carries : session.Carries allowed) (kind : ResourceKind) (name : String) :
    { session with resources := session.resources.remove kind name }.Carries allowed := by
  intro resource member
  obtain ⟨entry, inside, rfl⟩ := List.mem_map.mp member
  exact carries entry.2 (List.mem_map_of_mem (List.mem_filter.mp inside).1)

theorem Carries.put (carries : session.Carries allowed) (name : String)
    (new : allowed resource.library) :
    { session with resources := session.resources.put name resource }.Carries allowed := by
  intro other member
  rcases List.mem_cons.mp (Resources.put_perm.mem_iff.mp member) with rfl | older
  · exact new
  · exact carries.remove resource.kind name other older

/-- A resource may be exchanged for one that carries the same. -/
theorem Carries.exchange {old : Resource} (new : Resource) (carries : session.Carries allowed)
    (found : session.resources.find? kind name = some old) (same : new.library = old.library)
    (world : World) : (session.update name new world).Carries allowed := by
  have inherited : allowed new.library := by
    rw [same]
    exact carries.found found
  exact carries.put name inherited

theorem Carries.store (carries : session.Carries allowed) (world : World) (name : String)
    (new : allowed resource.library) :
    ({ session with world }.store name resource).Carries allowed := by
  have stored := carries.put name new
  unfold Carries owners at stored ⊢
  rw [store_resources]
  exact stored

theorem withSlot_carries {slot : Option α} {next : α → Ended} (carries : session.Carries allowed)
    (present : ∀ value, slot = some value → (next value).2.Carries allowed) :
    (session.withSlot slot next).2.Carries allowed := by
  unfold withSlot
  cases found : slot with
  | some value => exact present value found
  | none => exact carries

theorem perform_carries {operation : Usb α} {next : α → Session → Ended}
    (carries : session.Carries allowed)
    (answers : ∀ value after, operation session.world = .ok value after →
      (next value { session with world := after }).2.Carries allowed) :
    (session.perform operation next).2.Carries allowed := by
  unfold perform
  cases reached : operation session.world with
  | ok value after => exact answers value after reached
  | error error after => exact carries

theorem perform_storing_carries {operation : Usb α} {wrap : α → Resource}
    (carries : session.Carries allowed) (new : allowed library)
    (yields : operation.Yields fun value => (wrap value).library = library) (name : String) :
    (session.perform operation fun value => storing name (wrap value)).2.Carries allowed := by
  refine perform_carries carries fun value after reached => carries.store after name ?_
  rw [yields session.world value after reached]
  exact new

theorem run_storing_carries {operation : World → α × World} {wrap : α → Resource}
    (carries : session.Carries allowed) (new : allowed library)
    (made : ∀ world, (wrap (operation world).1).library = library) (name : String) :
    (session.run operation fun value => storing name (wrap value)).2.Carries allowed := by
  refine carries.store (operation session.world).2 name ?_
  rw [made]
  exact new

end Session

/-! ## Steps -/

open Session (Carries withSlot_carries perform_carries perform_storing_carries
  run_storing_carries)

theorem ControlStep.carries (carries : session.Carries allowed) (step : ControlStep) :
    (step.perform session).2.Carries allowed := by
  cases step with
  | fail function code =>
    unfold perform
    dsimp only
    split
    · exact carries
    · exact carries
  | attach info | attachMany count info | failReleaseOf interface code | clearFailures
  | references device | claims handle | countCalls function | callArguments function
  | misuseCount | logCount level | logMessages level => exact carries

theorem ContextStep.carries (carries : session.Carries allowed) (step : ContextStep)
    (introduced : ∀ library ∈ session.introduces? (.context step), allowed library) :
    (step.perform session).2.Carries allowed := by
  cases step with
  | start target source =>
    cases source with
    | defaults | policies policies | session =>
      exact perform_storing_carries carries (introduced _ rfl) (Context.start_yields _) target
    | settings settings =>
      unfold perform startInto Session.run Context.startWithSettings
      dsimp only
      cases read : Policies.ofSettings settings with
      | error invalid => exact carries
      | ok policies =>
        have new : allowed { describe := session.library.describe, policies } := by
          refine introduced _ ?_
          simp [Session.introduces?, Session.startsWith?, read, Except.toOption]
        dsimp only
        cases reached : Context.start { describe := session.library.describe, policies }
            session.world with
        | ok context after =>
          refine carries.store after target ?_
          rw [Resource.library, Context.start_yields _ _ _ _ reached]
          exact new
        | error error after => exact carries
  | empty target => exact carries.store _ target (introduced _ rfl)
  | adopt target raw => exact carries.store _ target (introduced _ rfl)
  | look name => exact withSlot_carries carries fun _ _ => carries
  | reset name raw =>
    refine withSlot_carries carries fun context found => ?_
    exact carries.exchange (.context (context.reset raw session.world).1)
      (Resources.context?_eq_some found) rfl _
  | release name =>
    refine withSlot_carries carries fun context found => ?_
    exact carries.exchange (.context context.release.2)
      (Resources.context?_eq_some found) rfl _

theorem ListStep.storeNumbered_carries (stem : String) {devices : List Device}
    (carries : session.Carries allowed) (made : ∀ device ∈ devices, allowed device.library) :
    (storeNumbered stem session devices).Carries allowed := by
  refine List.foldlRecOn (motive := fun session : Session => session.Carries allowed) _ _
    carries ?_
  intro session carries entry member
  exact carries.store _ _ (made entry.1 (List.fst_mem_of_mem_zipIdx member))

theorem ListStep.carries (carries : session.Carries allowed) (step : ListStep) :
    (step.perform session).2.Carries allowed := by
  cases step with
  | enumerate target context =>
    refine withSlot_carries carries fun value found => ?_
    have inherited := carries.found (Resources.context?_eq_some found)
    exact perform_storing_carries carries inherited (DeviceList.enumerate_yields value) target
  | look name | get name position => exact withSlot_carries carries fun _ _ => carries
  | entryAt name position =>
    refine withSlot_carries carries fun value _ => ?_
    split
    · exact carries
    · exact carries
  | index name position =>
    refine withSlot_carries carries fun value _ => ?_
    split
    · exact carries
    · exact carries
  | device name position target =>
    refine withSlot_carries carries fun value found => ?_
    have inherited := carries.found (Resources.list?_eq_some found)
    unfold Session.run
    dsimp only
    split
    · next device made =>
      refine carries.store _ target ?_
      rw [Resource.library, DeviceList.device?_library made]
      exact inherited
    · exact carries
  | devices name stem backwards =>
    refine withSlot_carries carries fun value found => ?_
    have inherited := carries.found (Resources.list?_eq_some found)
    have listed : { session with world := (value.devices backwards session.world).2 }.Carries
        allowed := carries
    refine storeNumbered_carries stem listed fun device member => ?_
    rw [DeviceList.devicesOf_library _ _ _ device member]
    exact inherited
  | find name path target =>
    refine withSlot_carries carries fun value found => ?_
    have inherited := carries.found (Resources.list?_eq_some found)
    unfold Session.run
    dsimp only
    split
    · next device made =>
      refine carries.store _ target ?_
      rw [Resource.library, DeviceList.findAmong_library made]
      exact inherited
    · exact carries

theorem DeviceStep.carries (carries : session.Carries allowed) (step : DeviceStep)
    (introduced : ∀ library ∈ session.introduces? (.device step), allowed library) :
    (step.perform session).2.Carries allowed := by
  cases step with
  | empty target => exact carries.store _ target (introduced _ rfl)
  | adopt target raw context =>
    cases context with
    | none => exact run_storing_carries carries (introduced _ rfl) (fun _ => rfl) target
    | some context =>
      refine withSlot_carries carries fun value found => ?_
      have inherited := carries.found (Resources.context?_eq_some found)
      exact run_storing_carries carries inherited (fun _ => rfl) target
  | look name | descriptorOrDefault name | busNumber name | address name =>
    exact withSlot_carries carries fun _ _ => carries
  | clone name target =>
    refine withSlot_carries carries fun value found => ?_
    have inherited := carries.found (Resources.device?_eq_some found)
    exact run_storing_carries carries inherited (fun _ => rfl) target
  | reset name raw =>
    refine withSlot_carries carries fun value found => ?_
    exact carries.exchange (.device (value.reset raw session.world).1)
      (Resources.device?_eq_some found) rfl _
  | release name =>
    refine withSlot_carries carries fun value found => ?_
    exact carries.exchange (.device value.release.2)
      (Resources.device?_eq_some found) rfl _
  | openHandle name target =>
    refine withSlot_carries carries fun value found => ?_
    have inherited := carries.found (Resources.device?_eq_some found)
    exact perform_storing_carries carries inherited value.openHandle_yields target
  | config name index target policy =>
    refine withSlot_carries carries fun value found => ?_
    have inherited := carries.found (Resources.device?_eq_some found)
    cases policy with
    | none | some policy =>
      exact perform_storing_carries carries inherited (value.configDescriptorWith_yields _ index)
        target
  | descriptor name policy | ports name | path name =>
    exact withSlot_carries carries fun _ _ => perform_carries carries fun _ _ _ => carries

theorem HandleStep.onClaims_carries {name : String} {handle : Handle} {operation : Usb Handle}
    (carries : session.Carries allowed)
    (found : session.resources.find? .handle name = some (.handle handle))
    (yields : operation.Yields fun value => value.library = handle.library) :
    (onClaims session name handle operation).2.Carries allowed := by
  unfold onClaims
  cases reached : operation session.world with
  | ok value after =>
    refine carries.exchange _ found ?_ after
    exact yields _ _ _ reached
  | error error after => exact carries

theorem HandleStep.carries (carries : session.Carries allowed) (step : HandleStep)
    (introduced : ∀ library ∈ session.introduces? (.handle step), allowed library) :
    (step.perform session).2.Carries allowed := by
  cases step with
  | empty target => exact carries.store _ target (introduced _ rfl)
  | adopt target raw => exact carries.store _ target (introduced _ rfl)
  | wrap target context systemHandle =>
    refine withSlot_carries carries fun value found => ?_
    have inherited := carries.found (Resources.context?_eq_some found)
    exact perform_storing_carries carries inherited
      (Handle.wrapSystemDevice_yields value systemHandle) target
  | look name | isClaimed name interface | configurationOrDefault name =>
    exact withSlot_carries carries fun _ _ => carries
  | claim name interface =>
    refine withSlot_carries carries fun value found => ?_
    exact onClaims_carries carries (Resources.handle?_eq_some found)
      (value.claimInterface_yields interface)
  | unclaim name interface =>
    refine withSlot_carries carries fun value found => ?_
    exact onClaims_carries carries (Resources.handle?_eq_some found)
      (value.releaseInterface_yields interface)
  | setConfiguration name value | configuration name policy | autoDetach name enable policy =>
    exact withSlot_carries carries fun _ _ => perform_carries carries fun _ _ _ => carries
  | device name target =>
    refine withSlot_carries carries fun value found => ?_
    have inherited := carries.found (Resources.handle?_eq_some found)
    exact perform_storing_carries carries inherited value.device_yields target
  | reset name raw =>
    refine withSlot_carries carries fun value found => ?_
    exact carries.exchange (.handle (value.reset raw session.world).1)
      (Resources.handle?_eq_some found) rfl _
  | close name =>
    refine withSlot_carries carries fun value found => ?_
    exact carries.exchange (.handle (value.close session.world).1)
      (Resources.handle?_eq_some found) rfl _
  | release name =>
    refine withSlot_carries carries fun value found => ?_
    exact carries.exchange (.handle value.release.2)
      (Resources.handle?_eq_some found) rfl _

theorem DescriptorStep.carries (carries : session.Carries allowed) (step : DescriptorStep)
    (introduced : ∀ library ∈ session.introduces? (.descriptor step), allowed library) :
    (step.perform session).2.Carries allowed := by
  cases step with
  | empty target => exact carries.store _ target (introduced _ rfl)
  | look name => exact withSlot_carries carries fun _ _ => carries
  | clear name =>
    refine withSlot_carries carries fun value found => ?_
    exact carries.exchange (.descriptor (value.clear session.world).1)
      (Resources.descriptor?_eq_some found) rfl _
  | release name held =>
    refine withSlot_carries carries fun value found => ?_
    have released : (session.update name (.descriptor value.release.2) session.world).Carries
        allowed :=
      carries.exchange (.descriptor value.release.2) (Resources.descriptor?_eq_some found) rfl _
    dsimp only
    split
    · exact released
    · exact released
  | adopt target held =>
    cases held with
    | none => exact carries.store _ target (introduced _ rfl)
    | some held =>
      refine withSlot_carries carries fun pointer _ => ?_
      have held : { session with heldRecords := session.heldRecords.remove held }.Carries
          allowed := carries
      exact held.store _ target (introduced _ rfl)

theorem NativeStep.carries (carries : session.Carries allowed) (step : NativeStep) :
    (step.perform session).2.Carries allowed := by
  cases step with
  | describe code | call call | enumerate context held | readConfig device index held =>
    exact carries
  | freeHeldArray held unref | freeHeldRecord held =>
    exact withSlot_carries carries fun _ _ => carries

/-- A step makes no resource whose texts and policies are not those of an older one or those that
it brings in. -/
theorem Session.step_carries (carries : session.Carries allowed) (step : Step)
    (introduced : ∀ library ∈ session.introduces? step, allowed library) :
    (session.step step).2.Carries allowed := by
  cases step with
  | control step => exact step.carries carries
  | context step => exact step.carries carries introduced
  | list step => exact step.carries carries
  | device step => exact step.carries carries introduced
  | handle step => exact step.carries carries introduced
  | descriptor step => exact step.carries carries introduced
  | native step => exact step.carries carries
  | drop kind name => exact withSlot_carries carries fun _ _ => carries.remove kind name
  | move kind name target =>
    refine withSlot_carries carries fun resource found => ?_
    exact (carries.remove kind name).store _ target (carries.found found)
  | inspect kind name pretty => exact withSlot_carries carries fun _ _ => carries

end UsbHost
